import Stencil.Proofs.Environment.Distinct
import Stencil.Proofs.Template.References
import Stencil.Standalone

/-!
# Where the parts of a node stand

The parts of a node carry spans of their own. They lie inside the span of the node, the references
of a string lie inside the string, and what a template mentions lies in the source in the order in
which its names are collected (`Laid`). Each part is what its span cuts out of the source: a
reference compiles alone, a left side or a subject compiles in braces, and a string is cut out with
its quotes. The main statement is `parts_stand_in_source`.

A writing lays out what it stands for from left to right (`laid_filterMap_values`), which gives the
references of one string and of one replacement; the parts of a token and the tokens of a source are
put one after the other by `Laid.append`.
-/

namespace Stencil

/-! ## Parts and their places -/

def Span.Within (s t : Span) : Prop :=
  t.start ≤ s.start ∧ s.stop ≤ t.stop

/-- The strings of a node. -/
def Node.strings : Node → List Quoted
  | .ternary t => t.strings
  | _ => []

/-- Everything that names a variable, in the order in which the names are collected. -/
def Template.mentions (t : Template) : List VariableRef :=
  t.nodes.flatMap Node.mentions

/-- The parts of a node lie inside it, and each is what its span cuts out of the source. -/
structure Node.PartsIn [Pattern.Engine] (source : String) (n : Node) : Prop where
  mentions_within : ∀ v ∈ n.mentions, v.span.Within n.span
  strings_within : ∀ q ∈ n.strings, q.span.Within n.span ∧ ∀ v ∈ q.references, v.span.Within q.span
  references : ∀ v ∈ n.references,
    Template.compile (v.span.slice source) =
      .ok ⟨v.span.slice source, [.variable { v with span := ⟨0, v.span.stop - v.span.start⟩ }]⟩
  subjects : ∀ v ∈ n.subjects,
    Template.compile ("$\x7b" ++ v.span.slice source ++ "\x7d") =
      .ok ⟨"$\x7b" ++ v.span.slice source ++ "\x7d",
        [.variable { v with span := ⟨0, v.span.stop - v.span.start + 3⟩ }]⟩
  quotes : ∀ q ∈ n.strings, ∃ w, (q.span.slice source).toList = '"' :: (w ++ ['"'])

/-- References that lie one after the other between the bytes `a` and `b`, none of them empty. -/
def Laid : Nat → List VariableRef → Nat → Prop
  | a, [], b => a ≤ b
  | a, v :: vs, b => a ≤ v.span.start ∧ v.span.start < v.span.stop ∧ Laid v.span.stop vs b

namespace Laid

variable {a b c : Nat} {vs ws : List VariableRef}

theorem le (h : Laid a vs b) : a ≤ b := by
  induction vs generalizing a with
  | nil => exact h
  | cons v vs ih =>
    have hrest := ih h.2.2
    have hstart := h.1
    have hlt := h.2.1
    omega

theorem of_le (h : Laid b vs c) (hle : a ≤ b) : Laid a vs c := by
  cases vs with
  | nil => exact Nat.le_trans hle h
  | cons v vs => exact ⟨Nat.le_trans hle h.1, h.2⟩

theorem append (h : Laid a vs b) (h' : Laid b ws c) : Laid a (vs ++ ws) c := by
  induction vs generalizing a with
  | nil => exact h'.of_le h
  | cons v vs ih => exact ⟨h.1, h.2.1, ih h.2.2⟩

theorem le_trans (h : Laid a vs b) (hle : b ≤ c) : Laid a vs c := by
  have happend := h.append (show Laid b [] c from hle)
  rwa [List.append_nil] at happend

theorem mem (h : Laid a vs b) {v : VariableRef} (hv : v ∈ vs) :
    a ≤ v.span.start ∧ v.span.start < v.span.stop ∧ v.span.stop ≤ b := by
  induction vs generalizing a with
  | nil => cases hv
  | cons w vs ih =>
    obtain ⟨hstart, hlt, hrest⟩ := h
    rcases List.mem_cons.1 hv with rfl | hv
    · exact ⟨hstart, hlt, hrest.le⟩
    · obtain ⟨hstart', hlt', hstop⟩ := ih hrest hv
      exact ⟨by omega, hlt', hstop⟩

theorem pairwise (h : Laid a vs b) : vs.Pairwise fun v w => v.span.stop ≤ w.span.start := by
  induction vs generalizing a with
  | nil => exact .nil
  | cons v vs ih => exact List.pairwise_cons.2 ⟨fun w hw => (h.2.2.mem hw).1, ih h.2.2⟩

end Laid

/-! ## Mentions from left to right -/

/-- The reference that a replacement takes the value of. -/
def Filler.reference? : Filler → Option VariableRef
  | .group _ => none
  | .variable v => some v

namespace Spelling

/-- References that are written as pieces lie in the order of the pieces. -/
theorem laid_filterMap_values {π α : Type} (W : Writing π α) {f : α → Option VariableRef}
    (hf : ∀ o p v, f (W.value o p) = some v →
      v.span = ⟨o, o + byteWidth (W.text p)⟩ ∧ 0 < byteWidth (W.text p)) (o : Nat) (ps : List π) :
    Laid o ((W.values o ps).filterMap f) (o + byteWidth (W.texts ps)) := by
  induction ps generalizing o with
  | nil => exact Nat.le_add_right _ _
  | cons p ps ih =>
    have hrest := ih (o + byteWidth (W.text p))
    rw [W.texts_cons, byteWidth_append, ← Nat.add_assoc, Writing.values]
    cases hp : f (W.value o p) with
    | none =>
      rw [List.filterMap_cons_none hp]
      exact hrest.of_le (Nat.le_add_right _ _)
    | some v =>
      obtain ⟨hspan, hpos⟩ := hf o p v hp
      rw [List.filterMap_cons_some hp, Laid, hspan]
      exact ⟨Nat.le_refl _, Nat.lt_add_of_pos_right hpos, hrest⟩

theorem Reference.span_ref (r : Reference) (o : Nat) :
    (r.ref o).span = ⟨o, o + byteWidth r.text⟩ := by
  cases r <;> rfl

theorem Reference.byteWidth_pos (r : Reference) : 0 < byteWidth r.text := by
  obtain ⟨w, hw⟩ := r.exists_text
  have hdollar := '$'.utf8Size_pos
  rw [hw, byteWidth_cons]
  omega

theorem Subject.byteWidth_pos {s : Subject} (hs : s.Sound) : 0 < byteWidth s.text := by
  obtain ⟨a, w, hw⟩ := List.exists_cons_of_ne_nil hs.name.ne_nil
  have hpos := a.utf8Size_pos
  rw [text, byteWidth_append, hw, byteWidth_cons]
  omega

theorem laid_quotedValue (o : Nat) (ps : List (Piece Reference)) :
    Laid o (quotedValue o ps).references (o + byteWidth (quotedText ps)) := by
  have hreferences : (quotedValue o ps).references =
      (quotedWriting.values (o + 1) ps).filterMap (Sum.elim (fun _ => none) some) := by
    rw [Quoted.references, quotedValue, Chunk.filterMap_unpack (fun _ => rfl),
      Chunk.unpack_ofPieces]
  have hlaid : Laid (o + 1) (quotedValue o ps).references
      (o + 1 + byteWidth (quotedWriting.texts ps)) := by
    rw [hreferences]
    refine laid_filterMap_values quotedWriting (fun k p v hv => ?_) _ ps
    cases p with
    | glyph g => cases hv
    | token r =>
      cases hv
      exact ⟨r.span_ref k, r.byteWidth_pos⟩
  have hquote : '"'.utf8Size = 1 := rfl
  refine (hlaid.of_le (Nat.le_succ o)).le_trans ?_
  simp only [quotedText, byteWidth_cons, byteWidth_append, byteWidth_nil, hquote]
  omega

theorem Rewrite.laid_edit (x : Rewrite) (start : Nat) (subject : VariableRef) (o : Nat) :
    Laid o (Filler.references (x.edit start subject o).replacement) (o + byteWidth x.text) := by
  let d := x.delimiter.toChar
  let k := o + 1 + byteWidth ((patternWriting d).texts x.pattern) + 1
  have hreferences : Filler.references (x.edit start subject o).replacement =
      ((replacementWriting d).values k x.replacement).filterMap
        (Sum.elim (fun _ => none) Filler.reference?) := by
    rw [Filler.references, edit, Chunk.filterMap_unpack (fun _ => rfl), Chunk.unpack_ofPieces]
    refine List.filterMap_congr fun p _ => ?_
    rcases p with c | g | v <;> rfl
  have hlaid : Laid k (Filler.references (x.edit start subject o).replacement)
      (k + byteWidth ((replacementWriting d).texts x.replacement)) := by
    rw [hreferences]
    refine laid_filterMap_values (replacementWriting d) (fun k p v hv => ?_) k x.replacement
    rcases p with g | ⟨b⟩ | r
    · cases hv
    · cases hv
    · cases hv
      exact ⟨r.span_ref k, r.byteWidth_pos⟩
  refine (hlaid.of_le (by omega)).le_trans ?_
  simp only [k, d, text, byteWidth_cons, byteWidth_append, utf8Size_delimiter]
  omega

theorem Choice.laid_ternary (x : Choice) (start : Nat) (lhs : VariableRef) (o : Nat) :
    Laid o (Node.ternary (x.ternary start lhs o)).references (o + byteWidth x.text) := by
  have hquestion : '?'.utf8Size = 1 := rfl
  have hcolon : ':'.utf8Size = 1 := rfl
  have h₁ := laid_quotedValue (x.comparandAt o) x.comparand
  have h₂ := laid_quotedValue (x.ifTrueAt o) x.ifTrue
  have h₃ := laid_quotedValue (x.ifFalseAt o) x.ifFalse
  have hfirst : o ≤ x.comparandAt o := by
    rw [comparandAt]
    omega
  have hsecond : x.comparandAt o + byteWidth (quotedText x.comparand) ≤ x.ifTrueAt o := by
    rw [ifTrueAt]
    omega
  have hthird : x.ifTrueAt o + byteWidth (quotedText x.ifTrue) ≤ x.ifFalseAt o := by
    rw [ifFalseAt]
    omega
  have hlast : x.ifFalseAt o + byteWidth (quotedText x.ifFalse) ≤ o + byteWidth x.text := by
    simp only [ifFalseAt, ifTrueAt, comparandAt, text, byteWidth_append, byteWidth_cons, hquestion,
      hcolon]
    omega
  have hall := ((h₁.le_trans hsecond).append ((h₂.le_trans hthird).append h₃)).of_le hfirst
  simpa [Node.references, Ternary.strings, ternary] using hall.le_trans hlast

/-- A left side or a subject stands after the opening brace, before what else is mentioned. -/
theorem laid_braces {s : Subject} (hs : s.Sound) {o : Nat} {vs : List VariableRef} {w : List Char}
    (h : Laid (o + 2 + byteWidth s.text) vs (o + 2 + byteWidth s.text + byteWidth w)) :
    Laid o (s.ref ⟨o + 2, o + 2 + byteWidth s.text⟩ :: vs)
      (o + byteWidth ('$' :: '{' :: (s.text ++ w))) := by
  rw [byteWidth_braces, byteWidth_append, ← Nat.add_assoc, ← Nat.add_assoc]
  exact ⟨Nat.le_add_right o 2, Nat.lt_add_of_pos_right (Subject.byteWidth_pos hs), h⟩

variable [Pattern.Engine]

/-- What a token mentions lies in it from left to right. -/
theorem Token.laid_node {t : Token} (ht : t.Sound) (o : Nat) :
    Laid o (t.node o).mentions (o + byteWidth t.text) := by
  cases t with
  | reference r =>
    show Laid o [r.ref o] _
    rw [Laid, r.span_ref]
    exact ⟨Nat.le_refl _, Nat.lt_add_of_pos_right r.byteWidth_pos, Nat.le_refl _⟩
  | ternary s x => exact laid_braces ht.1 (x.laid_ternary o _ _)
  | edit name x =>
    let s : Subject := ⟨name, none⟩
    have hlaid := laid_braces (s := s) ht.1.subject
      (x.laid_edit o (s.ref ⟨o + 2, o + 2 + byteWidth s.text⟩) (o + 2 + byteWidth s.text))
    rwa [Subject.text_name] at hlaid

/-- What a source mentions lies in it from left to right. -/
theorem laid_values {ss : List Segment} (h : ∀ t, .token t ∈ ss.flatMap Segment.pieces → t.Sound)
    (o : Nat) :
    Laid o ((segmentWriting.values o ss).flatMap Node.mentions)
      (o + byteWidth (segmentWriting.texts ss)) := by
  induction ss generalizing o with
  | nil => exact Nat.le_add_right _ _
  | cons s ss ih =>
    have hs : Laid o (s.node o).mentions (o + byteWidth s.text) := by
      cases s with
      | running g gs => exact Nat.le_add_right _ _
      | token t =>
        rw [Segment.text_token]
        exact Token.laid_node (h t List.mem_cons_self) o
    have hss := ih (fun t ht => h t (by
      rw [List.flatMap_cons]
      exact List.mem_append_right _ ht)) (o + byteWidth s.text)
    rw [Nat.add_assoc, ← byteWidth_append] at hss
    exact hs.append hss

/-! ## Parts cut out of the source -/

/-- A reference compiles alone. -/
theorem Reference.compile_text {r : Reference} (hr : r.Sound) :
    Template.compile (String.ofList r.text) =
      .ok ⟨String.ofList r.text, [.variable (r.ref 0)]⟩ := by
  have hends : r.Ends [] := by
    cases r with
    | bare name => exact stops_nil _
    | braced s => trivial
  exact Token.compile_text (t := .reference r) hr hends

/-- What a reference of a node cuts out of the source is the reference. -/
theorem compile_slice_of_standsFrom {v : VariableRef} {source : String}
    (h : StandsFrom v 0 source.toList) :
    Template.compile (v.span.slice source) =
      .ok ⟨v.span.slice source,
        [.variable { v with span := ⟨0, v.span.stop - v.span.start⟩ }]⟩ := by
  obtain ⟨r, u, w, hr, -, hcut, rfl⟩ := h
  have hmoved : ({ r.ref (byteWidth u) with span := ⟨0, byteWidth r.text⟩ } : VariableRef) =
      r.ref 0 := by
    cases r <;> simp [Reference.ref, Subject.ref]
  rw [Nat.zero_add, r.span_ref, Span.slice_append u r.text w source hcut, Nat.add_sub_cancel_left,
    hmoved]
  exact Reference.compile_text hr

theorem compile_braces_of_subject {s : Subject} (hs : s.Sound) {u w : List Char} {source : String}
    (hcut : source.toList = u ++ '$' :: '{' :: (s.text ++ w)) {v : VariableRef}
    (hv : v = s.ref ⟨byteWidth u + 2, byteWidth u + 2 + byteWidth s.text⟩) :
    Template.compile ("$\x7b" ++ v.span.slice source ++ "\x7d") =
      .ok ⟨"$\x7b" ++ v.span.slice source ++ "\x7d",
        [.variable { v with span := ⟨0, v.span.stop - v.span.start + 3⟩ }]⟩ := by
  have hbefore : byteWidth (u ++ ['$', '{']) = byteWidth u + 2 := by
    rw [byteWidth_append, byteWidth_braces, byteWidth_nil]
  have hslice : (⟨byteWidth u + 2, byteWidth u + 2 + byteWidth s.text⟩ : Span).slice source =
      String.ofList s.text := by
    rw [← hbefore]
    exact Span.slice_append _ _ w source (by rw [hcut]; simp)
  have htext : "$\x7b" ++ String.ofList s.text ++ "\x7d" =
      String.ofList (Reference.braced s).text := by
    simp [← String.toList_inj, Reference.text]
  have hwidth : byteWidth (Reference.braced s).text = byteWidth s.text + 3 := by
    have hclose : '}'.utf8Size = 1 := rfl
    rw [Reference.text, byteWidth_braces, byteWidth_append, byteWidth_cons, hclose, byteWidth_nil]
    omega
  have hmoved : (Reference.braced s).ref 0 = s.ref ⟨0, byteWidth s.text + 3⟩ := by
    rw [Reference.ref, hwidth, Nat.zero_add]
  have hcompile := Reference.compile_text (r := .braced s) hs
  rw [hmoved] at hcompile
  rw [hv, Subject.ref, hslice, htext, hcompile, Subject.ref]
  simp

/-- A string of a token stands in its text with its quotes. -/
theorem Token.exists_string {t : Token} (ht : t.Sound) {o : Nat} {q : Quoted}
    (hq : q ∈ (t.node o).strings) :
    ∃ u ps w, t.text = u ++ (quotedText ps ++ w) ∧ q = quotedValue (o + byteWidth u) ps := by
  cases t with
  | reference r => cases hq
  | ternary s x =>
    change q ∈ (x.ternary _ _ _).strings at hq
    rw [Choice.strings_ternary] at hq
    obtain ⟨⟨a, ps⟩, hstring, rfl⟩ := List.mem_map.1 hq
    obtain ⟨u, w, htext, -, rfl⟩ := Choice.exists_string ht.2.toPartsSound hstring
    refine ⟨'$' :: '{' :: (s.text ++ u), ps, w, by rw [text, htext]; simp, ?_⟩
    rw [byteWidth_braces, byteWidth_append, ← Nat.add_assoc, ← Nat.add_assoc]
  | edit name x => cases hq

theorem Token.partsIn {t : Token} (ht : t.Sound) {source : String} {u w : List Char}
    (hcut : source.toList = u ++ (t.text ++ w)) (hends : t.Ends w) :
    (t.node (byteWidth u)).PartsIn source where
  mentions_within v hv := by
    obtain ⟨hstart, -, hstop⟩ := (Token.laid_node ht (byteWidth u)).mem hv
    rw [Token.span_node]
    exact ⟨hstart, hstop⟩
  strings_within q hq := by
    obtain ⟨u', ps, w', htext, rfl⟩ := Token.exists_string ht hq
    refine ⟨?_, fun v hv => ?_⟩
    · rw [Token.span_node, htext, byteWidth_append, byteWidth_append, ← Nat.add_assoc,
        ← Nat.add_assoc]
      exact ⟨Nat.le_add_right _ _, Nat.le_add_right _ _⟩
    · obtain ⟨hstart, -, hstop⟩ := (laid_quotedValue _ ps).mem hv
      exact ⟨hstart, hstop⟩
  references v hv := by
    have hstands := Token.standsFrom_text ht hends hv
    refine compile_slice_of_standsFrom ?_
    rw [hcut]
    exact StandsFrom.prepend (by rwa [Nat.zero_add])
  subjects v hv := by
    obtain ⟨s, w', hs, htext, hsubject⟩ := Token.exists_subject ht hv
    refine compile_braces_of_subject hs (w := w' ++ w) ?_ hsubject
    rw [hcut, htext]
    simp
  quotes q hq := by
    obtain ⟨u', ps, w', htext, rfl⟩ := Token.exists_string ht hq
    have hsource : source.toList = (u ++ u') ++ (quotedText ps ++ (w' ++ w)) := by
      rw [hcut, htext]
      simp
    refine ⟨quotedWriting.texts ps, ?_⟩
    rw [quotedValue, ← byteWidth_append, Span.slice_append _ _ _ source hsource,
      String.toList_ofList, quotedText]

end Spelling

open Spelling

/-! ## Compiled templates -/

theorem Template.laid_mentions [Pattern.Engine] {source : String} {t : Template}
    (h : Template.compile source = .ok t) : Laid 0 t.mentions (byteWidth source.toList) := by
  obtain ⟨ps, hfit, htexts, rfl⟩ := Template.compile_eq_ok_iff_segments.1 h
  have hsound : ∀ tok, .token tok ∈ (segments ps).flatMap Segment.pieces → tok.Sound := by
    rw [flatMap_pieces_segments]
    exact fun tok => Token.sound_of_fit hfit
  have hlaid := laid_values hsound 0
  rwa [Nat.zero_add, texts_segments, htexts] at hlaid

theorem Template.map_name_mentions (t : Template) :
    t.mentions.map (·.name) = t.nodes.flatMap Node.names := by
  rw [mentions, List.map_flatMap]
  exact congrArg t.nodes.flatMap (funext Node.map_name_mentions)

/-- **Every part of a node is where its span says.** The parts of a node lie inside it and are what
their spans cut out of the source, and what a template mentions lies in the source in the order in
which the names are collected, so that its names are listed in the order of their first
occurrence. -/
theorem parts_stand_in_source [Pattern.Engine] {source : String} {t : Template}
    (h : Template.compile source = .ok t) :
    (∀ n ∈ t.nodes, n.PartsIn source) ∧
      (t.mentions.map (·.name) = t.nodes.flatMap Node.names ∧
        (∀ v ∈ t.mentions, v.span.start < v.span.stop) ∧
        t.mentions.Pairwise fun v w => v.span.stop ≤ w.span.start) ∧
      t.variableNames.Nodup ∧
      (∀ name, name ∈ t.variableNames ↔ ∃ v ∈ t.mentions, v.name = name) ∧
      t.variableNames.Pairwise fun a b => ∃ v ∈ t.mentions, v.name = a ∧
        ∀ w ∈ t.mentions, w.name = b → v.span.stop ≤ w.span.start := by
  have hlaid := Template.laid_mentions h
  have hnames : t.variableNames = Environment.distinct (t.mentions.map (·.name)) := by
    rw [Template.variableNames, t.map_name_mentions]
  refine ⟨fun n hn => ?_, ⟨t.map_name_mentions, fun v hv => (hlaid.mem hv).2.1, hlaid.pairwise⟩,
    ?_, fun name => ?_, ?_⟩
  · rcases Template.exists_token h hn with ⟨text, span, rfl⟩ | ⟨u, tok, w, hcut, htok, hends, rfl⟩
    · constructor <;> intro _ hmem <;> cases hmem
    · exact Token.partsIn htok hcut hends
  · exact Environment.nodup_distinct _
  · rw [hnames, Environment.mem_distinct, List.mem_map]
  · rw [hnames]
    exact Environment.pairwise_distinct hlaid.pairwise _

/-- The left side of a ternary with a subscript, references in its strings, and an edit, after a
character of two bytes. -/
theorem parts_stand_in_source_nested :
    let source := "é$\x7bb[0] == \"$a\" ? \"\" : \"$\x7bb\x7d\"\x7d$\x7bc/x/$b/\x7d"
    ∃ t, Template.compile source = .ok t ∧ (∀ n ∈ t.nodes, n.PartsIn source) ∧
      (t.mentions.Pairwise fun v w => v.span.stop ≤ w.span.start) ∧
      t.mentions.map (·.name) = ["b", "a", "b", "c", "b"] ∧ t.variableNames = ["b", "a", "c"] := by
  intro source
  let x : Ternary := ⟨⟨"b", some (.index 0), true, ⟨4, 8⟩⟩, .equal,
    ⟨[.token ⟨"a", none, false, ⟨13, 15⟩⟩], ⟨12, 16⟩⟩, ⟨[], ⟨19, 21⟩⟩,
    ⟨[.token ⟨"b", none, true, ⟨25, 29⟩⟩], ⟨24, 30⟩⟩, ⟨2, 31⟩⟩
  let y : Edit := ⟨⟨"c", none, true, ⟨33, 34⟩⟩, .slash, "x",
    [.token (.variable ⟨"b", none, false, ⟨37, 39⟩⟩)], false, false, ⟨31, 41⟩⟩
  have hcompile : Template.compile source =
      .ok ⟨source, [.literal "é" ⟨0, 2⟩, .ternary x, .edit y]⟩ := by decide +kernel
  obtain ⟨hparts, ⟨hnames, -, hpairwise⟩, -⟩ := parts_stand_in_source hcompile
  exact ⟨_, hcompile, hparts, hpairwise, hnames, by decide +kernel⟩

end Stencil
