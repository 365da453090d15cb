import Stencil.Proofs.Template.References
import Stencil.Standalone

/-!
# The normal form of compiled templates

A source can be written in many ways, and what it is compiled to is always in one form,
`Template.IsNormal`: running text is joined as far as it goes, names are names, and an edit can be
carried out as it stands. The main statement is `isNormal_of_compile`.

The three loops that join running text are one function on chunks (`Chunk.joined_ofPieces`) and the
cut of a source into segments (`isChain_segments`). What is said of an edit comes from the sound
forms of its text; only the units of the pattern are cut anew, and they are the units that were read
(`patternUnits_flatMap`).
-/

namespace Stencil

/-! ## Normal templates -/

/-- Of two neighbours one is no literal text. -/
def Node.Apart : Node → Node → Prop
  | .literal _ _, .literal _ _ => False
  | _, _ => True

/-- The units of a pattern, from left to right: a backslash with the character after it, or one
other character. -/
def patternUnits : List Char → List (List Char)
  | [] => []
  | '\\' :: c :: cs => ['\\', c] :: patternUnits cs
  | c :: cs => [c] :: patternUnits cs

section

variable [Pattern.Engine]

structure Edit.IsNormal (e : Edit) : Prop where
  subject : e.subject.subscript = none
  delimiter : e.delimiter.toChar = '/' ∨ e.delimiter.toChar = '|'
  pattern_ne_empty : e.pattern ≠ ""
  units : ['\\', e.delimiter.toChar] ∉ patternUnits e.pattern.toList
  replacement : Chunk.Joined e.replacement
  accepted : ∃ p, Pattern.ofText? e.ignoreCase e.pattern = some p ∧
    ∀ g, .token (.group g) ∈ e.replacement → g ≤ min 9 p.groups

def Node.IsNormal : Node → Prop
  | .literal text _ => text ≠ ""
  | .variable _ => True
  | .ternary t => ∀ q ∈ t.strings, Chunk.Joined q.segments
  | .edit e => e.IsNormal

structure Template.IsNormal (t : Template) : Prop where
  apart : t.nodes.IsChain Node.Apart
  names : ∀ n ∈ t.nodes, ∀ name ∈ n.names, isName name
  nodes : ∀ n ∈ t.nodes, n.IsNormal

end

namespace Spelling

/-! ## Names -/

theorem NameSound.isName {name : List Char} (h : NameSound name) :
    isName (String.ofList name) := by
  rw [Stencil.isName, String.toList_ofList, Bool.and_eq_true]
  exact ⟨by simpa using h.ne_nil, List.all_eq_true.2 h.isNameChar⟩

theorem Reference.isName_ref {r : Reference} (hr : r.Sound) (o : Nat) : isName (r.ref o).name := by
  cases r with
  | bare name => exact NameSound.isName hr
  | braced s => exact hr.name.isName

/-- Whatever a token mentions has a name. -/
theorem Token.isName_of_mem_names [Pattern.Engine] {t : Token} (ht : t.Sound) {rest : List Char}
    (hends : t.Ends rest) {o : Nat} {name : String} (h : name ∈ (t.node o).names) :
    isName name := by
  rw [← Node.map_name_mentions, Node.mentions] at h
  obtain ⟨v, hv, rfl⟩ := List.mem_map.1 h
  rcases List.mem_append.1 hv with hv | hv
  · obtain ⟨s, w, hs, -, rfl⟩ := Token.exists_subject ht hv
    exact hs.name.isName
  · obtain ⟨r, u, w, hr, -, -, rfl⟩ := Token.standsFrom_text ht hends hv
    exact r.isName_ref hr _

/-! ## Edits -/

theorem patternUnits_cons {c : Char} (hc : c ≠ '\\') (cs : List Char) :
    patternUnits (c :: cs) = [c] :: patternUnits cs := by
  rw [patternUnits]
  exact fun _ _ hback => absurd hback hc

/-- A pattern is cut into the units that it was read in. -/
theorem patternUnits_flatMap {d : Char} (hd : d ≠ '\\') {us : List PatternUnit}
    (hus : ∀ u ∈ us, u.Sound d) :
    patternUnits (us.flatMap (PatternUnit.value d)) = us.map (PatternUnit.value d) := by
  induction us with
  | nil => rfl
  | cons u us ih =>
    have hrest := ih fun v hv => hus v (List.mem_cons_of_mem u hv)
    rw [List.flatMap_cons, List.map_cons, ← hrest]
    cases u with
    | pair c =>
      rw [PatternUnit.value]
      split_ifs with hc
      · -- the delimiter has lost its backslash, and is no backslash itself
        exact patternUnits_cons (hc ▸ hd) _
      · rfl
    | single c => exact patternUnits_cons (hus _ List.mem_cons_self).1 _

theorem PatternUnit.value_ne_nil (d : Char) (u : PatternUnit) : u.value d ≠ [] := by
  cases u with
  | pair c =>
    rw [value]
    split_ifs <;> exact List.cons_ne_nil _ _
  | single c => exact List.cons_ne_nil _ _

theorem PatternUnit.value_ne_pair (d : Char) (u : PatternUnit) : u.value d ≠ ['\\', d] := by
  cases u with
  | pair c =>
    rw [value]
    split_ifs with hc
    · simp
    · simpa using hc
  | single c => simp [value]

variable [Pattern.Engine]

theorem Rewrite.patternText_ne_empty {x : Rewrite} (hx : x.Sound) : x.patternText ≠ "" := by
  intro h
  obtain ⟨u, us, hus⟩ := List.exists_cons_of_ne_nil hx.pattern_ne_nil
  have hnil := congrArg String.toList h
  rw [patternText, String.toList_ofList, hus, List.flatMap_cons] at hnil
  exact u.value_ne_nil _ (List.append_eq_nil_iff.1 hnil).1

theorem Rewrite.pair_notMem_units {x : Rewrite} (hx : x.Sound) :
    ['\\', x.delimiter.toChar] ∉ patternUnits x.patternText.toList := by
  have hback := delimiter_ne_backslash x.delimiter
  rw [patternText, String.toList_ofList, patternUnits_flatMap hback hx.pattern, List.mem_map]
  rintro ⟨u, -, hu⟩
  exact u.value_ne_pair _ hu

/-- A group of a replacement is a digit, and a group of the pattern. -/
theorem Rewrite.group_le {x : Rewrite} (hx : x.Sound) {p : Pattern}
    (hgroups : ∀ a, .token (.group a) ∈ x.replacement → a.toNat - '0'.toNat ≤ p.groups)
    {start o g : Nat} {subject : VariableRef}
    (hg : .token (.group g) ∈ (x.edit start subject o).replacement) : g ≤ min 9 p.groups := by
  refine Nat.le_min.2 ⟨?_, ?_⟩
  · obtain ⟨u, q, w, -, hfits, hq⟩ :=
      Writing.exists_of_mem_values hx.replacement (Chunk.token_mem_ofPieces.1 hg)
    rcases q with e | ⟨a⟩ | r
    · cases hq
    · cases hq
      have ha : a.isDigit := hfits.1
      rw [Char.isDigit, Bool.and_eq_true, decide_eq_true_iff, decide_eq_true_iff] at ha
      have hle : a.toNat ≤ 57 := ha.2
      have hzero : '0'.toNat = 48 := rfl
      omega
    · cases hq
  · exact largestGroup_le_iff.1 (largestGroup_replacement_le_iff.2 hgroups) g hg

theorem Rewrite.isNormal_edit {x : Rewrite} (hx : x.Sound) (start : Nat) {subject : VariableRef}
    (hsubject : subject.subscript = none) (o : Nat) : (x.edit start subject o).IsNormal where
  subject := hsubject
  delimiter := by
    show x.delimiter.toChar = '/' ∨ x.delimiter.toChar = '|'
    cases x.delimiter <;> decide
  pattern_ne_empty := Rewrite.patternText_ne_empty hx
  units := Rewrite.pair_notMem_units hx
  replacement := Chunk.joined_ofPieces _
  accepted := by
    obtain ⟨p, hp, hgroups⟩ := hx.accepted
    exact ⟨p, hp, fun g hg => Rewrite.group_le hx hgroups hg⟩

/-! ## Nodes -/

theorem Token.isNormal_node {t : Token} (ht : t.Sound) (o : Nat) : (t.node o).IsNormal := by
  cases t with
  | reference r => trivial
  | ternary s x =>
    intro q hq
    rw [Choice.strings_ternary] at hq
    obtain ⟨⟨a, ps⟩, -, rfl⟩ := List.mem_map.1 hq
    exact Chunk.joined_ofPieces _
  | edit name x => exact Rewrite.isNormal_edit ht.2 o rfl _

theorem Segment.apart_node {s s' : Segment} (h : s.Apart s') (o o' : Nat) :
    (s.node o).Apart (s'.node o') := by
  rcases s with ⟨g, gs⟩ | (r | ⟨s, x⟩ | ⟨name, x⟩)
  · rcases s' with ⟨g', gs'⟩ | (r' | ⟨s', x'⟩ | ⟨name', x'⟩)
    · exact h.elim
    all_goals trivial
  all_goals trivial

/-- No two nodes of a source are literal texts side by side. -/
theorem isChain_values {ss : List Segment} (h : ss.IsChain Segment.Apart) (o : Nat) :
    (segmentWriting.values o ss).IsChain Node.Apart := by
  induction ss generalizing o with
  | nil => exact .nil
  | cons s ss ih =>
    obtain ⟨hhead, htail⟩ := List.isChain_cons.1 h
    refine List.isChain_cons.2 ⟨fun n hn => ?_, ih htail _⟩
    cases ss with
    | nil => cases hn
    | cons s' ss =>
      obtain rfl := Option.some.inj hn
      exact Segment.apart_node (hhead s' rfl) _ _

end Spelling

open Spelling

/-- **A compiled template is in normal form.** -/
theorem isNormal_of_compile [Pattern.Engine] {source : String} {t : Template}
    (h : Template.compile source = .ok t) : t.IsNormal where
  apart := by
    obtain ⟨ps, -, -, rfl⟩ := Template.compile_eq_ok_iff_segments.1 h
    exact isChain_values (isChain_segments ps) 0
  names := by
    intro n hn name hname
    rcases Template.exists_token h hn with ⟨text, span, rfl⟩ | ⟨u, tok, w, -, htok, hends, rfl⟩
    · cases hname
    · exact Token.isName_of_mem_names htok hends hname
  nodes := by
    intro n hn
    obtain ⟨u, s, w, -, hs, rfl⟩ := Template.exists_segment h hn
    cases s with
    | running g gs =>
      show String.ofList (g.char :: gs.map Glyph.char) ≠ ""
      simp
    | token tok => exact Token.isNormal_node hs.1.1 _

/-- Escaped and doubled dollar signs join the text before them, and an escaped delimiter is alone in
the pattern and a part of the text in the replacement. -/
theorem isNormal_of_compile_edit :
    ∃ t, Template.compile "a\\$$$b$\x7bn/\\/p(q)/x$1\\/$n/g\x7d" = .ok t ∧ t.IsNormal := by
  have hcompile : Template.compile "a\\$$$b$\x7bn/\\/p(q)/x$1\\/$n/g\x7d" =
      .ok ⟨"a\\$$$b$\x7bn/\\/p(q)/x$1\\/$n/g\x7d", [.literal "a$$b" ⟨0, 6⟩,
        .edit ⟨⟨"n", none, true, ⟨8, 9⟩⟩, .slash, "/p(q)", [.text "x", .token (.group 1),
          .text "/", .token (.variable ⟨"n", none, false, ⟨22, 24⟩⟩)], false, true, ⟨6, 27⟩⟩]⟩ := by
    decide +kernel
  exact ⟨_, hcompile, isNormal_of_compile hcompile⟩

end Stencil
