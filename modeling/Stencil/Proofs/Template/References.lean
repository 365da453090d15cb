import Stencil.Proofs.Spelling.Segments
import Stencil.Proofs.Template.FormPattern
import Stencil.Standalone

/-!
# Every reference is found

A compiled template refers to variables by nodes, in strings and in replacements, and each of these
references stands in the source in one of the forms that a search knows (`Reference.refers`). So the
search finds something for every name that is referred to, unless the engine refuses a pattern of
the name. The left side of a ternary is no reference of its own, but the ternary is a form of its
own when its strings are plain (`Choice.refers`). The main statement is `references_found`.

Where a reference stands is said by its span (`Token.standsFrom_text`). With its left side or its
subject a node has all that it mentions (`Node.mentions`).
-/

namespace Stencil

/-! ## References of a node -/

def Quoted.references (q : Quoted) : List VariableRef :=
  q.segments.filterMap fun
    | .text _ => none
    | .token v => some v

def Filler.references (parts : List (Chunk Filler)) : List VariableRef :=
  parts.filterMap fun
    | .token (.variable v) => some v
    | _ => none

/-- The three strings of a ternary. -/
def Ternary.strings (t : Ternary) : List Quoted :=
  [t.comparand, t.ifTrue, t.ifFalse]

/-- The references of a node, without the left side of a ternary and the subject of an edit, which
are not written as references. -/
def Node.references : Node → List VariableRef
  | .literal _ _ => []
  | .variable v => [v]
  | .ternary t => t.strings.flatMap Quoted.references
  | .edit e => Filler.references e.replacement

/-- The left side of a ternary and the subject of an edit. -/
def Node.subjects : Node → List VariableRef
  | .ternary t => [t.lhs]
  | .edit e => [e.subject]
  | _ => []

/-- Everything in a node that names a variable, in the order in which the names are collected. -/
def Node.mentions (n : Node) : List VariableRef :=
  n.subjects ++ n.references

/-- The text of a source between the quotes of a string. -/
def Quoted.inside (q : Quoted) (source : String) : String :=
  (⟨q.span.start + 1, q.span.stop - 1⟩ : Span).slice source

theorem Quoted.mem_references {q : Quoted} {v : VariableRef} :
    v ∈ q.references ↔ .token v ∈ q.segments := by
  simp only [references, List.mem_filterMap]
  constructor
  · rintro ⟨s | w, hmem, h⟩
    · cases h
    · cases h
      exact hmem
  · exact fun h => ⟨_, h, rfl⟩

theorem Filler.mem_references {parts : List (Chunk Filler)} {v : VariableRef} :
    v ∈ references parts ↔ .token (.variable v) ∈ parts := by
  simp only [references, List.mem_filterMap]
  constructor
  · rintro ⟨s | g | w, hmem, h⟩
    · cases h
    · cases h
    · cases h
      exact hmem
  · exact fun h => ⟨_, h, rfl⟩

theorem Quoted.map_name_references (q : Quoted) : q.references.map (·.name) = q.names := by
  rw [references, names, List.map_filterMap]
  exact List.filterMap_congr fun x _ => by cases x <;> rfl

theorem Filler.map_name_references (parts : List (Chunk Filler)) :
    (references parts).map (·.name) = names parts := by
  rw [references, names, List.map_filterMap]
  exact List.filterMap_congr fun x _ => by rcases x with s | g | v <;> rfl

theorem Node.map_name_mentions (n : Node) : n.mentions.map (·.name) = n.names := by
  rcases n with ⟨text, span⟩ | v | t | e
  · rfl
  · rfl
  · simp [mentions, subjects, references, names, Ternary.strings, Quoted.map_name_references]
  · simp [mentions, subjects, references, names, Filler.map_name_references]

namespace Spelling

/-! ## Where things are written -/

/-- A reference stands in a text, before something that does not prolong it. -/
def Reference.StandsIn (r : Reference) (cs : List Char) : Prop :=
  ∃ u w, cs = u ++ (r.text ++ w) ∧ r.Ends w

theorem Reference.StandsIn.prepend {r : Reference} {cs : List Char} (h : r.StandsIn cs)
    (u : List Char) : r.StandsIn (u ++ cs) := by
  obtain ⟨v, w, rfl, hends⟩ := h
  exact ⟨u ++ v, w, by simp, hends⟩

/-- A reference of a node stands in a text that begins at the byte `o`, at the place that it
says. -/
def StandsFrom (v : VariableRef) (o : Nat) (cs : List Char) : Prop :=
  ∃ (r : Reference) (u w : List Char), r.Sound ∧ r.Ends w ∧ cs = u ++ (r.text ++ w) ∧
    v = r.ref (o + byteWidth u)

theorem StandsFrom.prepend {v : VariableRef} {o : Nat} {u cs : List Char}
    (h : StandsFrom v (o + byteWidth u) cs) : StandsFrom v o (u ++ cs) := by
  obtain ⟨r, u', w, hr, hends, rfl, rfl⟩ := h
  exact ⟨r, u ++ u', w, hr, hends, by simp, by rw [byteWidth_append, Nat.add_assoc]⟩

/-- A reference in a string stands in its text, whatever follows the string. -/
theorem standsFrom_quotedText {ps : List (Piece Reference)} (hps : QuotedSound ps) {o : Nat}
    {v : VariableRef} (hv : v ∈ (quotedValue o ps).references) (rest : List Char) :
    StandsFrom v o (quotedText ps ++ rest) := by
  have hvalue : .inr v ∈ quotedWriting.values (o + 1) ps :=
    Chunk.token_mem_ofPieces.1 (Quoted.mem_references.1 hv)
  have hfit : quotedWriting.Fit ps ('"' :: rest) := (fit_inQuotes_iff ps rest).2 hps
  obtain ⟨u, p, w, htexts, hfits, hp⟩ := Writing.exists_of_mem_values hfit hvalue
  have htext : quotedText ps ++ rest = ['"'] ++ (quotedWriting.texts ps ++ '"' :: rest) := by
    simp [quotedText]
  cases p with
  | glyph g => cases hp
  | token r =>
    cases hp
    rw [htext]
    exact StandsFrom.prepend ⟨r, u, w, hfits.1, hfits.2, htexts, rfl⟩

/-- A reference in a replacement stands in the text of the edit. -/
theorem Rewrite.standsFrom_text [Pattern.Engine] {x : Rewrite} (hx : x.Sound) {start o : Nat}
    {subject v : VariableRef} (hv : v ∈ Filler.references (x.edit start subject o).replacement)
    (rest : List Char) : StandsFrom v o (x.text ++ rest) := by
  have hvalue := Chunk.token_mem_ofPieces.1 (Filler.mem_references.1 hv)
  have hfit := (fit_inReplacement_iff x.delimiter x.replacement (x.flags ++ '}' :: rest)).2
    hx.replacement
  obtain ⟨u, p, w, htexts, hfits, hp⟩ := Writing.exists_of_mem_values hfit hvalue
  let d := x.delimiter.toChar
  let before := d :: ((patternWriting d).texts x.pattern ++ [d])
  have htext : x.text ++ rest =
      before ++ ((replacementWriting d).texts x.replacement ++ d :: (x.flags ++ '}' :: rest)) := by
    simp [Rewrite.text, d, before]
  have hwidth : byteWidth before = 1 + byteWidth ((patternWriting d).texts x.pattern) + 1 := by
    simp only [before, d, byteWidth_cons, byteWidth_append, byteWidth_nil, utf8Size_delimiter]
    omega
  rcases p with g | ⟨b⟩ | r
  · cases hp
  · cases hp
  · cases hp
    rw [htext]
    refine StandsFrom.prepend ⟨r, u, w, hfits.1.1, hfits.2, htexts, ?_⟩
    rw [hwidth, ← Nat.add_assoc, ← Nat.add_assoc]

/-- The places and the pieces of the strings of a ternary, when the form begins at the byte `o`. -/
def Choice.strings (x : Choice) (o : Nat) : List (Nat × List (Piece Reference)) :=
  [(x.comparandAt o, x.comparand), (x.ifTrueAt o, x.ifTrue), (x.ifFalseAt o, x.ifFalse)]

theorem Choice.strings_ternary (x : Choice) (start : Nat) (lhs : VariableRef) (o : Nat) :
    (x.ternary start lhs o).strings = (x.strings o).map fun s => quotedValue s.1 s.2 :=
  rfl

/-- Each string of a ternary is written in its text, at its place. -/
theorem Choice.exists_string {x : Choice} (hx : x.PartsSound) {o a : Nat}
    {ps : List (Piece Reference)} (h : (a, ps) ∈ x.strings o) :
    ∃ u w, x.text = u ++ (quotedText ps ++ w) ∧ QuotedSound ps ∧ a = o + byteWidth u := by
  have hquestion : '?'.utf8Size = 1 := rfl
  have hcolon : ':'.utf8Size = 1 := rfl
  let u₁ := x.gaps.beforeComparison ++ (comparisonText x.comparison ++ x.gaps.afterComparison)
  let u₂ := u₁ ++ (quotedText x.comparand ++ (x.gaps.beforeQuestion ++ '?' :: x.gaps.afterQuestion))
  let u₃ := u₂ ++ (quotedText x.ifTrue ++ (x.gaps.beforeColon ++ ':' :: x.gaps.afterColon))
  let w₂ := x.gaps.beforeColon ++ ':' :: (x.gaps.afterColon ++ (quotedText x.ifFalse ++
    (x.gaps.beforeBrace ++ ['}'])))
  let w₁ := x.gaps.beforeQuestion ++ '?' :: (x.gaps.afterQuestion ++ (quotedText x.ifTrue ++ w₂))
  have h₁ : x.comparandAt o = o + byteWidth u₁ := by
    simp only [Choice.comparandAt, u₁, byteWidth_append]
    omega
  have h₂ : x.ifTrueAt o = o + byteWidth u₂ := by
    simp only [Choice.ifTrueAt, h₁, u₂, byteWidth_append, byteWidth_cons, hquestion]
    omega
  have h₃ : x.ifFalseAt o = o + byteWidth u₃ := by
    simp only [Choice.ifFalseAt, h₂, u₃, byteWidth_append, byteWidth_cons, hcolon]
    omega
  simp only [Choice.strings, List.mem_cons, Prod.mk.injEq, List.not_mem_nil, or_false, h₁, h₂,
    h₃] at h
  rcases h with ⟨rfl, rfl⟩ | ⟨rfl, rfl⟩ | ⟨rfl, rfl⟩
  · refine ⟨u₁, w₁, ?_, hx.comparand, rfl⟩
    simp only [Choice.text, u₁, w₁, w₂, List.append_assoc]
  · refine ⟨u₂, w₂, ?_, hx.ifTrue, rfl⟩
    simp only [Choice.text, u₁, u₂, w₂, List.append_assoc, List.cons_append]
  · refine ⟨u₃, x.gaps.beforeBrace ++ ['}'], ?_, hx.ifFalse, rfl⟩
    simp only [Choice.text, u₁, u₂, u₃, List.append_assoc, List.cons_append]

theorem Choice.standsFrom_text {x : Choice} (hx : x.PartsSound) {start o : Nat}
    {lhs v : VariableRef} (hv : v ∈ (Node.ternary (x.ternary start lhs o)).references)
    (rest : List Char) : StandsFrom v o (x.text ++ rest) := by
  obtain ⟨q, hq, hv⟩ := List.mem_flatMap.1 hv
  rw [x.strings_ternary] at hq
  obtain ⟨⟨a, ps⟩, hstring, rfl⟩ := List.mem_map.1 hq
  obtain ⟨u, w, htext, hps, rfl⟩ := Choice.exists_string hx hstring
  rw [htext, List.append_assoc, List.append_assoc]
  exact (standsFrom_quotedText hps hv (w ++ rest)).prepend

section

variable [Pattern.Engine]

/-- The references of a token stand in its text. -/
theorem Token.standsFrom_text {t : Token} (ht : t.Sound) {rest : List Char} (hends : t.Ends rest)
    {o : Nat} {v : VariableRef} (hv : v ∈ (t.node o).references) :
    StandsFrom v o (t.text ++ rest) := by
  cases t with
  | reference r => exact ⟨r, [], rest, ht, hends, rfl, List.mem_singleton.1 hv⟩
  | ternary s x =>
    have hstands := Choice.standsFrom_text ht.2.toPartsSound hv rest
    have htext : (Token.ternary s x).text ++ rest = ('$' :: '{' :: s.text) ++ (x.text ++ rest) := by
      simp [Token.text]
    rw [htext]
    exact StandsFrom.prepend (by rwa [byteWidth_braces, ← Nat.add_assoc])
  | edit name x =>
    have hstands := Rewrite.standsFrom_text ht.2 hv rest
    have htext : (Token.edit name x).text ++ rest = ('$' :: '{' :: name) ++ (x.text ++ rest) := by
      simp [Token.text]
    rw [htext]
    exact StandsFrom.prepend (by rwa [byteWidth_braces, ← Nat.add_assoc])

theorem Token.standsIn_text {t : Token} (ht : t.Sound) {rest : List Char} (hends : t.Ends rest)
    {o : Nat} {v : VariableRef} (hv : v ∈ (t.node o).references) :
    ∃ (r : Reference) (o' : Nat), r.Sound ∧ v = r.ref o' ∧ r.StandsIn (t.text ++ rest) := by
  obtain ⟨r, u, w, hr, hends, htext, hv⟩ := Token.standsFrom_text ht hends hv
  exact ⟨r, _, hr, hv, u, w, htext, hends⟩

/-- A left side or a subject stands in a token after the opening brace. -/
theorem Token.exists_subject {t : Token} (ht : t.Sound) {o : Nat} {v : VariableRef}
    (hv : v ∈ (t.node o).subjects) :
    ∃ (s : Subject) (w : List Char), s.Sound ∧ t.text = '$' :: '{' :: (s.text ++ w) ∧
      v = s.ref ⟨o + 2, o + 2 + byteWidth s.text⟩ := by
  cases t with
  | reference r => cases hv
  | ternary s x => exact ⟨s, x.text, ht.1, rfl, List.mem_singleton.1 hv⟩
  | edit name x =>
    refine ⟨⟨name, none⟩, x.text, ht.1.subject, by rw [Subject.text_name, Token.text], ?_⟩
    rw [Subject.text_name]
    exact List.mem_singleton.1 hv

end

/-! ## The forms of what is written -/

theorem isBound_text {b : Bound} (hb : b.Sound) : Occurrence.IsBound b.text := by
  cases b with
  | none => exact Occurrence.isBound_nil
  | some n =>
    have hn : n.Sound := hb n rfl
    have hdigits : ∀ d ∈ n.digits, Occurrence.isDigit d := fun d hd =>
      Occurrence.isDigit_of_isDigit (hn.isDigit d hd)
    cases hneg : n.negative with
    | true => exact ⟨['-'], n.digits, by simp [Bound.text, Numeral.text, hneg], .inr rfl, hdigits⟩
    | false => exact ⟨[], n.digits, by simp [Bound.text, Numeral.text, hneg], .inl rfl, hdigits⟩

theorem Brackets.exists_isSubscript {b : Brackets} (hb : b.Sound) :
    ∃ w, Occurrence.IsSubscript w ∧ b.text = '[' :: (w ++ [']']) := by
  cases b with
  | index n =>
    have hn : n.Sound := hb
    have hbound : Occurrence.IsBound n.text := isBound_text (b := some n) (by simpa [Bound.Sound])
    exact ⟨n.text, ⟨n.text, [], [], by simp, hbound, .inl rfl, Occurrence.isBound_nil⟩, rfl⟩
  | range start stop =>
    exact ⟨start.text ++ ([':'] ++ stop.text),
      ⟨_, _, _, rfl, isBound_text hb.1, .inr rfl, isBound_text hb.2⟩, by simp [Brackets.text]⟩

/-- A reference is written in one of the forms that are searched for. -/
theorem Reference.refers {r : Reference} (hr : r.Sound) {rest : List Char} (hends : r.Ends rest)
    (o : Nat) : ∃ form, Occurrence.Form.Refers (r.ref o).name.toList form r.text rest := by
  cases r with
  | bare name =>
    have hname : ((Reference.bare name).ref o).name.toList = name := String.toList_ofList
    rw [hname]
    cases rest with
    | nil => exact ⟨_, .bareAtEnd⟩
    | cons c rest => exact ⟨_, .bare ((stops_cons _ _ _).1 hends)⟩
  | braced s =>
    have hname : ((Reference.braced s).ref o).name.toList = s.name := String.toList_ofList
    rw [hname, Reference.text, Subject.text, Subject.subscriptText]
    cases hb : s.brackets with
    | none => exact ⟨_, by simpa using Occurrence.Form.Refers.braced⟩
    | some b =>
      obtain ⟨w, hw, htext⟩ := Brackets.exists_isSubscript (hr.brackets b hb)
      exact ⟨_, by simpa [htext] using Occurrence.Form.Refers.subscripted hw⟩

theorem isBlank_of_gapSound {gap : List Char} (h : GapSound gap) : Occurrence.IsBlank gap := by
  intro a ha
  have hgap := h a ha
  simp only [isGap, Bool.or_eq_true, beq_iff_eq, or_assoc] at hgap
  rcases hgap with rfl | rfl | rfl | rfl <;>
    exact (Occurrence.isSpace_iff (by decide)).2 (by decide)

theorem isQuoted_text {gap gap' : List Char} {ps : List (Piece Reference)} (hgap : GapSound gap)
    (hplain : ∀ a ∈ quotedWriting.texts ps, Occurrence.isPlain a) (hgap' : GapSound gap') :
    Occurrence.IsQuoted (gap ++ (quotedText ps ++ gap')) :=
  ⟨gap, quotedWriting.texts ps, gap', by simp [quotedText], isBlank_of_gapSound hgap, hplain,
    isBlank_of_gapSound hgap'⟩

/-- A ternary with plain strings refers to the name on its left side. -/
theorem Choice.refers {s : Subject} {x : Choice} (hs : s.brackets = none) (hx : x.PartsSound)
    {o : Nat} (hplain : ∀ p ∈ x.strings o, ∀ a ∈ quotedWriting.texts p.2, Occurrence.isPlain a)
    (rest : List Char) :
    Occurrence.Form.Refers s.name .ternary (Token.ternary s x).text rest := by
  have hcomparison : comparisonText x.comparison = ['=', '='] ∨
      comparisonText x.comparison = ['!', '='] := by
    cases x.comparison with
    | equal => exact .inl rfl
    | notEqual => exact .inr rfl
  have h₁ := isQuoted_text hx.gaps.afterComparison
    (hplain (x.comparandAt o, x.comparand) (by simp [Choice.strings])) hx.gaps.beforeQuestion
  have h₂ := isQuoted_text hx.gaps.afterQuestion
    (hplain (x.ifTrueAt o, x.ifTrue) (by simp [Choice.strings])) hx.gaps.beforeColon
  have h₃ := isQuoted_text hx.gaps.afterColon
    (hplain (x.ifFalseAt o, x.ifFalse) (by simp [Choice.strings])) hx.gaps.beforeBrace
  have htext : s.text = s.name := by simp [Subject.text, Subject.subscriptText, hs]
  have hrefers : Occurrence.Form.Refers s.name .ternary _ rest :=
    .ternary (isBlank_of_gapSound hx.gaps.beforeComparison) hcomparison h₁ h₂ h₃
  simpa only [Token.text, htext, Choice.text, List.append_assoc] using hrefers

/-- What is written between the quotes of a string. -/
theorem inside_quotedValue {as bs : List Char} {ps : List (Piece Reference)} {source : String}
    (hsource : source.toList = as ++ (quotedText ps ++ bs)) :
    ((quotedValue (byteWidth as) ps).inside source).toList = quotedWriting.texts ps := by
  have hquote : '"'.utf8Size = 1 := rfl
  have hcut : source.toList = (as ++ ['"']) ++ (quotedWriting.texts ps ++ '"' :: bs) := by
    rw [hsource]
    simp [quotedText]
  have hslice := Span.slice_append _ _ _ source hcut
  have hstop : byteWidth as + byteWidth (quotedText ps) - 1 =
      byteWidth (as ++ ['"']) + byteWidth (quotedWriting.texts ps) := by
    simp only [quotedText, byteWidth_append, byteWidth_cons, byteWidth_nil, hquote]
    omega
  have hstart : byteWidth as + 1 = byteWidth (as ++ ['"']) := by
    simp only [byteWidth_append, byteWidth_cons, byteWidth_nil, hquote]
  rw [Quoted.inside, quotedValue, hstop, hstart, hslice, String.toList_ofList]

end Spelling

open Spelling

section

variable [Pattern.Engine]

/-- A search finds something, or crashes when the engine refuses a pattern of the name. -/
def Occurrence.Found (name text : String) : Prop :=
  ((∃ s, Occurrence.search name text = .ok (some s)) ↔ Occurrence.Searchable name) ∧
    ((∃ form, Occurrence.search name text = .error form) ↔ ¬ Occurrence.Searchable name)

theorem Occurrence.Form.OccursIn.found {form : Occurrence.Form} {name : List Char} {text : String}
    (h : form.OccursIn name text.toList) : Occurrence.Found (String.ofList name) text := by
  have hname : (String.ofList name).toList = name := String.toList_ofList
  have hsome : (Occurrence.find? (String.ofList name) text).isSome :=
    Occurrence.find?_isSome_iff.2 ⟨form, by rw [hname]; exact h⟩
  obtain ⟨s, hs⟩ := Option.isSome_iff_exists.1 hsome
  refine ⟨⟨fun ⟨_, h⟩ => Occurrence.searchable_of_search_eq_ok h, fun h => ?_⟩,
    Occurrence.search_eq_error_iff⟩
  exact ⟨s, Occurrence.search_eq_ok_iff.2 ⟨h, hs⟩⟩

theorem found_of_standsIn {r : Reference} (hr : r.Sound) {source : String}
    (h : r.StandsIn source.toList) (o : Nat) : Occurrence.Found (r.ref o).name source := by
  obtain ⟨u, w, hcut, hends⟩ := h
  obtain ⟨form, hrefers⟩ := Reference.refers hr hends o
  have hfound := Occurrence.Form.OccursIn.found ⟨u, r.text, w, hcut, hrefers⟩
  rwa [String.ofList_toList] at hfound

end

/-- The strings of a ternary in a source are plain when no mark stands between their quotes. -/
theorem isPlain_of_inside {source : String} {u w : List Char} {s : Subject} {x : Choice}
    (hcut : source.toList = u ++ ((Token.ternary s x).text ++ w)) (hx : x.PartsSound)
    {start o : Nat} {lhs : VariableRef} (ho : o = byteWidth u + 2 + byteWidth s.text)
    (h : ∀ q ∈ (x.ternary start lhs o).strings, ∀ c ∈ ['}', '?', ':'],
      c ∉ (q.inside source).toList) :
    ∀ p ∈ x.strings o, ∀ a ∈ quotedWriting.texts p.2, Occurrence.isPlain a := by
  rintro ⟨k, ps⟩ hstring a ha
  obtain ⟨u', w', htext, -, rfl⟩ := Choice.exists_string hx hstring
  have hsource : source.toList =
      (u ++ '$' :: '{' :: (s.text ++ u')) ++ (quotedText ps ++ (w' ++ w)) := by
    rw [hcut, Token.text, htext]
    simp
  have hwidth : o + byteWidth u' = byteWidth (u ++ '$' :: '{' :: (s.text ++ u')) := by
    rw [byteWidth_append, byteWidth_braces, byteWidth_append, ho]
    omega
  have hq : quotedValue (o + byteWidth u') ps ∈ (x.ternary start lhs o).strings := by
    rw [x.strings_ternary]
    exact List.mem_map.2 ⟨_, hstring, rfl⟩
  have hmarks := h _ hq
  rw [hwidth, inside_quotedValue hsource] at hmarks
  have hne : ∀ c ∈ ['}', '?', ':'], a ≠ c := fun c hc hac => hmarks c hc (hac ▸ ha)
  simpa [Occurrence.isPlain, and_assoc] using hne

/-- **Every reference is found.** A search of the source for a name that a node of the template
refers to finds something, and so does a search for the left side of a ternary without a subscript
when none of `}`, `?` and `:` is written in its strings; only where the engine refuses a pattern of
the name, the search crashes. -/
theorem references_found [Pattern.Engine] {source : String} {t : Template}
    (h : Template.compile source = .ok t) :
    (∀ n ∈ t.nodes, ∀ v ∈ n.references, Occurrence.Found v.name source) ∧
      ∀ x, .ternary x ∈ t.nodes → x.lhs.subscript = none →
        (∀ q ∈ x.strings, ∀ c ∈ ['}', '?', ':'], c ∉ (q.inside source).toList) →
        Occurrence.Found x.lhs.name source := by
  refine ⟨fun n hn v hv => ?_, fun x hx hsubscript hplain => ?_⟩
  · rcases Template.exists_token h hn with ⟨text, span, rfl⟩ | ⟨u, tok, w, hcut, htok, hends, rfl⟩
    · cases hv
    · obtain ⟨r, o, hr, rfl, hstands⟩ := Token.standsIn_text htok hends hv
      exact found_of_standsIn hr (hcut ▸ hstands.prepend u) o
  · rcases Template.exists_token h hx with ⟨text, span, hn⟩ | ⟨u, tok, w, hcut, htok, -, hn⟩
    · cases hn
    rcases tok with r | ⟨s, y⟩ | ⟨name, y⟩
    · cases hn
    · cases hn
      have hs : s.brackets = none := Option.map_eq_none_iff.1 hsubscript
      have hrefers := Choice.refers hs htok.2.toPartsSound
        (isPlain_of_inside hcut htok.2.toPartsSound rfl hplain) w
      exact Occurrence.Form.OccursIn.found ⟨u, _, w, hcut, hrefers⟩
    · cases hn

/-- The references in a string and in a replacement are found, and so is the left side of a ternary;
the subject of an edit is not. -/
theorem references_found_nested :
    ∃ source t, Template.compile source = .ok t ∧
      (∃ s, Occurrence.search "b" source = .ok (some s)) ∧
      (∃ s, Occurrence.search "f" source = .ok (some s)) ∧
      (∃ s, Occurrence.search "c" source = .ok (some s)) ∧
      Occurrence.search "d" source = .ok none := by
  let x : Ternary := ⟨⟨"c", none, true, ⟨2, 3⟩⟩, .equal,
    ⟨[.token ⟨"b", none, false, ⟨6, 8⟩⟩], ⟨5, 9⟩⟩, ⟨[.text "x"], ⟨10, 13⟩⟩, ⟨[], ⟨14, 16⟩⟩, ⟨0, 17⟩⟩
  let y : Edit := ⟨⟨"d", none, true, ⟨19, 20⟩⟩, .slash, "e",
    [.token (.variable ⟨"f", none, false, ⟨23, 25⟩⟩)], false, false, ⟨17, 27⟩⟩
  have hcompile : Template.compile "$\x7bc==\"$b\"?\"x\":\"\"\x7d$\x7bd/e/$f/\x7d" =
      .ok ⟨"$\x7bc==\"$b\"?\"x\":\"\"\x7d$\x7bd/e/$f/\x7d", [.ternary x, .edit y]⟩ := by
    decide +kernel
  have hstrings : x.strings.map (·.inside "$\x7bc==\"$b\"?\"x\":\"\"\x7d$\x7bd/e/$f/\x7d") =
      ["$b", "x", ""] := by decide +kernel
  have hplain : ∀ s ∈ ["$b", "x", ""], ∀ c ∈ ['}', '?', ':'], c ∉ s.toList := by simp
  obtain ⟨hreferences, hternary⟩ := references_found hcompile
  refine ⟨_, _, hcompile, ?_, ?_, ?_, ?_⟩
  · exact (hreferences (.ternary x) (by simp) ⟨"b", none, false, ⟨6, 8⟩⟩ (by decide)).1.2
      (Occurrence.searchable_iff_byteWidth.2 (by decide))
  · exact (hreferences (.edit y) (by simp) ⟨"f", none, false, ⟨23, 25⟩⟩ (by decide)).1.2
      (Occurrence.searchable_iff_byteWidth.2 (by decide))
  · refine (hternary x (by simp) rfl fun q hq => hplain _ ?_).1.2
      (Occurrence.searchable_iff_byteWidth.2 (by decide))
    rw [← hstrings]
    exact List.mem_map_of_mem hq
  · exact Occurrence.search_eq_ok_iff.2
      ⟨Occurrence.searchable_iff_byteWidth.2 (by decide), by decide +kernel⟩

/-- The search for a long name crashes, though a template may refer to it. -/
theorem long_reference_is_not_found :
    ¬ ∀ (source : String) (t : Template), Template.compile source = .ok t →
      ∀ n ∈ t.nodes, ∀ v ∈ n.references,
        ∃ s, Occurrence.search v.name source = .ok (some s) := by
  intro h
  let name := List.replicate 330000 'a'
  have hname : NameSound name :=
    ⟨List.ne_nil_of_length_eq_add_one List.length_replicate, fun c hc => by
      rw [List.eq_of_mem_replicate hc]
      rfl⟩
  have hcompile := Token.compile_text (t := .reference (.bare name)) hname (stops_nil _)
  obtain ⟨s, hs⟩ := h _ _ hcompile _ (List.mem_singleton.2 rfl) _ (List.mem_singleton.2 rfl)
  have hwidth : byteWidth (String.ofList name).toList ≤ 327373 :=
    Occurrence.searchable_iff_byteWidth.1 (Occurrence.searchable_of_search_eq_ok hs)
  rw [String.toList_ofList, byteWidth_replicate] at hwidth
  exact absurd hwidth (by decide)

end Stencil
