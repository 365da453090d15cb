import Stencil.Proofs.Bytes.Text
import Stencil.Proofs.Pattern.Avoidance
import Stencil.Proofs.Template.Faults
import Stencil.Standalone

/-!
# Delimiters in patterns

A delimiter may stand in the pattern of an edit behind a backslash. The reader of edits takes the
backslash away, and what is left is read once more, by the pattern language. A slash stands for
itself there, and a bar separates alternatives. The main statement is `escaped_delimiter_iff`: an
edit whose pattern is a text of letters, digits and escaped delimiters replaces every occurrence of
this text, except that the engine must have room for the text and that between bars it must hold no
bar.
-/

namespace Stencil

/-! ## Replacements without references -/

/-- A replacement that is one text. -/
def Pattern.Part.ofChars : List Char → List Pattern.Part
  | [] => []
  | c :: cs => [.text (String.ofList (c :: cs))]

theorem Pattern.Part.fill_ofChars (r rest : List Char) (position : Nat) (m : Pattern.Match) :
    (Pattern.Part.ofChars r).flatMap (Pattern.Part.fill rest position m) = r := by
  cases r with
  | nil => rfl
  | cons c cs => simp [ofChars, fill]

theorem Chunk.gather_chars {α : Type} (run r : List Char) :
    gather run (r.map .inl : List (Char ⊕ α)) = gather.flush (r.reverse ++ run) [] := by
  induction r generalizing run with
  | nil => rfl
  | cons c cs ih =>
    rw [List.map_cons, gather, ih, List.reverse_cons, List.append_assoc]
    rfl

theorem expandFillers_chars (find : String → Except TemplateError String) (r : List Char) :
    expandFillers find (Chunk.ofPieces (r.map .inl)) = .ok (Pattern.Part.ofChars r) := by
  rw [Chunk.ofPieces, Chunk.gather_chars, List.append_nil]
  cases r with
  | nil => rfl
  | cons c cs =>
    obtain ⟨d, ds, hreverse⟩ := List.exists_cons_of_ne_nil
      (show (c :: cs).reverse ≠ [] by simp)
    rw [hreverse, Chunk.gather.flush, ← hreverse, List.reverse_reverse]
    rfl

/-- An edit of a variable with a value, by a replacement without references. -/
theorem Edit.expandStrict_eq {e : Edit} {r : List Char} {env : Environment} {v template : String}
    (hsubscript : e.subject.subscript = none)
    (hreplacement : e.replacement = Chunk.ofPieces (r.map .inl))
    (hv : env.get? e.subject.name = some v) :
    expandStrict env template [.edit e] = .ok (e.apply v (Pattern.Part.ofChars r)) := by
  have hfind : strictFind env template e.subject.name = .ok v := strictFind_eq_ok_iff.2 hv
  simp only [expandStrict, expandNodes, Node.expand, Edit.expand, VariableRef.expand, hfind,
    hsubscript, hreplacement, expandFillers_chars, bind, Except.bind, pure, Except.pure,
    String.append_empty]

namespace Spelling

/-! ## Edits by a text -/

/-- The text with a backslash before every delimiter. -/
def escapeDelimiter (d : Delimiter) (w : List Char) : List Char :=
  w.flatMap fun c => if c = d.toChar then ['\\', c] else [c]

/-- The source of an edit that replaces every match of the text `w`, in which delimiters are
escaped, by the text `r`. -/
def replacing (d : Delimiter) (name w r : List Char) : List Char :=
  '$' :: '{' :: (name ++ d.toChar :: (escapeDelimiter d w ++
    d.toChar :: (r ++ d.toChar :: ['g', '}'])))

/-- The form of this edit. -/
def Rewrite.ofTexts (d : Delimiter) (w r : List Char) : Rewrite where
  delimiter := d
  pattern := w.map fun c => if c = d.toChar then .pair c else .single c
  replacement := r.map fun c => .glyph (.plain c)
  flags := ['g']

namespace Rewrite

variable {d : Delimiter} {w r : List Char}

theorem texts_ofTexts_pattern (d : Delimiter) (w r : List Char) :
    (patternWriting d.toChar).texts (ofTexts d w r).pattern = escapeDelimiter d w := by
  rw [Writing.texts, ofTexts, List.flatMap_map, escapeDelimiter]
  refine List.flatMap_congr fun c _ => ?_
  by_cases hc : c = d.toChar
  · rw [if_pos hc, if_pos hc]
    rfl
  · rw [if_neg hc, if_neg hc]
    rfl

theorem patternText_ofTexts (d : Delimiter) (w r : List Char) :
    (ofTexts d w r).patternText = String.ofList w := by
  have hvalue : ∀ c, PatternUnit.value d.toChar (if c = d.toChar then .pair c else .single c) =
      [c] := by
    intro c
    by_cases hc : c = d.toChar <;> simp [hc, PatternUnit.value]
  rw [patternText, ofTexts, List.flatMap_map]
  simp [hvalue]

theorem texts_ofTexts_replacement (d : Delimiter) (w r : List Char) :
    (replacementWriting d.toChar).texts (ofTexts d w r).replacement = r := by
  rw [Writing.texts, ofTexts, List.flatMap_map]
  exact List.flatMap_singleton' r

theorem values_ofTexts_replacement (d : Delimiter) (w r : List Char) (o : Nat) :
    (replacementWriting d.toChar).values o (ofTexts d w r).replacement = r.map .inl := by
  show (replacementWriting d.toChar).values o (r.map fun c => .glyph (.plain c)) = _
  induction r generalizing o with
  | nil => rfl
  | cons c cs ih =>
    rw [List.map_cons, Writing.values, ih, List.map_cons]
    rfl

theorem text_ofTexts (d : Delimiter) (name w r : List Char) :
    (Token.edit name (ofTexts d w r)).text = replacing d name w r := by
  rw [Token.text, text, show (ofTexts d w r).delimiter = d from rfl, texts_ofTexts_pattern,
    texts_ofTexts_replacement]
  rfl

theorem partsSound_ofTexts (hne : w ≠ []) (hw : ∀ c ∈ w, c ≠ '\\')
    (hr : ∀ c ∈ r, c ≠ d.toChar ∧ c ≠ '\\' ∧ c ≠ '$') : (ofTexts d w r).PartsSound where
  pattern_ne_nil := by simpa [ofTexts] using hne
  pattern := by
    intro u hu
    obtain ⟨c, hc, rfl⟩ := List.mem_map.1 hu
    split_ifs with hd
    · trivial
    · exact ⟨hw c hc, hd⟩
  replacement := by
    refine Writing.fit_of_forall _ (fun p hp rest => ?_) _
    obtain ⟨c, hc, rfl⟩ := List.mem_map.1 hp
    obtain ⟨hd, hback, hdollar⟩ := hr c hc
    exact ⟨by simpa [ofTexts, inReplacement] using hd, fun h => absurd h hback,
      fun h => absurd h hdollar⟩
  flags := by simp [ofTexts]

end Rewrite

variable [Pattern.Engine]

section

variable {d : Delimiter} {name w r : List Char}

/-- The edit compiles when the text is a pattern. -/
theorem compile_replacing {p : Pattern} (hname : NameSound name)
    (hparts : (Rewrite.ofTexts d w r).PartsSound)
    (hp : Pattern.ofText? false (String.ofList w) = some p) :
    Template.compile (String.ofList (replacing d name w r)) =
      .ok ⟨String.ofList (replacing d name w r),
        [(Token.edit name (Rewrite.ofTexts d w r)).node 0]⟩ := by
  have haccepted : ∃ p, Pattern.ofText? (Rewrite.ofTexts d w r).ignoreCase
      (Rewrite.ofTexts d w r).patternText = some p ∧
        ∀ a, .token (.group a) ∈ (Rewrite.ofTexts d w r).replacement →
          a.toNat - '0'.toNat ≤ p.groups := by
    refine ⟨p, by rw [Rewrite.patternText_ofTexts]; exact hp, fun a ha => ?_⟩
    simp [Rewrite.ofTexts] at ha
  have hcompile := Token.compile_text (t := .edit name (Rewrite.ofTexts d w r))
    ⟨hname, hparts.pattern_ne_nil, hparts.pattern, hparts.replacement, hparts.flags, haccepted⟩
    trivial
  rwa [Rewrite.text_ofTexts] at hcompile

/-- It does not compile when the text is no pattern. -/
theorem compile_replacing_ne_ok (hname : NameSound name)
    (hparts : (Rewrite.ofTexts d w r).PartsSound)
    (hp : Pattern.ofText? false (String.ofList w) = none) (t : Template) :
    Template.compile (String.ofList (replacing d name w r)) ≠ .ok t := by
  let c : Cursor := ⟨0, replacing d name w r⟩
  have hbrace : '}' ∈ c.rest := by simp [c, replacing]
  obtain ⟨c', hall, -⟩ := Cursor.exists_reads (c := c)
    (w := (Token.edit name (Rewrite.ofTexts d w r)).text) (r := [])
    (by rw [Rewrite.text_ofTexts, List.append_nil])
  obtain ⟨e, hreads, -, hread⟩ := Rewrite.readBraced_eq_readEdit hname hall hbrace
  have hedit := (Rewrite.readEdit_of_parts 0 ((⟨name, none⟩ : Subject).ref ⟨0 + 2, e.offset⟩)
    hparts hreads).2 (by rw [Rewrite.patternText_ofTexts]; exact hp)
  rw [hedit] at hread
  have herror := Template.compile_eq_error_iff.2
    ⟨[], _, _, trivial, String.toList_ofList, hread, rfl⟩
  intro hok
  cases herror.symm.trans hok

/-- What the edit gives for a value of the variable. -/
theorem substitute_replacing {p : Pattern} {env : Environment} {v : String}
    (hp : Pattern.ofText? false (String.ofList w) = some p)
    (hv : env.get? (String.ofList name) = some v) :
    Template.substitute ⟨String.ofList (replacing d name w r),
        [(Token.edit name (Rewrite.ofTexts d w r)).node 0]⟩ env =
      .ok (p.replace true (Pattern.Part.ofChars r) v) := by
  have happly : ∀ e : Edit, e.ignoreCase = false → e.pattern = String.ofList w →
      e.replaceAll = true → ∀ parts, e.apply v parts = p.replace true parts v := by
    intro e hcase hpattern hall parts
    rw [Edit.apply, hcase, hpattern, Pattern.read?_of_ofText? hp, hall]
  refine (Edit.expandStrict_eq rfl ?_ hv).trans (congrArg Except.ok (happly _ rfl ?_ rfl _))
  · exact congrArg Chunk.ofPieces (Rewrite.values_ofTexts_replacement d w r _)
  · exact Rewrite.patternText_ofTexts d w r

end

end Spelling

open Spelling Pattern

/-! ## Letters, digits and delimiters -/

theorem isPlain_of_isAlphanum {c : Char} (hc : c.isAlphanum) : IsPlain c := by
  have hmeta : metaCharacters.all fun a => !a.isAlphanum := by decide
  intro hmem
  have hnot := List.all_eq_true.1 hmeta c hmem
  rw [hc] at hnot
  cases hnot

/-- Of letters, digits and delimiters all but bars are plain. -/
theorem isPlain_or_bar {d : Delimiter} {c : Char} (hc : c.isAlphanum ∨ c = d.toChar) :
    IsPlain c ∨ (d = .bar ∧ c = '|') := by
  rcases hc with hc | rfl
  · exact .inl (isPlain_of_isAlphanum hc)
  · cases d with
    | slash => exact .inl (by simp [IsPlain, metaCharacters, Delimiter.toChar])
    | bar => exact .inr ⟨rfl, rfl⟩

section

variable {d : Delimiter} {name w r : List Char}

theorem partsSound_of_ascii (hne : w ≠ []) (hw : ∀ c ∈ w, c.isAlphanum ∨ c = d.toChar)
    (hr : ∀ c ∈ r, c.isAlpha) : (Rewrite.ofTexts d w r).PartsSound := by
  refine Rewrite.partsSound_ofTexts hne (fun c hc => ?_) fun c hc => ?_
  · rintro rfl
    rcases hw _ hc with hc | hc
    · cases hc
    · exact delimiter_ne_backslash d hc.symm
  · have hletter := hr c hc
    refine ⟨?_, ?_, ?_⟩
    · rintro rfl
      cases d <;> cases hletter
    · rintro rfl
      cases hletter
    · rintro rfl
      cases hletter

variable [Pattern.Engine]

/-- The edit whose pattern is the text `w`, with a backslash before every delimiter, compiles and
gives the value of its variable with every occurrence of `w` replaced by `r`. -/
def ReplacesText (d : Delimiter) (name w r : List Char) : Prop :=
  ∃ t, Template.compile (String.ofList (replacing d name w r)) = .ok t ∧
    ∀ env v, env.get? (String.ofList name) = some v →
      t.substitute env = .ok (String.ofList (replaceAll w r v.toList))

/-- A text of plain characters is replaced if the engine has room for it. -/
theorem replacesText_of_plain (hname : NameSound name) (hne : w ≠ []) (hplain : ∀ c ∈ w, IsPlain c)
    (hparts : (Rewrite.ofTexts d w r).PartsSound) :
    ReplacesText d name w r ↔ Engine.fits (Expr.literal w) := by
  have hp := ofText?_plain hplain
  by_cases hroom : Engine.fits (Expr.literal w)
  · rw [if_pos hroom] at hp
    refine iff_of_true ⟨_, compile_replacing hname hparts hp, fun env v hv => ?_⟩ hroom
    rw [substitute_replacing hp hv, replace_literal hne (Part.fill_ofChars r)]
  · rw [if_neg hroom] at hp
    exact iff_of_false (fun ⟨t, ht, _⟩ => compile_replacing_ne_ok hname hparts hp t ht) hroom

/-- A text with a bar is not replaced: of the value that is the text itself the bar stays. -/
theorem not_replacesText_of_bar (hname : NameSound name) (hplain : ∀ c ∈ w, IsPlain c ∨ c = '|')
    (hbar : '|' ∈ w) (hr : '|' ∉ r) (hparts : (Rewrite.ofTexts d w r).PartsSound) :
    ¬ ReplacesText d name w r := by
  rintro ⟨t, ht, hlaw⟩
  cases hp : Pattern.ofText? false (String.ofList w) with
  | none => exact compile_replacing_ne_ok hname hparts hp t ht
  | some p =>
    let env := Environment.empty.declareGlobal (String.ofList name) (String.ofList w)
    have hv : env.get? (String.ofList name) = some (String.ofList w) := by
      simp [env, Environment.get?_declareGlobal, Environment.empty, Bindings.get?, Bindings.empty]
    cases (compile_replacing hname hparts hp).symm.trans ht
    have hvalue := Except.ok.inj ((substitute_replacing hp hv).symm.trans (hlaw env _ hv))
    have hmem : '|' ∈ (p.replace true (Part.ofChars r) (String.ofList w)).toList :=
      mem_replace (avoids_bar_of_read? hplain (Pattern.read?_of_ofText? hp))
        (by rwa [String.toList_ofList]) true _
    rw [hvalue, String.toList_ofList, String.toList_ofList,
      replaceAll_self (List.ne_nil_of_mem hbar)] at hmem
    exact hr hmem

/-- **Escaped delimiters in patterns.** A text of ASCII letters, digits and escaped delimiters is
replaced as it stands, in every value and wherever it occurs, exactly when the engine has room for
it and, between bars, it holds no bar. -/
theorem escaped_delimiter_iff (hname : NameSound name) (hne : w ≠ [])
    (hw : ∀ c ∈ w, c.isAlphanum ∨ c = d.toChar) (hr : ∀ c ∈ r, c.isAlpha) :
    ReplacesText d name w r ↔ Engine.fits (Expr.literal w) ∧ (d = .bar → '|' ∉ w) := by
  have hparts := partsSound_of_ascii hne hw hr
  by_cases hbar : d = .bar ∧ '|' ∈ w
  · have hplain : ∀ c ∈ w, IsPlain c ∨ c = '|' :=
      fun c hc => (isPlain_or_bar (hw c hc)).imp_right And.right
    have hnot : '|' ∉ r := fun hmem => by cases hr _ hmem
    exact iff_of_false (not_replacesText_of_bar hname hplain hbar.2 hnot hparts)
      fun h => h.2 hbar.1 hbar.2
  · have hplain : ∀ c ∈ w, IsPlain c := by
      intro c hc
      refine (isPlain_or_bar (hw c hc)).resolve_right ?_
      rintro ⟨hd, rfl⟩
      exact hbar ⟨hd, hc⟩
    rw [replacesText_of_plain hname hne hplain hparts]
    exact (and_iff_left fun hd hmem => hbar ⟨hd, hmem⟩).symm

end

/-- Slashes at both ends of the text, and occurrences that overlap. -/
theorem escaped_delimiter_slashes :
    ∃ t, Template.compile "$\x7bx/\\/a\\//r/g\x7d" = .ok t ∧
      t.substitute (Environment.empty.declareGlobal "x" "é/a/a//a/") = .ok "éra/r" := by
  have hname : NameSound ['x'] := ⟨by decide, List.all_eq_true.1 (by decide)⟩
  have hw : ∀ c ∈ ['/', 'a', '/'], c.isAlphanum ∨ c = Delimiter.slash.toChar := by
    intro c hc
    simp only [List.mem_cons, List.not_mem_nil, or_false] at hc
    rcases hc with rfl | rfl | rfl <;> decide
  obtain ⟨t, ht, hlaw⟩ := (escaped_delimiter_iff hname (by decide) hw
    (List.all_eq_true.1 (show ['r'].all Char.isAlpha by decide))).2 ⟨by decide, by decide⟩
  refine ⟨t, ht, (hlaw _ "é/a/a//a/" (by decide +kernel)).trans ?_⟩
  decide +kernel

/-- A bar between two letters separates them. -/
theorem escaped_bar_separates :
    ¬ ∀ (d : Delimiter) (name w r : List Char), NameSound name → w ≠ [] →
      (∀ c ∈ w, c.isAlphanum ∨ c = d.toChar) → (∀ c ∈ r, c.isAlpha) →
      ReplacesText d name w r := by
  intro h
  let env := Environment.empty.declareGlobal "x" "a|b"
  have hw : ∀ c ∈ ['a', '|', 'b'], c.isAlphanum ∨ c = Delimiter.bar.toChar := by
    intro c hc
    simp only [List.mem_cons, List.not_mem_nil, or_false] at hc
    rcases hc with rfl | rfl | rfl <;> decide
  obtain ⟨t, ht, hlaw⟩ := h .bar ['x'] ['a', '|', 'b'] ['r']
    ⟨by decide, List.all_eq_true.1 (by decide)⟩ (by decide) hw (List.all_eq_true.1 (by decide))
  have hlaw : t.substitute env = .ok "r" := (hlaw env "a|b" (by decide +kernel)).trans
    (by decide +kernel)
  have hvalue : (Template.compile "$\x7bx|a\\|b|r|g\x7d").toOption.map (·.substitute env) =
      some (.ok "r|r") := by decide +kernel
  rw [show Template.compile "$\x7bx|a\\|b|r|g\x7d" = .ok t from ht] at hvalue
  exact absurd (Except.ok.inj (hlaw.symm.trans (Option.some.inj hvalue))) (by decide)

end Stencil
