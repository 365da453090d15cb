import Stencil.Template.Basic
import Stencil.Template.Occurrence
import Stencil.Proofs.Text.Reads
import Stencil.Proofs.Unicode.Ranges

/-!
# What references look like

`Form.Refers` says what a reference to a name looks like in each of the five forms, and before which
texts. Readers without patterns read exactly these references (`rest?_eq_some_iff`). With them a
text is read from its end, and so the last reference of the first form that occurs is found
(`find?`). It is found exactly when a reference of some form stands anywhere in the text
(`find?_isSome_iff`).
-/

namespace Stencil

/-- The characters of names, by their ranges. -/
theorem isNameChar_iff {c : Char} :
    isNameChar c ↔
      ('A' ≤ c ∧ c ≤ 'Z') ∨ ('a' ≤ c ∧ c ≤ 'z') ∨ ('0' ≤ c ∧ c ≤ '9') ∨ c = '_' := by
  have hupper : c.isUpper ↔ 'A' ≤ c ∧ c ≤ 'Z' := decide_eq_true_iff
  have hrange : ∀ a b : Char, (decide (c.val ≥ a.val) && decide (c.val ≤ b.val)) = true ↔
      a ≤ c ∧ c ≤ b := fun a b => by
    rw [Bool.and_eq_true, decide_eq_true_iff, decide_eq_true_iff]
    rfl
  have hlower : c.isLower ↔ 'a' ≤ c ∧ c ≤ 'z' := hrange 'a' 'z'
  have hdigit : c.isDigit ↔ '0' ≤ c ∧ c ≤ '9' := hrange '0' '9'
  show (((c.isUpper || c.isLower) || c.isDigit) || c == '_') = true ↔ _
  rw [Bool.or_eq_true, Bool.or_eq_true, Bool.or_eq_true, beq_iff_eq, hupper, hlower, hdigit,
    or_assoc, or_assoc]

namespace Occurrence

/-! ## Readers -/

/-- The characters after a given beginning. -/
def after? : List Char → List Char → Option (List Char)
  | [], cs => some cs
  | _ :: _, [] => none
  | w :: ws, c :: cs => if w = c then after? ws cs else none

/-- Whether a character is a digit of some script. -/
def isDigit (c : Char) : Bool := Unicode.Property.digit.contains c

/-- Whether a character is white space. -/
def isSpace (c : Char) : Bool := Unicode.Property.whiteSpace.contains c

/-- Skips a character if it comes next. -/
def skipOptional (d : Char) : List Char → List Char
  | c :: cs => if c = d then cs else c :: cs
  | [] => []

/-- Skips digits with an optional minus sign before them. -/
def skipBound (cs : List Char) : List Char :=
  (skipOptional '-' cs).dropWhile isDigit

/-- What a quoted part of a ternary may hold when a reference is searched for. -/
def isPlain (c : Char) : Bool :=
  c != '}' && c != '?' && c != ':'

/-- Skips a quoted part without `}`, `?` and `:`, the white space after it, and the character that
has to follow. -/
def skipQuoted? (close : Char) (cs : List Char) : Option (List Char) := do
  let inside ← after? ['"'] (cs.dropWhile isSpace)
  let body := inside.takeWhile isPlain
  match (body.reverse.dropWhile isSpace).head? with
  | some '"' => after? [close] (inside.dropWhile isPlain)
  | _ => none

/-- What is left of a text after a reference of some form at its front. -/
def Form.rest? (form : Form) (name cs : List Char) : Option (List Char) :=
  match form with
  | .braced => do
    let r ← after? ['$', '{'] cs
    let r ← after? name r
    after? ['}'] r
  | .subscripted => do
    let r ← after? ['$', '{'] cs
    let r ← after? name r
    let r ← after? ['['] r
    after? [']', '}'] (skipBound (skipOptional ':' (skipBound r)))
  | .bare => do
    let r ← after? ['$'] cs
    let r ← after? name r
    match r with
    | c :: _ => if isNameChar c then none else some r
    | [] => none
  | .bareAtEnd => do
    let r ← after? ['$'] cs
    let r ← after? name r
    if r.isEmpty then some r else none
  | .ternary => do
    let r ← after? ['$', '{'] cs
    let r ← after? name r
    let r := r.dropWhile isSpace
    let r ← (after? ['=', '='] r).or (after? ['!', '='] r)
    let r ← skipQuoted? '?' r
    let r ← skipQuoted? ':' r
    skipQuoted? '}' r

/-- The last place where a form occurs. -/
def last? (form : Form) (name : List Char) : List Char → Option Split
  | [] => none
  | c :: cs =>
    match last? form name cs with
    | some s => some { s with before := c :: s.before }
    | none =>
      (form.rest? name (c :: cs)).map fun r =>
        ⟨[], (c :: cs).take ((c :: cs).length - r.length), r⟩

/-- The last occurrence of the first form that occurs. -/
def find? (name text : String) : Option Split :=
  Form.all.findSome? fun form => last? form name.toList text.toList

/-! ## Forms as texts -/

/-- Digits with or without a minus sign, or nothing. -/
def IsBound (w : List Char) : Prop :=
  ∃ sign digits, w = sign ++ digits ∧ (sign = [] ∨ sign = ['-']) ∧ ∀ d ∈ digits, isDigit d

/-- What may stand in brackets: two bounds with or without a colon between them. -/
def IsSubscript (w : List Char) : Prop :=
  ∃ start colon stop, w = start ++ (colon ++ stop) ∧ IsBound start ∧
    (colon = [] ∨ colon = [':']) ∧ IsBound stop

def IsBlank (w : List Char) : Prop :=
  ∀ a ∈ w, isSpace a

/-- A quoted part without `}`, `?` and `:`, with blanks around it. -/
def IsQuoted (w : List Char) : Prop :=
  ∃ gap body gap', w = gap ++ '"' :: (body ++ '"' :: gap') ∧ IsBlank gap ∧
    (∀ a ∈ body, isPlain a) ∧ IsBlank gap'

/-- A text refers to a name in some form, before the text given last. -/
inductive Form.Refers (name : List Char) : Form → List Char → List Char → Prop
  | braced {rest} : Refers name .braced ('$' :: '{' :: (name ++ ['}'])) rest
  | subscripted {w rest} : IsSubscript w →
      Refers name .subscripted ('$' :: '{' :: (name ++ '[' :: (w ++ [']', '}']))) rest
  | bare {c rest} : isNameChar c = false → Refers name .bare ('$' :: name) (c :: rest)
  | bareAtEnd : Refers name .bareAtEnd ('$' :: name) []
  | ternary {gap comparison w₁ w₂ w₃ rest} : IsBlank gap →
      (comparison = ['=', '='] ∨ comparison = ['!', '=']) →
      IsQuoted w₁ → IsQuoted w₂ → IsQuoted w₃ →
      Refers name .ternary ('$' :: '{' :: (name ++ (gap ++ (comparison ++
        (w₁ ++ '?' :: (w₂ ++ ':' :: (w₃ ++ ['}']))))))) rest

/-- A reference of some form stands in a text. -/
def Form.OccursIn (form : Form) (name cs : List Char) : Prop :=
  ∃ u w rest, cs = u ++ (w ++ rest) ∧ form.Refers name w rest

/-! ## Parts of a form -/

theorem after?_eq_some_iff {w cs r : List Char} : after? w cs = some r ↔ cs = w ++ r := by
  induction w generalizing cs with
  | nil => simp [after?]
  | cons a w ih =>
    cases cs with
    | nil => simp [after?]
    | cons c cs =>
      rw [after?]
      split_ifs with h
      · rw [ih, h, List.cons_append, List.cons_inj_right]
      · simp [Ne.symm h]

/-- The characters below 128 that are digits are those of decimal numerals. -/
theorem isDigit_iff {c : Char} (hc : c.toNat < 128) : isDigit c ↔ c.isDigit :=
  Unicode.Property.digit_contains_iff hc

theorem isDigit_of_isDigit {c : Char} (h : c.isDigit) : isDigit c := by
  have hc : c.toNat ≤ 57 := by
    rw [Char.isDigit, Bool.and_eq_true, decide_eq_true_iff, decide_eq_true_iff] at h
    exact h.2
  exact (isDigit_iff (by omega)).2 h

theorem isDigit_mark {c : Char} (hc : c ∈ ['-', ':', ']']) : isDigit c = false := by
  have hmark : c.toNat < 128 ∧ c.isDigit = false := by
    simp only [List.mem_cons, List.not_mem_nil, or_false] at hc
    rcases hc with rfl | rfl | rfl <;> decide
  rw [← Bool.not_eq_true, isDigit_iff hmark.1, hmark.2]
  exact Bool.false_ne_true

theorem isSpace_iff {c : Char} (hc : c.toNat < 128) :
    isSpace c ↔ (9 ≤ c.toNat ∧ c.toNat ≤ 13) ∨ c.toNat = 32 :=
  Unicode.Property.whiteSpace_contains_iff hc

theorem isSpace_mark {c : Char} (hc : c ∈ ['"', '=', '!', '?', ':', '}']) : isSpace c = false := by
  have hmark : c.toNat < 128 ∧ ¬ ((9 ≤ c.toNat ∧ c.toNat ≤ 13) ∨ c.toNat = 32) := by
    simp only [List.mem_cons, List.not_mem_nil, or_false] at hc
    rcases hc with rfl | rfl | rfl | rfl | rfl | rfl <;> decide
  rw [← Bool.not_eq_true, isSpace_iff hmark.1]
  exact hmark.2

theorem isPlain_of_isSpace {c : Char} (h : isSpace c) : isPlain c := by
  have hne : ∀ d, isSpace d = false → c ≠ d := by
    rintro d hd rfl
    rw [hd] at h
    cases h
  have hbrace := hne '}' (isSpace_mark (by simp))
  have hquestion := hne '?' (isSpace_mark (by simp))
  have hcolon := hne ':' (isSpace_mark (by simp))
  simp [isPlain, hbrace, hquestion, hcolon]

theorem isBound_nil : IsBound [] :=
  ⟨[], [], rfl, .inl rfl, by simp⟩

theorem exists_skipOptional (d : Char) (cs : List Char) :
    ∃ w, (w = [] ∨ w = [d]) ∧ cs = w ++ skipOptional d cs := by
  cases cs with
  | nil => exact ⟨[], .inl rfl, rfl⟩
  | cons c cs =>
    rw [skipOptional]
    split_ifs with h
    · exact ⟨[d], .inr rfl, by rw [h]; rfl⟩
    · exact ⟨[], .inl rfl, rfl⟩

theorem exists_skipBound (cs : List Char) : ∃ w, IsBound w ∧ cs = w ++ skipBound cs := by
  obtain ⟨sign, hsign, hcs⟩ := exists_skipOptional '-' cs
  refine ⟨sign ++ (skipOptional '-' cs).takeWhile isDigit, ⟨sign, _, rfl, hsign, ?_⟩, ?_⟩
  · exact List.all_eq_true.1 List.all_takeWhile
  · rw [skipBound, List.append_assoc, List.takeWhile_append_dropWhile]
    exact hcs

/-- A bound is skipped as a whole. -/
theorem skipBound_append {w r : List Char} (hw : IsBound w) (hr : Stops isDigit r)
    (hminus : w = [] → r.head? ≠ some '-') : skipBound (w ++ r) = r := by
  obtain ⟨sign, ds, rfl, hs, hds⟩ := hw
  have hsign : skipOptional '-' (sign ++ ds ++ r) = ds ++ r := by
    rcases hs with rfl | rfl
    · rcases ds with _ | ⟨d, ds⟩
      · rcases r with _ | ⟨c, r⟩
        · rfl
        · exact if_neg fun h => hminus rfl (congrArg some h)
      · refine if_neg fun h => ?_
        have hd := hds d List.mem_cons_self
        rw [h, isDigit_mark (by simp)] at hd
        cases hd
    · rfl
  rw [skipBound, hsign, dropWhile_append_of_stops hds hr]

/-- What is skipped as a quoted part is one, up to the last mark before the closing character. -/
theorem exists_quoted_of_skipQuoted? {close : Char} {cs r : List Char}
    (h : skipQuoted? close cs = some r) : ∃ w, IsQuoted w ∧ cs = w ++ close :: r := by
  simp only [skipQuoted?, Option.bind_eq_bind, Option.bind_eq_some_iff, after?_eq_some_iff] at h
  obtain ⟨inside, hopen, h⟩ := h
  split at h
  swap
  · cases h
  rename_i hlast
  obtain ⟨t, ht⟩ := List.head?_eq_some_iff.1 hlast
  rw [after?_eq_some_iff] at h
  have hinside := List.takeWhile_append_dropWhile (p := isPlain) (l := inside)
  have hplain : ∀ a ∈ inside.takeWhile isPlain, isPlain a := List.all_eq_true.1 List.all_takeWhile
  rw [h] at hinside
  generalize inside.takeWhile isPlain = run at ht hinside hplain
  have hrun : run = t.reverse ++ '"' :: (run.reverse.takeWhile isSpace).reverse := by
    have hcut := List.takeWhile_append_dropWhile (p := isSpace) (l := run.reverse)
    rw [ht] at hcut
    simpa using (congrArg List.reverse hcut).symm
  refine ⟨cs.takeWhile isSpace ++ '"' :: run, ⟨_, t.reverse, _, by rw [← hrun],
    List.all_eq_true.1 List.all_takeWhile, fun a ha => ?_, fun a ha => ?_⟩, ?_⟩
  · refine hplain a ?_
    rw [hrun]
    exact List.mem_append_left _ ha
  · exact List.all_eq_true.1 List.all_takeWhile a (List.mem_reverse.1 ha)
  · calc cs = cs.takeWhile isSpace ++ (['"'] ++ inside) := by
          rw [← hopen, List.takeWhile_append_dropWhile]
      _ = (cs.takeWhile isSpace ++ '"' :: run) ++ close :: r := by
          rw [← hinside]
          simp

/-- A quoted part is skipped as a whole. -/
theorem skipQuoted?_append {w r : List Char} {close : Char} (hw : IsQuoted w)
    (hclose : isPlain close = false) : skipQuoted? close (w ++ close :: r) = some r := by
  obtain ⟨gap, body, gap', rfl, hgap, hbody, hgap'⟩ := hw
  have hquote : isSpace '"' = false := isSpace_mark (by simp)
  have hplain : ∀ a ∈ body ++ '"' :: gap', isPlain a := by
    intro a ha
    rcases List.mem_append.1 ha with ha | ha
    · exact hbody a ha
    · rcases List.mem_cons.1 ha with rfl | ha
      · decide
      · exact isPlain_of_isSpace (hgap' a ha)
  have hstops : Stops isPlain (close :: r) := (stops_cons _ _ _).2 hclose
  have hskip : (gap ++ '"' :: (body ++ '"' :: gap') ++ close :: r).dropWhile isSpace =
      '"' :: ((body ++ '"' :: gap') ++ close :: r) := by
    rw [List.append_assoc]
    exact dropWhile_append_of_stops hgap ((stops_cons _ _ _).2 hquote)
  have hrun := takeWhile_append_of_stops hplain hstops
  have hdrop := dropWhile_append_of_stops hplain hstops
  have hlast : (body ++ '"' :: gap').reverse.dropWhile isSpace = '"' :: body.reverse := by
    have hblank : ∀ a ∈ gap'.reverse, isSpace a := fun a ha => hgap' a (List.mem_reverse.1 ha)
    rw [List.reverse_append, List.reverse_cons, List.append_assoc]
    exact dropWhile_append_of_stops hblank ((stops_cons _ _ _).2 hquote)
  simp only [skipQuoted?, hskip, after?, hrun, hdrop, hlast, if_true, List.head?_cons,
    Option.bind_eq_bind, Option.bind_some]

theorem skipQuoted?_eq_some_iff {close : Char} {cs r : List Char} (hclose : isPlain close = false) :
    skipQuoted? close cs = some r ↔ ∃ w, IsQuoted w ∧ cs = w ++ close :: r := by
  refine ⟨exists_quoted_of_skipQuoted?, ?_⟩
  rintro ⟨w, hw, rfl⟩
  exact skipQuoted?_append hw hclose

/-! ## Forms -/

section Forms

variable {name cs r : List Char}

theorem rest?_braced_iff :
    Form.braced.rest? name cs = some r ↔ cs = '$' :: '{' :: (name ++ '}' :: r) := by
  simp [Form.rest?, Option.bind_eq_some_iff, after?_eq_some_iff]

/-- Two bounds and a colon between them are skipped up to the closing bracket. -/
theorem skipBounds_append {w : List Char} (hw : IsSubscript w) (h : r.head? = some ']') :
    skipBound (skipOptional ':' (skipBound (w ++ r))) = r := by
  obtain ⟨r, rfl⟩ := List.head?_eq_some_iff.1 h
  obtain ⟨start, colon, stop, rfl, hstart, hcolon, hstop⟩ := hw
  have hclose : ∀ {w}, IsBound w → skipBound (w ++ ']' :: r) = ']' :: r := fun hw =>
    skipBound_append hw ((stops_cons _ _ _).2 (isDigit_mark (by simp))) (by simp)
  rcases hcolon with rfl | rfl
  · obtain ⟨sign, digits, rfl, rfl | rfl, hdigits⟩ := hstop
    · -- without a sign the digits of the second bound belong to the first
      have hbound : IsBound (start ++ digits) := by
        obtain ⟨sign, ds, rfl, hsign, hds⟩ := hstart
        refine ⟨sign, ds ++ digits, by simp, hsign, fun d hd => ?_⟩
        exact (List.mem_append.1 hd).elim (hds d) (hdigits d)
      rw [List.nil_append, List.nil_append, hclose hbound]
      exact hclose isBound_nil
    · have hstop : IsBound (['-'] ++ digits) := ⟨['-'], digits, rfl, .inr rfl, hdigits⟩
      rw [List.nil_append, List.append_assoc]
      by_cases hnil : start = []
      · rw [hnil, List.nil_append, hclose hstop]
        exact hclose isBound_nil
      · have hfirst : skipBound (start ++ '-' :: (digits ++ ']' :: r)) =
            '-' :: (digits ++ ']' :: r) :=
          skipBound_append hstart ((stops_cons _ _ _).2 (isDigit_mark (by simp)))
            fun h => absurd h hnil
        show skipBound (skipOptional ':' (skipBound (start ++ '-' :: (digits ++ ']' :: r)))) = _
        rw [hfirst]
        exact hclose hstop
  · have hfirst : skipBound (start ++ ':' :: (stop ++ ']' :: r)) = ':' :: (stop ++ ']' :: r) :=
      skipBound_append hstart ((stops_cons _ _ _).2 (isDigit_mark (by simp))) (by simp)
    rw [List.append_assoc, List.append_assoc, List.singleton_append, hfirst]
    exact hclose hstop

theorem rest?_subscripted_iff :
    Form.subscripted.rest? name cs = some r ↔
      ∃ w, IsSubscript w ∧ cs = '$' :: '{' :: (name ++ '[' :: (w ++ ']' :: '}' :: r)) := by
  simp only [Form.rest?, Option.bind_eq_bind, Option.bind_eq_some_iff, after?_eq_some_iff]
  constructor
  · rintro ⟨_, rfl, _, rfl, inside, rfl, h⟩
    obtain ⟨start, hstart, hcs⟩ := exists_skipBound inside
    obtain ⟨colon, hcolon, hcs'⟩ := exists_skipOptional ':' (skipBound inside)
    obtain ⟨stop, hstop, hcs''⟩ := exists_skipBound (skipOptional ':' (skipBound inside))
    refine ⟨start ++ (colon ++ stop), ⟨start, colon, stop, rfl, hstart, hcolon, hstop⟩, ?_⟩
    rw [h] at hcs''
    rw [hcs''] at hcs'
    rw [hcs'] at hcs
    rw [hcs]
    simp
  · rintro ⟨w, hw, rfl⟩
    exact ⟨_, rfl, _, rfl, _, rfl, skipBounds_append hw rfl⟩

theorem rest?_bare_iff :
    Form.bare.rest? name cs = some r ↔
      cs = '$' :: (name ++ r) ∧ ∃ c t, r = c :: t ∧ isNameChar c = false := by
  simp only [Form.rest?, Option.bind_eq_bind, Option.bind_eq_some_iff, after?_eq_some_iff]
  constructor
  · rintro ⟨_, rfl, t, rfl, h⟩
    split at h
    · split_ifs at h with hname
      cases h
      exact ⟨rfl, _, _, rfl, by simpa using hname⟩
    · cases h
  · rintro ⟨rfl, c, t, rfl, hc⟩
    exact ⟨_, rfl, _, rfl, by simp [hc]⟩

theorem rest?_bareAtEnd_iff :
    Form.bareAtEnd.rest? name cs = some r ↔ cs = '$' :: name ∧ r = [] := by
  simp only [Form.rest?, Option.bind_eq_bind, Option.bind_eq_some_iff, after?_eq_some_iff]
  constructor
  · rintro ⟨_, rfl, t, rfl, h⟩
    split_ifs at h with hempty
    cases h
    rw [List.isEmpty_iff] at hempty
    simp [hempty]
  · rintro ⟨rfl, rfl⟩
    exact ⟨name, rfl, [], by simp, rfl⟩

theorem comparison_eq_some_iff :
    (after? ['=', '='] (cs.dropWhile isSpace)).or (after? ['!', '='] (cs.dropWhile isSpace)) =
        some r ↔
      ∃ gap comparison, IsBlank gap ∧ (comparison = ['=', '='] ∨ comparison = ['!', '=']) ∧
        cs = gap ++ (comparison ++ r) := by
  simp only [Option.or_eq_some_iff, after?_eq_some_iff]
  constructor
  · intro h
    have hcut : ∃ comparison, (comparison = ['=', '='] ∨ comparison = ['!', '=']) ∧
        cs.dropWhile isSpace = comparison ++ r := by
      rcases h with h | ⟨-, h⟩
      · exact ⟨_, .inl rfl, h⟩
      · exact ⟨_, .inr rfl, h⟩
    obtain ⟨comparison, hcomparison, hdrop⟩ := hcut
    have hblank : IsBlank (cs.takeWhile isSpace) := List.all_eq_true.1 List.all_takeWhile
    refine ⟨cs.takeWhile isSpace, comparison, hblank, hcomparison, ?_⟩
    rw [← hdrop, List.takeWhile_append_dropWhile]
  · rintro ⟨gap, comparison, hgap, rfl | rfl, rfl⟩
    · have hskip := dropWhile_append_of_stops hgap
        ((stops_cons isSpace '=' ('=' :: r)).2 (isSpace_mark (by simp)))
      exact .inl hskip
    · have hskip := dropWhile_append_of_stops hgap
        ((stops_cons isSpace '!' ('=' :: r)).2 (isSpace_mark (by simp)))
      refine .inr ⟨?_, hskip⟩
      show after? ['=', '='] ((gap ++ '!' :: '=' :: r).dropWhile isSpace) = none
      rw [hskip]
      rfl

theorem rest?_ternary_iff :
    Form.ternary.rest? name cs = some r ↔
      ∃ gap comparison w₁ w₂ w₃, IsBlank gap ∧
        (comparison = ['=', '='] ∨ comparison = ['!', '=']) ∧
        IsQuoted w₁ ∧ IsQuoted w₂ ∧ IsQuoted w₃ ∧
        cs = '$' :: '{' :: (name ++ (gap ++ (comparison ++
          (w₁ ++ '?' :: (w₂ ++ ':' :: (w₃ ++ '}' :: r)))))) := by
  simp only [Form.rest?, Option.bind_eq_bind, Option.bind_eq_some_iff, after?_eq_some_iff,
    comparison_eq_some_iff, skipQuoted?_eq_some_iff (show isPlain '?' = false by decide),
    skipQuoted?_eq_some_iff (show isPlain ':' = false by decide),
    skipQuoted?_eq_some_iff (show isPlain '}' = false by decide)]
  constructor
  · rintro ⟨_, rfl, _, rfl, _, ⟨gap, comparison, hgap, hcomparison, rfl⟩, _, ⟨w₁, h₁, rfl⟩, _,
      ⟨w₂, h₂, rfl⟩, w₃, h₃, rfl⟩
    exact ⟨gap, comparison, w₁, w₂, w₃, hgap, hcomparison, h₁, h₂, h₃, rfl⟩
  · rintro ⟨gap, comparison, w₁, w₂, w₃, hgap, hcomparison, h₁, h₂, h₃, rfl⟩
    exact ⟨_, rfl, _, rfl, _, ⟨gap, comparison, hgap, hcomparison, rfl⟩, _, ⟨w₁, h₁, rfl⟩, _,
      ⟨w₂, h₂, rfl⟩, w₃, h₃, rfl⟩

end Forms

/-- What is read by a form is a reference of it. -/
theorem rest?_eq_some_iff {form : Form} {name cs r : List Char} :
    form.rest? name cs = some r ↔ ∃ w, form.Refers name w r ∧ cs = w ++ r := by
  constructor
  · intro h
    cases form with
    | braced => exact ⟨_, .braced, by simpa using rest?_braced_iff.1 h⟩
    | subscripted =>
      obtain ⟨w, hw, rfl⟩ := rest?_subscripted_iff.1 h
      exact ⟨_, .subscripted hw, by simp⟩
    | bare =>
      obtain ⟨rfl, c, t, rfl, hc⟩ := rest?_bare_iff.1 h
      exact ⟨_, .bare hc, rfl⟩
    | bareAtEnd =>
      obtain ⟨rfl, rfl⟩ := rest?_bareAtEnd_iff.1 h
      exact ⟨_, .bareAtEnd, by simp⟩
    | ternary =>
      obtain ⟨gap, comparison, w₁, w₂, w₃, hgap, hcomparison, h₁, h₂, h₃, rfl⟩ :=
        rest?_ternary_iff.1 h
      exact ⟨_, .ternary hgap hcomparison h₁ h₂ h₃, by simp⟩
  · rintro ⟨w, h, rfl⟩
    cases h with
    | braced => exact rest?_braced_iff.2 (by simp)
    | subscripted hw => exact rest?_subscripted_iff.2 ⟨_, hw, by simp⟩
    | bare hc => exact rest?_bare_iff.2 ⟨rfl, _, _, rfl, hc⟩
    | bareAtEnd => exact rest?_bareAtEnd_iff.2 ⟨by simp, rfl⟩
    | ternary hgap hcomparison h₁ h₂ h₃ =>
      exact rest?_ternary_iff.2 ⟨_, _, _, _, _, hgap, hcomparison, h₁, h₂, h₃, by simp⟩

/-! ## Search -/

section Search

variable {form : Form} {name : List Char}

theorem Form.Refers.ne_nil {w r : List Char} (h : form.Refers name w r) : w ≠ [] := by
  cases h <;> exact List.cons_ne_nil _ _

theorem occursIn_nil : ¬ form.OccursIn name [] := by
  rintro ⟨u, w, r, hcut, h⟩
  have hw : w = [] := by simp_all
  exact h.ne_nil hw

/-- A reference in a text stands in front or further on. -/
theorem occursIn_cons_iff {c : Char} {cs : List Char} :
    form.OccursIn name (c :: cs) ↔
      form.OccursIn name cs ∨ ∃ w r, form.Refers name w r ∧ c :: cs = w ++ r := by
  constructor
  · rintro ⟨_ | ⟨a, u⟩, w, r, hcut, h⟩
    · exact .inr ⟨w, r, h, hcut⟩
    · exact .inl ⟨u, w, r, List.tail_eq_of_cons_eq hcut, h⟩
  · rintro (⟨u, w, r, rfl, h⟩ | ⟨w, r, h, hcut⟩)
    · exact ⟨c :: u, w, r, rfl, h⟩
    · exact ⟨[], w, r, hcut, h⟩

theorem last?_isSome_iff {cs : List Char} :
    (last? form name cs).isSome ↔ form.OccursIn name cs := by
  induction cs with
  | nil => simp [last?, occursIn_nil]
  | cons c cs ih =>
    have hfront : (∃ w r, form.Refers name w r ∧ c :: cs = w ++ r) ↔
        (form.rest? name (c :: cs)).isSome := by
      rw [Option.isSome_iff_exists]
      simp only [rest?_eq_some_iff]
      exact exists_comm
    rw [occursIn_cons_iff, ← ih, hfront, last?]
    cases last? form name cs <;> simp

instance (cs : List Char) : Decidable (form.OccursIn name cs) :=
  decidable_of_iff _ last?_isSome_iff

end Search

theorem Form.mem_all (form : Form) : form ∈ Form.all := by
  cases form <;> decide

/-- A search finds something exactly when a reference of some form stands in the text. -/
theorem find?_isSome_iff {name text : String} :
    (find? name text).isSome ↔ ∃ form : Form, form.OccursIn name.toList text.toList := by
  rw [find?, List.findSome?_isSome_iff]
  simp only [last?_isSome_iff]
  exact ⟨fun ⟨form, _, h⟩ => ⟨form, h⟩, fun ⟨form, h⟩ => ⟨form, form.mem_all, h⟩⟩

end Occurrence

end Stencil
