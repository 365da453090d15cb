import Stencil.Template.Reference
import Stencil.Proofs.Text.Reads

/-!
# How references are written

The written forms of numbers, subscripts and references, each with its text, with what it stands
for, and with the rule (`Sound`) that makes it one. The main statements say that the readers read
exactly these forms, at any place and before any text that does not prolong them:
`readIndex_eq_ok_iff`, `readSubscript_eq_ok_iff`, `exists_subject` with `Subject.read_eq`, and
`readSimple_eq_some_iff`; `readSimple_eq_none_iff` says when a brace after a dollar sign opens no
reference at all.
-/

namespace Stencil

namespace Spelling

/-- A number as written: digits, with or without a minus sign. -/
structure Numeral where
  negative : Bool
  digits : List Char
  deriving DecidableEq, Repr

namespace Numeral

def text (n : Numeral) : List Char :=
  if n.negative then '-' :: n.digits else n.digits

def value (n : Numeral) : Int :=
  if n.negative then -(decimal n.digits : Int) else decimal n.digits

/-- One digit or more, and a value that fits in 64 bits with a sign. -/
structure Sound (n : Numeral) : Prop where
  digits_ne_nil : n.digits ≠ []
  isDigit : ∀ d ∈ n.digits, d.isDigit
  isWord : isWord n.value

end Numeral

/-- A bound of a range, which may be left out. -/
abbrev Bound := Option Numeral

namespace Bound

def text : Bound → List Char
  | none => []
  | some n => n.text

def value (b : Bound) : Option Int :=
  b.map Numeral.value

def Sound (b : Bound) : Prop :=
  ∀ n ∈ b, n.Sound

end Bound

/-- A subscript as written. -/
inductive Brackets
  | index (n : Numeral)
  | range (start stop : Bound)
  deriving DecidableEq, Repr

namespace Brackets

def text : Brackets → List Char
  | index n => '[' :: (n.text ++ [']'])
  | range start stop => '[' :: (start.text ++ ':' :: (stop.text ++ [']']))

def value : Brackets → Subscript
  | index n => .index n.value
  | range start stop => .slice start.value stop.value

def Sound : Brackets → Prop
  | index n => n.Sound
  | range start stop => start.Sound ∧ stop.Sound

end Brackets

/-- A name with or without a subscript: what stands at the start of a token in braces. -/
structure Subject where
  name : List Char
  brackets : Option Brackets
  deriving DecidableEq, Repr

/-- A name is one name character or more. -/
structure NameSound (name : List Char) : Prop where
  ne_nil : name ≠ []
  isNameChar : ∀ c ∈ name, isNameChar c

namespace Subject

def subscriptText (s : Subject) : List Char :=
  (s.brackets.map Brackets.text).getD []

def text (s : Subject) : List Char :=
  s.name ++ s.subscriptText

structure Sound (s : Subject) : Prop where
  name : NameSound s.name
  brackets : ∀ b ∈ s.brackets, b.Sound

/-- What follows does not prolong the name or add a subscript to it. -/
def Ends (s : Subject) (rest : List Char) : Prop :=
  s.brackets = none → Stops (fun c => isNameChar c || c == '[') rest

/-- The reference in braces, or the subject of a token, with the given span. -/
def ref (s : Subject) (span : Span) : VariableRef :=
  ⟨String.ofList s.name, s.brackets.map Brackets.value, true, span⟩

end Subject

/-- A reference as written: a dollar sign and a name, or a subject in braces. -/
inductive Reference
  | bare (name : List Char)
  | braced (s : Subject)
  deriving DecidableEq, Repr

namespace Reference

def text : Reference → List Char
  | bare name => '$' :: name
  | braced s => '$' :: '{' :: (s.text ++ ['}'])

def Sound : Reference → Prop
  | bare name => NameSound name
  | braced s => s.Sound

/-- What follows does not prolong a name without braces. -/
def Ends : Reference → List Char → Prop
  | bare _, rest => Stops isNameChar rest
  | braced _, _ => True

/-- The reference that is written from the byte `o` on. -/
def ref (r : Reference) (o : Nat) : VariableRef :=
  match r with
  | bare name => ⟨String.ofList name, none, false, ⟨o, o + byteWidth r.text⟩⟩
  | braced s => s.ref ⟨o, o + byteWidth r.text⟩

end Reference

/-- A text after `${` that opens no simple reference, and no faulty one either: no subject and
closing brace stand there, and a bracket after a name opens a subscript. -/
structure OpensNothing (cs : List Char) : Prop where
  not_braced : ∀ s : Subject, s.Sound → ∀ rest, cs ≠ s.text ++ '}' :: rest
  brackets : ∀ name, NameSound name → ∀ rest, cs = name ++ '[' :: rest →
    ∃ b : Brackets, b.Sound ∧ ∃ rest', '[' :: rest = b.text ++ rest'

end Spelling

open Spelling

/-! ## Numbers -/

theorem readDigits_eq_ok_iff {negative : Bool} {c d c' : Cursor} {i : Option Int} :
    readDigits negative c d = .ok (i, c') ↔
      (∃ n : Numeral, n.negative = negative ∧ n.Sound ∧ d.Reads n.digits c' ∧
        Stops Char.isDigit c'.rest ∧ i = some n.value) ∨
      (negative = false ∧ Stops Char.isDigit d.rest ∧ c' = d ∧ i = none) := by
  have hrun := Cursor.reads_run Char.isDigit d
  have hstops := Cursor.stops_skipWhile Char.isDigit d
  constructor
  · intro h
    unfold readDigits fault at h
    dsimp only at h
    split_ifs at h with hempty hneg hneg hword hword
    · -- no digits, and no minus sign either
      simp only [Except.ok.injEq, Prod.mk.injEq] at h
      rw [List.isEmpty_iff] at hempty
      rw [hempty, Cursor.reads_nil_iff] at hrun
      rw [hrun] at hstops
      exact Or.inr ⟨by simpa using hneg, hstops, h.2.symm, h.1.symm⟩
    all_goals
      simp only [Except.ok.injEq, Prod.mk.injEq] at h
      rw [h.2] at hrun hstops
      refine Or.inl ⟨⟨negative, d.run Char.isDigit⟩, rfl, ⟨?_, fun a ha => Cursor.mem_run ha, ?_⟩,
        hrun, hstops, ?_⟩
      · simpa using hempty
      · simpa [Numeral.value, hneg] using hword
      · rw [← h.1]
        simp [Numeral.value, hneg]
  · rintro (⟨n, rfl, hn, hreads, hs, rfl⟩ | ⟨rfl, hs, rfl, rfl⟩)
    · obtain ⟨hrun, hskip⟩ := Cursor.run_of_reads hreads hn.isDigit hs
      have hword := hn.isWord
      unfold Numeral.value at hword
      unfold readDigits
      dsimp only
      rw [hrun, hskip, if_neg (by simpa using hn.digits_ne_nil), if_pos hword]
      rfl
    · obtain ⟨hrun, hskip⟩ := Cursor.run_of_reads (.refl c') (by simp) hs
      simp [readDigits, hrun]

theorem readIndex_eq_ok_iff {c c' : Cursor} {i : Option Int} :
    readIndex c = .ok (i, c') ↔
      ∃ b : Bound, b.Sound ∧ c.Reads b.text c' ∧ Stops Char.isDigit c'.rest ∧
        (b = none → c'.peek? ≠ some '-') ∧ i = b.value := by
  unfold readIndex
  constructor
  · intro h
    split_ifs at h with hminus
    · rcases readDigits_eq_ok_iff.1 h with ⟨n, hneg, hn, hreads, hs, rfl⟩ | ⟨hfalse, -⟩
      · refine ⟨some n, by simpa [Bound.Sound] using hn, ?_, hs, by simp, rfl⟩
        rw [Bound.text, Numeral.text, if_pos hneg]
        exact Cursor.reads_cons_iff.2 ⟨hminus, hreads⟩
      · simp at hfalse
    · rcases readDigits_eq_ok_iff.1 h with ⟨n, hneg, hn, hreads, hs, rfl⟩ | ⟨-, hs, rfl, rfl⟩
      · refine ⟨some n, by simpa [Bound.Sound] using hn, ?_, hs, by simp, rfl⟩
        rw [Bound.text, Numeral.text, hneg]
        exact hreads
      · exact ⟨none, by simp [Bound.Sound], .refl c', hs, fun _ => hminus, rfl⟩
  · rintro ⟨b, hb, hreads, hs, hnone, rfl⟩
    cases b with
    | none =>
      obtain rfl := Cursor.reads_nil_iff.1 hreads
      rw [if_neg (hnone rfl)]
      exact readDigits_eq_ok_iff.2 (Or.inr ⟨rfl, hs, rfl, rfl⟩)
    | some n =>
      have hn : n.Sound := hb n rfl
      cases hneg : n.negative with
      | true =>
        rw [Bound.text, Numeral.text, if_pos hneg] at hreads
        rw [if_pos hreads.peek]
        exact readDigits_eq_ok_iff.2 (Or.inl ⟨n, hneg, hn, hreads.tail, hs, rfl⟩)
      | false =>
        rw [Bound.text, Numeral.text, hneg, if_neg (by simp)] at hreads
        have hminus : c.peek? ≠ some '-' := by
          intro hm
          obtain ⟨d, ds, hd⟩ := List.exists_cons_of_ne_nil hn.digits_ne_nil
          rw [hd] at hreads
          have hdm : d = '-' := by simpa [hreads.peek] using hm
          have := hn.isDigit d (by simp [hd])
          rw [hdm] at this
          exact absurd this (by decide)
        rw [if_neg hminus]
        exact readDigits_eq_ok_iff.2 (Or.inl ⟨n, hneg, hn, hreads, hs, rfl⟩)

/-! ## Subscripts -/

theorem closeSubscript_eq_ok_iff {s s' : Subscript} {c c' : Cursor} :
    closeSubscript s c = .ok (s', c') ↔ c.Reads [']'] c' ∧ s' = s := by
  rw [Cursor.reads_cons_iff, Cursor.reads_nil_iff]
  unfold closeSubscript fault
  split_ifs with h
  · simp only [Except.ok.injEq, Prod.mk.injEq, h, true_and]
    exact ⟨fun h => ⟨h.2.symm, h.1.symm⟩, fun h => ⟨h.2.symm, h.1.symm⟩⟩
  · simp [h]

/-- A bound before a colon or a closing bracket. -/
theorem readIndex_of_reads {b : Bound} {c d e : Cursor} {a : Char} {w : List Char} (hb : b.Sound)
    (hreads : c.Reads b.text d) (hnext : d.Reads (a :: w) e) (ha : a = ':' ∨ a = ']') :
    readIndex c = .ok (b.value, d) := by
  have hrest : d.rest = a :: (w ++ e.rest) := hnext.rest
  refine readIndex_eq_ok_iff.2 ⟨b, hb, hreads, ?_, fun _ => ?_, rfl⟩
  · rw [hrest]
    rcases ha with rfl | rfl <;> simp
  · rw [hnext.peek]
    rcases ha with rfl | rfl <;> simp

theorem readSubscript_eq_ok_iff {c c' : Cursor} {s : Subscript} (hopen : c.peek? = some '[') :
    readSubscript c = .ok (s, c') ↔
      ∃ b : Brackets, b.Sound ∧ c.Reads b.text c' ∧ s = b.value := by
  unfold readSubscript
  constructor
  · intro h
    split at h
    · cases h
    rename_i start d hstart
    obtain ⟨a, ha, hreads, -, -, rfl⟩ := readIndex_eq_ok_iff.1 hstart
    by_cases hcolon : d.peek? = some ':'
    · rw [if_pos hcolon] at h
      split at h
      · cases h
      rename_i stop e hstop
      obtain ⟨b, hb, hreads', -, -, rfl⟩ := readIndex_eq_ok_iff.1 hstop
      split_ifs at h with hstride
      · cases h
      obtain ⟨hclose, rfl⟩ := closeSubscript_eq_ok_iff.1 h
      refine ⟨.range a b, ⟨ha, hb⟩, ?_, rfl⟩
      exact Cursor.reads_cons_iff.2 ⟨hopen, hreads.trans <|
        Cursor.reads_cons_iff.2 ⟨hcolon, hreads'.trans hclose⟩⟩
    · rw [if_neg hcolon] at h
      cases a with
      | none =>
        simp only [Bound.value, Option.map_none] at h
        split_ifs at h <;> cases h
      | some n =>
        obtain ⟨hclose, rfl⟩ := closeSubscript_eq_ok_iff.1 h
        refine ⟨.index n, ha n rfl, ?_, rfl⟩
        exact Cursor.reads_cons_iff.2 ⟨hopen, hreads.trans hclose⟩
  · rintro ⟨b, hb, hreads, rfl⟩
    cases b with
    | index n =>
      obtain ⟨d, hn, hclose⟩ := Cursor.reads_append_iff.1 hreads.tail
      have hindex : readIndex (c.skip 1) = .ok (some n.value, d) :=
        readIndex_of_reads (b := some n)
          (by simpa [Bound.Sound] using show n.Sound from hb) hn hclose (Or.inr rfl)
      have hcolon : d.peek? ≠ some ':' := by simp [hclose.peek]
      rw [hindex]
      simp only [if_neg hcolon]
      exact closeSubscript_eq_ok_iff.2 ⟨hclose, rfl⟩
    | range start stop =>
      obtain ⟨d, hstart, hrest⟩ := Cursor.reads_append_iff.1 hreads.tail
      obtain ⟨e, hstop, hclose⟩ := Cursor.reads_append_iff.1 hrest.tail
      have hstride : e.peek? ≠ some ':' := by simp [hclose.peek]
      rw [readIndex_of_reads hb.1 hstart hrest (Or.inl rfl)]
      simp only [if_pos hrest.peek]
      rw [readIndex_of_reads hb.2 hstop hclose (Or.inr rfl)]
      simp only [if_neg hstride]
      exact closeSubscript_eq_ok_iff.2 ⟨hclose, rfl⟩

theorem readSubscript?_eq_ok_iff {c c' : Cursor} {s : Option Subscript} :
    readSubscript? c = .ok (s, c') ↔
      ∃ b : Option Brackets, (∀ x ∈ b, x.Sound) ∧ c.Reads ((b.map Brackets.text).getD []) c' ∧
        (b = none → c.peek? ≠ some '[') ∧ s = b.map Brackets.value := by
  unfold readSubscript?
  constructor
  · intro h
    split_ifs at h with hopen
    · split at h
      · cases h
      rename_i s' d hs
      obtain ⟨b, hb, hreads, rfl⟩ := (readSubscript_eq_ok_iff hopen).1 hs
      cases h
      exact ⟨some b, by simpa using hb, hreads, by simp, rfl⟩
    · cases h
      exact ⟨none, by simp, .refl c, fun _ => hopen, rfl⟩
  · rintro ⟨b, hb, hreads, hnone, rfl⟩
    cases b with
    | none =>
      obtain rfl := Cursor.reads_nil_iff.1 hreads
      rw [if_neg (hnone rfl)]
      rfl
    | some b =>
      have hopen : c.peek? = some '[' := by
        cases b with
        | index n => exact hreads.peek
        | range start stop => exact hreads.peek
      rw [if_pos hopen, (readSubscript_eq_ok_iff hopen).2 ⟨b, hb b rfl, hreads, rfl⟩]
      rfl

/-! ## Subjects -/

theorem Spelling.Subject.text_name (name : List Char) : (⟨name, none⟩ : Subject).text = name :=
  List.append_nil name

theorem Spelling.NameSound.subject {name : List Char} (h : NameSound name) :
    (⟨name, none⟩ : Subject).Sound :=
  ⟨h, by simp⟩

theorem Spelling.NameSound.ofList_ne_empty {name : List Char} (h : NameSound name) :
    String.ofList name ≠ "" := by
  intro he
  have := congrArg String.toList he
  simp only [String.toList_ofList] at this
  exact h.ne_nil this

/-- The text of a subscript, or none, does not go on with a name. -/
theorem Spelling.Subject.stops_subscriptText {x : Subject} {rest : List Char} (h : x.Ends rest) :
    Stops isNameChar (x.subscriptText ++ rest) := by
  unfold subscriptText
  cases hb : x.brackets with
  | none =>
    intro a ha
    have := h hb a (by simpa using ha)
    simp only [Bool.or_eq_false_iff] at this
    exact this.1
  | some b => cases b <;> simp [Brackets.text, isNameChar]

/-- A subject before a character that neither prolongs it nor opens a bracket. -/
theorem Spelling.Subject.ends_cons {x : Subject} {a : Char} {rest : List Char}
    (ha : isNameChar a = false) (hb : a ≠ '[') : x.Ends (a :: rest) := by
  intro _
  simp [ha, hb]

/-- A name and perhaps a subscript are read as a subject. -/
theorem exists_subject {c c' : Cursor} {s : Option Subscript} (hname : (readName c).1 ≠ "")
    (hs : readSubscript? (readName c).2 = .ok (s, c')) :
    ∃ x : Subject, x.Sound ∧ c.Reads x.text c' ∧ x.Ends c'.rest ∧
      (readName c).1 = String.ofList x.name ∧ s = x.brackets.map Brackets.value := by
  obtain ⟨b, hb, hreads, hnone, rfl⟩ := readSubscript?_eq_ok_iff.1 hs
  refine ⟨⟨c.run isNameChar, b⟩, ⟨⟨?_, fun a ha => Cursor.mem_run ha⟩, hb⟩,
    (Cursor.reads_run isNameChar c).trans hreads, ?_, rfl, rfl⟩
  · rintro (hnil : c.run isNameChar = [])
    exact hname (by rw [readName, hnil])
  · intro hb' a ha
    dsimp only at hb'
    subst hb'
    obtain rfl := Cursor.reads_nil_iff.1 hreads
    have hstop : isNameChar a = false := Cursor.stops_skipWhile isNameChar c a ha
    have hbracket : a ≠ '[' := by
      rintro rfl
      exact hnone rfl ha
    simp [hstop, hbracket]

/-- A subject is read as its name and its subscript. -/
theorem Spelling.Subject.read_eq {x : Subject} {c c' : Cursor} (hx : x.Sound)
    (hreads : c.Reads x.text c') (hends : x.Ends c'.rest) :
    (readName c).1 = String.ofList x.name ∧ (readName c).1 ≠ "" ∧
      readSubscript? (readName c).2 = .ok (x.brackets.map Brackets.value, c') := by
  obtain ⟨d, hd, hb⟩ := Cursor.reads_append_iff.1 hreads
  have hstop : Stops isNameChar d.rest := hb.rest ▸ stops_subscriptText hends
  obtain ⟨hrun, hskip⟩ := Cursor.run_of_reads hd hx.name.isNameChar hstop
  have hname : readName c = (String.ofList x.name, d) := by rw [readName, hrun, hskip]
  rw [hname]
  refine ⟨rfl, hx.name.ofList_ne_empty, ?_⟩
  refine readSubscript?_eq_ok_iff.2 ⟨x.brackets, hx.brackets, hb, fun hnone hopen => ?_, rfl⟩
  unfold subscriptText at hb
  rw [hnone] at hb
  obtain rfl := Cursor.reads_nil_iff.1 hb
  have := hends hnone '[' hopen
  simp at this

/-! ## Simple references -/

/-- The name and the rest that a name reader gives, taken apart. -/
theorem readSimple_eq (c : Cursor) :
    readSimple c =
      if (readName (c.skip 2)).1 = "" then .ok none
      else
        match readSubscript? (readName (c.skip 2)).2 with
        | .error f => .error f
        | .ok (s, e) =>
          if e.peek? = some '}' then
            .ok (some (⟨(readName (c.skip 2)).1, s, true, ⟨c.offset, (e.skip 1).offset⟩⟩, e.skip 1))
          else .ok none := rfl

theorem readSimple_eq_some_iff {c c' : Cursor} {v : VariableRef}
    (hopen : c.Reads ['$', '{'] (c.skip 2)) :
    readSimple c = .ok (some (v, c')) ↔
      ∃ s : Subject, s.Sound ∧ c.Reads (Reference.braced s).text c' ∧
        v = (Reference.braced s).ref c.offset := by
  rw [readSimple_eq]
  constructor
  · intro h
    by_cases hname : (readName (c.skip 2)).1 = ""
    · rw [if_pos hname] at h
      cases h
    rw [if_neg hname] at h
    split at h
    · cases h
    rename_i s d hs
    by_cases hclose : d.peek? = some '}'
    swap
    · rw [if_neg hclose] at h
      cases h
    rw [if_pos hclose] at h
    simp only [Except.ok.injEq, Option.some.injEq, Prod.mk.injEq] at h
    obtain ⟨rfl, rfl⟩ := h
    obtain ⟨x, hx, hreads, -, hx1, rfl⟩ := exists_subject hname hs
    have hall : c.Reads (Reference.braced x).text (d.skip 1) :=
      hopen.trans (hreads.trans (Cursor.reads_peek hclose))
    refine ⟨x, hx, hall, ?_⟩
    rw [Reference.ref, Subject.ref, ← hall.offset, hx1]
  · rintro ⟨x, hx, hall, rfl⟩
    obtain ⟨e, he, hx'⟩ := Cursor.reads_append_iff.1
      (show c.Reads (['$', '{'] ++ (x.text ++ ['}'])) c' from hall)
    obtain rfl := hopen.unique he
    obtain ⟨d, hreads, hclose⟩ := Cursor.reads_append_iff.1 hx'
    have hends : x.Ends d.rest := by
      rw [hclose.rest]
      exact Subject.ends_cons (by decide) (by decide)
    obtain ⟨hname, hne, hs⟩ := Subject.read_eq hx hreads hends
    obtain rfl : d.skip 1 = c' := hclose.skip_eq
    rw [if_neg hne, hs]
    simp only [if_pos hclose.peek]
    rw [hname, Reference.ref, Subject.ref, ← hall.offset]

theorem opensNothing_of_readSimple {c : Cursor} (hopen : c.Reads ['$', '{'] (c.skip 2))
    (h : readSimple c = .ok none) : OpensNothing (c.skip 2).rest := by
  refine ⟨fun x hx rest hrest => ?_, fun name hname rest hrest => ?_⟩
  · -- a subject and a closing brace would be a reference
    obtain ⟨d, hd, -⟩ := Cursor.exists_reads
      (show (c.skip 2).rest = (x.text ++ ['}']) ++ rest by simpa using hrest)
    rw [(readSimple_eq_some_iff hopen).2 ⟨x, hx, hopen.trans hd, rfl⟩] at h
    cases h
  · obtain ⟨d, hd, hdr⟩ := Cursor.exists_reads hrest
    obtain ⟨hrun, hskip⟩ := Cursor.run_of_reads hd hname.isNameChar (by rw [hdr]; simp [isNameChar])
    have hpeek : d.peek? = some '[' := by rw [Cursor.peek?, hdr]; rfl
    have hne : (readName (c.skip 2)).1 ≠ "" := by
      rw [readName, hrun]
      exact hname.ofList_ne_empty
    rw [readSimple_eq, if_neg hne, show (readName (c.skip 2)).2 = d from hskip] at h
    cases hs : readSubscript? d with
    | error f =>
      rw [hs] at h
      cases h
    | ok p =>
      obtain ⟨s, e⟩ := p
      obtain ⟨b, hb, hreads, hnone, -⟩ := readSubscript?_eq_ok_iff.1 hs
      cases b with
      | none => exact absurd hpeek (hnone rfl)
      | some b => exact ⟨b, hb b rfl, e.rest, hdr ▸ hreads.rest⟩

/-- Only a faulty subscript is a fault: where every bracket after a name opens a good one, something
is read or nothing. -/
theorem readSimple_ne_error {c : Cursor} (h : OpensNothing (c.skip 2).rest) (f : Fault) :
    readSimple c ≠ .error f := by
  intro hr
  rw [readSimple_eq] at hr
  by_cases hname : (readName (c.skip 2)).1 = ""
  · rw [if_pos hname] at hr
    cases hr
  rw [if_neg hname] at hr
  cases hs : readSubscript? (readName (c.skip 2)).2 with
  | ok p =>
    obtain ⟨s, e⟩ := p
    rw [hs] at hr
    dsimp only at hr
    split_ifs at hr
  | error g =>
    have hpeek : (readName (c.skip 2)).2.peek? = some '[' := by
      by_contra hno
      rw [readSubscript?, if_neg hno] at hs
      cases hs
    have hrest := Cursor.rest_of_peek hpeek
    have hrun := Cursor.reads_run isNameChar (c.skip 2)
    have hsound : NameSound ((c.skip 2).run isNameChar) :=
      ⟨fun hnil => hname (by rw [readName, hnil]), fun a ha => Cursor.mem_run ha⟩
    obtain ⟨b, hb, rest', hb'⟩ := h.brackets _ hsound _ (hrun.rest.trans (congrArg _ hrest))
    obtain ⟨d, hd, -⟩ := Cursor.exists_reads (hrest.trans hb')
    rw [readSubscript?_eq_ok_iff.2 ⟨some b, by simpa using hb, hd, by simp, rfl⟩] at hs
    cases hs

theorem readSimple_eq_none_iff {c : Cursor} (hopen : c.Reads ['$', '{'] (c.skip 2)) :
    readSimple c = .ok none ↔ OpensNothing (c.skip 2).rest := by
  constructor
  · exact opensNothing_of_readSimple hopen
  · intro h
    cases hr : readSimple c with
    | error f => exact absurd hr (readSimple_ne_error h f)
    | ok o =>
      cases o with
      | none => rfl
      | some p =>
        obtain ⟨v, d⟩ := p
        obtain ⟨x, hx, hall, -⟩ := (readSimple_eq_some_iff hopen).1 hr
        obtain ⟨e, he, hx'⟩ := Cursor.reads_append_iff.1
          (show c.Reads (['$', '{'] ++ (x.text ++ ['}'])) d from hall)
        obtain rfl := hopen.unique he
        exact absurd (by simpa using hx'.rest) (h.not_braced x hx d.rest)

/-! ## References without braces -/

/-- A dollar sign before a name character begins a reference. -/
theorem exists_bare {c : Cursor} {a : Char} (hopen : c.Reads ['$', a] (c.skip 2))
    (ha : isNameChar a) :
    ∃ name, NameSound name ∧ c.Reads (Reference.bare name).text (readBare c).2 ∧
      Stops isNameChar (readBare c).2.rest ∧
      (readBare c).1 = (Reference.bare name).ref c.offset := by
  have hrun := Cursor.reads_run isNameChar (c.skip 1)
  have hall : c.Reads (Reference.bare ((c.skip 1).run isNameChar)).text (readBare c).2 :=
    Cursor.reads_cons_iff.2 ⟨hopen.peek, hrun⟩
  have hne : (c.skip 1).run isNameChar ≠ [] := by
    rw [Cursor.run, Cursor.rest_of_peek hopen.tail.peek, List.takeWhile_cons, if_pos ha]
    exact List.cons_ne_nil _ _
  refine ⟨_, ⟨hne, fun b hb => Cursor.mem_run hb⟩, hall, Cursor.stops_skipWhile _ _, ?_⟩
  rw [Reference.ref, ← hall.offset]
  rfl

theorem readBare_eq {name : List Char} {c c' : Cursor} (hname : NameSound name)
    (hreads : c.Reads (Reference.bare name).text c') (hs : Stops isNameChar c'.rest) :
    readBare c = ((Reference.bare name).ref c.offset, c') := by
  obtain ⟨hrun, hskip⟩ := Cursor.run_of_reads hreads.tail hname.isNameChar hs
  rw [Reference.ref, ← hreads.offset, readBare, readName, hrun, hskip]

/-! ## Characters that end every reference -/

namespace Spelling

/-- A character that stands in no reference in braces. -/
structure Barrier (a : Char) : Prop where
  not_name : isNameChar a = false
  not_mark : a ∉ ['{', '[', ']', '-', ':', '}']

variable {a : Char}

theorem Barrier.not_mem_digits (ha : Barrier a) {ds : List Char} (hds : ∀ d ∈ ds, d.isDigit) :
    a ∉ ds := by
  intro hmem
  have := ha.not_name
  simp [isNameChar, Char.isAlphanum, hds a hmem] at this

theorem Barrier.not_mem_numeral (ha : Barrier a) {n : Numeral} (hn : n.Sound) : a ∉ n.text := by
  have hdigits := ha.not_mem_digits hn.isDigit
  have hmark := ha.not_mark
  unfold Numeral.text
  split_ifs
  · simp_all
  · exact hdigits

theorem Barrier.not_mem_bound (ha : Barrier a) {b : Bound} (hb : b.Sound) : a ∉ b.text := by
  cases b with
  | none => simp [Bound.text]
  | some n => exact ha.not_mem_numeral (hb n rfl)

theorem Barrier.not_mem_brackets (ha : Barrier a) {b : Brackets} (hb : b.Sound) : a ∉ b.text := by
  have hmark := ha.not_mark
  cases b with
  | index n =>
    have := ha.not_mem_numeral hb
    simp_all [Brackets.text]
  | range start stop =>
    have h₁ := ha.not_mem_bound hb.1
    have h₂ := ha.not_mem_bound hb.2
    simp_all [Brackets.text]

theorem Barrier.not_mem_name (ha : Barrier a) {name : List Char} (hname : NameSound name) :
    a ∉ name := by
  intro hmem
  exact absurd (hname.isNameChar a hmem) (by simp [ha.not_name])

theorem Barrier.not_mem_subject (ha : Barrier a) {s : Subject} (hs : s.Sound) : a ∉ s.text := by
  have hname := ha.not_mem_name hs.name
  unfold Subject.text Subject.subscriptText
  cases hb : s.brackets with
  | none => simpa using hname
  | some b =>
    have := ha.not_mem_brackets (hs.brackets b hb)
    simp_all

/-- A text that a barrier does not stand in ends before the barrier. -/
theorem append_of_not_mem {u r w t : List Char} (h : u ++ a :: r = w ++ t) (ha : a ∉ w) :
    ∃ v, u = w ++ v ∧ t = v ++ a :: r := by
  rcases List.append_eq_append_iff.1 h with ⟨v, hw, ht⟩ | ⟨v, hu, ht⟩
  · cases v with
    | nil => exact ⟨[], by simpa using hw.symm, by simpa using ht.symm⟩
    | cons b v =>
      have hb : a = b := List.head_eq_of_cons_eq ht
      exact absurd (by simp [hw, hb]) ha
  · exact ⟨v, hu, ht⟩

/-- What follows a barrier does not matter to a brace before it. -/
theorem opensNothing_barrier (ha : Barrier a) (u r : List Char) :
    OpensNothing (u ++ a :: r) ↔ OpensNothing (u ++ [a]) := by
  constructor
  · intro h
    refine ⟨fun s hs rest he => ?_, fun name hname rest he => ?_⟩
    · refine h.not_braced s hs (rest ++ r) ?_
      have := congrArg (· ++ r) he
      simpa using this
    · obtain ⟨b, hb, rest', hb'⟩ := h.brackets name hname (rest ++ r) (by
        have := congrArg (· ++ r) he
        simpa using this)
      -- the bracket stands before the barrier, and so does the subscript
      obtain ⟨v, -, hv⟩ := append_of_not_mem
        (show u ++ [a] = (name ++ ['[']) ++ rest by simpa using he)
        (by have := ha.not_mem_name hname; have := ha.not_mark; simp_all)
      subst hv
      obtain ⟨v', hv', -⟩ := append_of_not_mem
        (show ('[' :: v) ++ a :: r = b.text ++ rest' by simpa using hb') (ha.not_mem_brackets hb)
      refine ⟨b, hb, v' ++ [a], ?_⟩
      have := congrArg (· ++ [a]) hv'
      simpa using this
  · intro h
    refine ⟨fun s hs rest he => ?_, fun name hname rest he => ?_⟩
    · obtain ⟨v, hv, -⟩ := append_of_not_mem
        (show u ++ a :: r = (s.text ++ ['}']) ++ rest by simpa using he)
        (by have := ha.not_mem_subject hs; have := ha.not_mark; simp_all)
      exact h.not_braced s hs (v ++ [a]) (by simp [hv])
    · obtain ⟨v, hv, rfl⟩ := append_of_not_mem
        (show u ++ a :: r = (name ++ ['[']) ++ rest by simpa using he)
        (by have := ha.not_mem_name hname; have := ha.not_mark; simp_all)
      obtain ⟨b, hb, rest', hb'⟩ := h.brackets name hname (v ++ [a]) (by simp [hv])
      refine ⟨b, hb, rest' ++ r, ?_⟩
      have := congrArg (· ++ r) hb'
      simpa using this

end Spelling

end Stencil
