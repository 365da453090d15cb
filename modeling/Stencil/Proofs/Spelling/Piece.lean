import Stencil.Template.Compile
import Stencil.Proofs.Spelling.Writing

/-!
# How running text is written

The top level, quoted strings and replacements write their pieces in one way, `Piece`, and differ
in a `Discipline`: what a backslash escapes, which character closes the text, which tokens stand in
it, and where a lone dollar sign is a dollar sign. A reader that keeps to a discipline reads its
writing (`Discipline.KeptBy.readBy`). The two inner disciplines are settled here
(`quoted_readBy`, `replacement_readBy`), and what follows the closing character never matters to
them (`fit_inQuotes_iff`, `fit_inReplacement_iff`).
-/

namespace Stencil

/-! ## Pieces of running text -/

namespace Spelling

/-- A character of running text as it is written: after a backslash, as a doubled dollar sign, or as
itself. -/
inductive Glyph
  | escaped (c : Char)
  | dollars
  | plain (c : Char)
  deriving DecidableEq, Repr

namespace Glyph

def text : Glyph → List Char
  | escaped c => ['\\', c]
  | dollars => ['$', '$']
  | plain c => [c]

/-- The character that is written. -/
def char : Glyph → Char
  | escaped c => c
  | dollars => '$'
  | plain c => c

end Glyph

/-- A piece of running text, where tokens of the type `τ` may stand. -/
inductive Piece (τ : Type)
  | glyph (g : Glyph)
  | token (t : τ)
  deriving DecidableEq, Repr

/-- How running text is written: which characters a backslash escapes, which character closes the
text, what the tokens are, and before which texts a lone dollar sign is a dollar sign. -/
structure Discipline (τ : Type) where
  escapes : Char → Bool
  close : Option Char
  tokenText : τ → List Char
  TokenFits : τ → List Char → Prop
  DollarFits : List Char → Prop

/-- Whether a character may be written in this way before a text. -/
def Glyph.Fits {τ : Type} (D : Discipline τ) : Glyph → List Char → Prop
  | escaped c, _ => D.escapes c
  | dollars, _ => True
  | plain c, rest =>
    some c ≠ D.close ∧ (c = '\\' → Stops D.escapes rest) ∧ (c = '$' → D.DollarFits rest)

namespace Piece

variable {τ : Type} (D : Discipline τ)

def text : Piece τ → List Char
  | glyph g => g.text
  | token t => D.tokenText t

/-- Whether the piece may stand before a text. -/
def Fits : Piece τ → List Char → Prop
  | glyph g, rest => g.Fits D rest
  | token t, rest => D.TokenFits t rest

/-- The character that a piece stands for, or the token, given by what each of them becomes. -/
def value {α : Type} (char : Char → Span → α) (ofToken : Nat → τ → α) (o : Nat) : Piece τ → α
  | glyph g => char g.char ⟨o, o + byteWidth g.text⟩
  | token t => ofToken o t

end Piece

/-- Running text that is written by a discipline. -/
def Discipline.writing {τ α : Type} (D : Discipline τ) (char : Char → Span → α)
    (ofToken : Nat → τ → α) : Writing (Piece τ) α where
  text := Piece.text D
  Fits := Piece.Fits D
  value := Piece.value char ofToken

/-- A lone dollar sign in a string or a replacement stands before no second one, no name and no
simple reference in braces. -/
structure NestedDollar (rest : List Char) : Prop where
  stops : Stops (fun c => c == '$' || isNameChar c) rest
  opensNothing : ∀ cs, rest = '{' :: cs → OpensNothing cs

/-- What stands in a replacement beside text: a group of the match, or a reference. -/
inductive Filling
  | group (d : Char)
  | ref (r : Reference)
  deriving DecidableEq, Repr

namespace Filling

def text : Filling → List Char
  | group d => ['$', d]
  | ref r => r.text

/-- A digit after the dollar sign is a group, so that no name without braces begins with one. -/
def Sound : Filling → Prop
  | group d => d.isDigit
  | ref r => r.Sound ∧ ∀ name, r = .bare name → Stops Char.isDigit name

def Ends : Filling → List Char → Prop
  | group _, _ => True
  | ref r, rest => r.Ends rest

def filler (o : Nat) : Filling → Filler
  | group d => .group (d.toNat - '0'.toNat)
  | ref r => .variable (r.ref o)

end Filling

/-- How a quoted string is written. -/
def inQuotes : Discipline Reference where
  escapes c := c == '"' || c == '$' || c == '\\'
  close := some '"'
  tokenText := Reference.text
  TokenFits r rest := r.Sound ∧ r.Ends rest
  DollarFits := NestedDollar

/-- How a replacement is written before the delimiter `d`. -/
def inReplacement (d : Char) : Discipline Filling where
  escapes c := c == d || c == '$' || c == '\\'
  close := some d
  tokenText := Filling.text
  TokenFits f rest := f.Sound ∧ f.Ends rest
  DollarFits := NestedDollar

/-- The pieces of a quoted string. -/
def quotedWriting : Writing (Piece Reference) (Char ⊕ VariableRef) :=
  inQuotes.writing (fun c _ => .inl c) fun o r => .inr (r.ref o)

/-- The pieces of a replacement. -/
def replacementWriting (d : Char) : Writing (Piece Filling) (Char ⊕ Filler) :=
  (inReplacement d).writing (fun c _ => .inl c) fun o f => .inr (f.filler o)

end Spelling

open Spelling

theorem Spelling.Reference.exists_text (r : Reference) : ∃ w, r.text = '$' :: w := by
  cases r with
  | bare name => exact ⟨name, rfl⟩
  | braced s => exact ⟨_, rfl⟩

/-! ## Nested references -/

section Nested

variable {α : Type} (ofRef : VariableRef → α) {c c' : Cursor}

theorem readNested_dollar (h : (c.skip 1).peek? = some '$') :
    readNested ofRef c = .ok (.inl '$', c.skip 2) := by
  rw [readNested, h]
  rfl

theorem readNested_brace (h : (c.skip 1).peek? = some '{') :
    readNested ofRef c =
      match readSimple c with
      | .error f => .error f
      | .ok (some (v, d)) => .ok (.inr (ofRef v), d)
      | .ok none => .ok (.inl '$', c.skip 1) := by
  rw [readNested, h]
  rfl

theorem readNested_name {a : Char} (h : (c.skip 1).peek? = some a) (ha : isNameChar a) :
    readNested ofRef c = .ok (.inr (ofRef (readBare c).1), (readBare c).2) := by
  rw [readNested, h]
  split
  · rename_i heq
    cases heq
    exact absurd ha (by decide)
  · rename_i heq
    cases heq
    exact absurd ha (by decide)
  · rename_i heq
    cases heq
    rw [if_pos ha]
  · rename_i heq
    cases heq

theorem readNested_other
    (h : Stops (fun a => a == '$' || a == '{' || isNameChar a) (c.skip 1).rest) :
    readNested ofRef c = .ok (.inl '$', c.skip 1) := by
  unfold readNested
  split
  · rename_i hpeek
    rw [Cursor.rest_of_peek hpeek, stops_cons] at h
    simp at h
  · rename_i hpeek
    rw [Cursor.rest_of_peek hpeek, stops_cons] at h
    simp at h
  · rename_i a _ _ hpeek
    rw [Cursor.rest_of_peek hpeek, stops_cons] at h
    simp only [Bool.or_eq_false_iff] at h
    rw [if_neg (by simp [h.2])]
  · rfl

/-- A lone dollar sign is read as itself. -/
theorem readNested_lone (hopen : c.peek? = some '$') (h : NestedDollar (c.skip 1).rest) :
    readNested ofRef c = .ok (.inl '$', c.skip 1) := by
  cases hpeek : (c.skip 1).peek? with
  | none =>
    have hnil : (c.skip 1).rest = [] := List.head?_eq_none_iff.1 hpeek
    exact readNested_other ofRef (by rw [hnil]; exact stops_nil _)
  | some a =>
    have hrest := Cursor.rest_of_peek hpeek
    by_cases hbrace : a = '{'
    · subst hbrace
      have htwo : c.Reads ['$', '{'] (c.skip 2) :=
        Cursor.skip_skip_one c ▸ (Cursor.reads_peek hopen).trans (Cursor.reads_peek hpeek)
      have hnone := h.opensNothing _ hrest
      rw [Cursor.skip_skip_one] at hnone
      rw [readNested_brace ofRef hpeek, (readSimple_eq_none_iff htwo).2 hnone]
    · have hstops := h.stops
      refine readNested_other ofRef ?_
      rw [hrest, stops_cons] at hstops ⊢
      simp_all

theorem Spelling.Reference.readNested_eq {r : Reference} (hr : r.Sound) (hends : r.Ends c'.rest)
    (hreads : c.Reads r.text c') :
    readNested ofRef c = .ok (.inr (ofRef (r.ref c.offset)), c') := by
  cases r with
  | bare name =>
    obtain ⟨a, w, hw⟩ := List.exists_cons_of_ne_nil hr.ne_nil
    have hpeek : (c.skip 1).peek? = some a := by
      have htail := hreads.tail
      rw [hw] at htail
      exact htail.peek
    rw [readNested_name ofRef hpeek (hr.isNameChar a (by simp [hw])), readBare_eq hr hreads hends]
  | braced s =>
    have htwo : c.Reads ['$', '{'] (c.skip 2) :=
      Cursor.skip_skip_one c ▸
        (Cursor.reads_peek hreads.peek).trans (Cursor.reads_peek hreads.tail.peek)
    rw [readNested_brace ofRef hreads.tail.peek,
      (readSimple_eq_some_iff htwo).2 ⟨s, hr, hreads, rfl⟩]

theorem readNested_sound {p : Char ⊕ α} (hopen : c.peek? = some '$')
    (h : readNested ofRef c = .ok (p, c')) :
    (c.Reads ['$', '$'] c' ∧ p = .inl '$') ∨
      (c.Reads ['$'] c' ∧ NestedDollar c'.rest ∧ p = .inl '$') ∨
      ∃ r : Reference, r.Sound ∧ r.Ends c'.rest ∧ c.Reads r.text c' ∧
        p = .inr (ofRef (r.ref c.offset)) := by
  have hone := Cursor.reads_peek hopen
  cases hpeek : (c.skip 1).peek? with
  | none =>
    have hnil : (c.skip 1).rest = [] := List.head?_eq_none_iff.1 hpeek
    rw [readNested_other ofRef (by rw [hnil]; exact stops_nil _)] at h
    cases h
    refine Or.inr (Or.inl ⟨hone, ?_, rfl⟩)
    rw [hnil]
    exact ⟨stops_nil _, by simp⟩
  | some a =>
    have hrest := Cursor.rest_of_peek hpeek
    have htwo : c.Reads ['$', a] (c.skip 2) :=
      Cursor.skip_skip_one c ▸ hone.trans (Cursor.reads_peek hpeek)
    by_cases hdollar : a = '$'
    · subst hdollar
      rw [readNested_dollar ofRef hpeek] at h
      cases h
      exact Or.inl ⟨htwo, rfl⟩
    by_cases hbrace : a = '{'
    · subst hbrace
      rw [readNested_brace ofRef hpeek] at h
      split at h
      · cases h
      · rename_i v d hsome
        cases h
        obtain ⟨s, hs, hreads, rfl⟩ := (readSimple_eq_some_iff htwo).1 hsome
        exact Or.inr (Or.inr ⟨.braced s, hs, trivial, hreads, rfl⟩)
      · rename_i hs
        cases h
        refine Or.inr (Or.inl ⟨hone, ⟨?_, ?_⟩, rfl⟩)
        · rw [hrest, stops_cons]
          decide
        · intro cs hcs
          have hnone := (readSimple_eq_none_iff htwo).1 hs
          rw [← Cursor.skip_skip_one] at hnone
          rw [hrest] at hcs
          exact List.tail_eq_of_cons_eq hcs ▸ hnone
    by_cases hname : isNameChar a
    · rw [readNested_name ofRef hpeek hname] at h
      cases h
      obtain ⟨name, hn, hreads, hstops, hv⟩ := exists_bare htwo hname
      exact Or.inr (Or.inr ⟨.bare name, hn, hstops, hreads, by rw [hv]⟩)
    · rw [readNested_other ofRef (by rw [hrest, stops_cons]; simp [*])] at h
      cases h
      refine Or.inr (Or.inl ⟨hone, ⟨?_, ?_⟩, rfl⟩)
      · rw [hrest, stops_cons]
        simp [*]
      · intro cs hcs
        rw [hrest] at hcs
        exact absurd (List.head_eq_of_cons_eq hcs) hbrace

/-- What a reader of nested references reads at a dollar sign. -/
theorem readNested_eq_ok_iff {p : Char ⊕ α} (hopen : c.peek? = some '$') :
    readNested ofRef c = .ok (p, c') ↔
      (c.Reads ['$', '$'] c' ∧ p = .inl '$') ∨
      (c.Reads ['$'] c' ∧ NestedDollar c'.rest ∧ p = .inl '$') ∨
      ∃ r : Reference, r.Sound ∧ r.Ends c'.rest ∧ c.Reads r.text c' ∧
        p = .inr (ofRef (r.ref c.offset)) := by
  constructor
  · exact readNested_sound ofRef hopen
  · rintro (⟨hreads, rfl⟩ | ⟨hreads, hdollar, rfl⟩ | ⟨r, hr, hends, hreads, rfl⟩)
    · obtain rfl := hreads.skip_eq
      exact readNested_dollar ofRef hreads.tail.peek
    · obtain rfl : c.skip 1 = c' := hreads.skip_eq
      exact readNested_lone ofRef hopen hdollar
    · exact r.readNested_eq ofRef hr hends hreads

end Nested

/-! ## Disciplines and their readers -/

namespace Spelling.Discipline

variable {τ α : Type}

/-- A reader of one step that keeps to a discipline. -/
structure KeptBy (D : Discipline τ) (char : Char → Span → α) (ofToken : Nat → τ → α)
    (s : Step α) : Prop where
  escaped : ∀ {c : Cursor} {a : Char}, c.Reads ['\\', a] (c.skip 2) → D.escapes a →
    s.read c = .ok (char a ⟨c.offset, (c.skip 2).offset⟩, c.skip 2)
  backslash : ∀ {c : Cursor}, c.peek? = some '\\' → Stops D.escapes (c.skip 1).rest →
    s.read c = .ok (char '\\' ⟨c.offset, (c.skip 1).offset⟩, c.skip 1)
  dollar : ∀ {c c' : Cursor} {a : α}, c.peek? = some '$' →
    (s.read c = .ok (a, c') ↔
      (c.Reads ['$', '$'] c' ∧ a = char '$' ⟨c.offset, c'.offset⟩) ∨
      (c.Reads ['$'] c' ∧ D.DollarFits c'.rest ∧ a = char '$' ⟨c.offset, c'.offset⟩) ∨
      ∃ t, D.TokenFits t c'.rest ∧ c.Reads (D.tokenText t) c' ∧ a = ofToken c.offset t)
  other : ∀ {c : Cursor} {a : Char}, c.peek? = some a → a ≠ '\\' → a ≠ '$' →
    s.read c = .ok (char a ⟨c.offset, (c.skip 1).offset⟩, c.skip 1)
  token_opens : ∀ {t : τ} {rest : List Char}, D.TokenFits t rest → ∃ w, D.tokenText t = '$' :: w
  close_ne : D.close ≠ some '\\' ∧ D.close ≠ some '$'

variable {D : Discipline τ} {char : Char → Span → α} {ofToken : Nat → τ → α} {s : Step α}

theorem KeptBy.read_sound (h : D.KeptBy char ofToken s) {c c' : Cursor} {b : Char} {a : α}
    (hpeek : c.peek? = some b) (hclose : some b ≠ D.close) (hread : s.read c = .ok (a, c')) :
    ∃ p : Piece τ, p.Fits D c'.rest ∧ c.Reads (p.text D) c' ∧
      a = p.value char ofToken c.offset := by
  have hone := Cursor.reads_peek hpeek
  by_cases hb : b = '\\'
  · subst hb
    by_cases hstops : Stops D.escapes (c.skip 1).rest
    · rw [h.backslash hpeek hstops] at hread
      cases hread
      refine ⟨.glyph (.plain '\\'), ⟨hclose, fun _ => hstops, by simp⟩, hone, ?_⟩
      rw [hone.offset]
      rfl
    · obtain ⟨d, hd, he⟩ := exists_of_not_stops hstops
      have htwo : c.Reads ['\\', d] (c.skip 2) :=
        Cursor.skip_skip_one c ▸ hone.trans (Cursor.reads_peek hd)
      rw [h.escaped htwo he] at hread
      cases hread
      refine ⟨.glyph (.escaped d), he, htwo, ?_⟩
      rw [htwo.offset]
      rfl
  by_cases hb' : b = '$'
  · subst hb'
    rcases (h.dollar hpeek).1 hread with ⟨hreads, rfl⟩ | ⟨hreads, hd, rfl⟩ | ⟨t, ht, hreads, rfl⟩
    · refine ⟨.glyph .dollars, trivial, hreads, ?_⟩
      rw [hreads.offset]
      rfl
    · refine ⟨.glyph (.plain '$'), ⟨hclose, by simp, fun _ => hd⟩, hreads, ?_⟩
      rw [hreads.offset]
      rfl
    · exact ⟨.token t, ht, hreads, rfl⟩
  · rw [h.other hpeek hb hb'] at hread
    cases hread
    refine ⟨.glyph (.plain b), ⟨hclose, fun e => absurd e hb, fun e => absurd e hb'⟩, hone, ?_⟩
    rw [hone.offset]
    rfl

theorem KeptBy.read_glyph (h : D.KeptBy char ofToken s) {g : Glyph} {c c' : Cursor}
    (hg : g.Fits D c'.rest) (hreads : c.Reads g.text c') :
    s.read c = .ok (char g.char ⟨c.offset, c'.offset⟩, c') := by
  cases g with
  | escaped d =>
    obtain rfl : c.skip 2 = c' := hreads.skip_eq
    exact h.escaped hreads hg
  | dollars => exact (h.dollar hreads.peek).2 (Or.inl ⟨hreads, rfl⟩)
  | plain d =>
    obtain ⟨-, hback, hdollar⟩ := hg
    obtain rfl : c.skip 1 = c' := hreads.skip_eq
    by_cases hd : d = '\\'
    · subst hd
      exact h.backslash hreads.peek (hback rfl)
    by_cases hd' : d = '$'
    · subst hd'
      exact (h.dollar hreads.peek).2 (Or.inr (Or.inl ⟨hreads, hdollar rfl, rfl⟩))
    · exact h.other hreads.peek hd hd'

/-- A reader that keeps to a discipline reads its writing. -/
theorem KeptBy.readBy (h : D.KeptBy char ofToken s) :
    (D.writing char ofToken).ReadBy s D.close where
  read_iff := by
    intro c c' b a hpeek hclose
    constructor
    · exact h.read_sound hpeek hclose
    · rintro ⟨p, hp, hreads, rfl⟩
      cases p with
      | glyph g =>
        rw [h.read_glyph hp hreads, hreads.offset]
        rfl
      | token t =>
        obtain ⟨w, hw⟩ := h.token_opens hp
        have hreads' : c.Reads ('$' :: w) c' := hw ▸ hreads
        exact (h.dollar hreads'.peek).2 (Or.inr (Or.inr ⟨t, hp, hreads, rfl⟩))
  opens := by
    intro p rest hp
    cases p with
    | glyph g =>
      cases g with
      | escaped d => exact ⟨'\\', [d], rfl, h.close_ne.1.symm⟩
      | dollars => exact ⟨'$', ['$'], rfl, h.close_ne.2.symm⟩
      | plain d => exact ⟨d, [], rfl, hp.1⟩
    | token t =>
      obtain ⟨w, hw⟩ := h.token_opens hp
      exact ⟨'$', w, hw, h.close_ne.2.symm⟩

end Spelling.Discipline

/-! ## Quoted strings and replacements -/

theorem readQuotedPiece_eq_nested {c : Cursor} (h : c.peek? = some '$') :
    readQuotedPiece c = readNested id c := by
  rw [readQuotedPiece, Cursor.rest_of_peek h]
  rfl

theorem readQuotedPiece_other {c : Cursor} {a : Char} (h : c.peek? = some a) (ha : a ≠ '\\')
    (ha' : a ≠ '$') : readQuotedPiece c = .ok (.inl a, c.skip 1) := by
  obtain ⟨r, hrest⟩ : ∃ r, c.rest = a :: r := ⟨_, Cursor.rest_of_peek h⟩
  unfold readQuotedPiece
  split <;> rename_i heq <;> rw [hrest] at heq <;> cases heq
  · exact absurd rfl ha
  · exact absurd rfl ha'
  · rfl

/-- The reader of quoted pieces keeps to the discipline of quoted strings. -/
theorem quotedPiece_keptBy :
    inQuotes.KeptBy (fun c _ => .inl c) (fun o r => .inr (r.ref o)) quotedPiece where
  escaped := by
    intro c a hreads ha
    have hrest : c.rest = '\\' :: a :: (c.skip 2).rest := hreads.rest
    have ha' : a = '"' ∨ a = '$' ∨ a = '\\' := by simpa [inQuotes, or_assoc] using ha
    show readQuotedPiece c = _
    rw [readQuotedPiece, hrest]
    exact if_pos ha'
  backslash := by
    intro c hpeek hstops
    have hrest := Cursor.rest_of_peek hpeek
    show readQuotedPiece c = _
    unfold readQuotedPiece
    split <;> rename_i heq <;> rw [hrest] at heq
    · rename_i a r
      rw [List.tail_eq_of_cons_eq heq, stops_cons] at hstops
      have ha : ¬ (a = '"' ∨ a = '$' ∨ a = '\\') := by
        simpa [inQuotes, or_assoc, and_assoc] using hstops
      exact if_neg ha
    · cases heq
    · cases heq
      rfl
    · cases heq
  dollar := by
    intro c c' a hpeek
    show readQuotedPiece c = _ ↔ _
    rw [readQuotedPiece_eq_nested hpeek, readNested_eq_ok_iff id hpeek]
    simp only [inQuotes, and_assoc, id]
  other := by
    intro c a hpeek ha ha'
    exact readQuotedPiece_other hpeek ha ha'
  token_opens := by
    intro r rest _
    exact r.exists_text
  close_ne := by decide

theorem readReplacementPiece_eq_nested {d : Char} {c : Cursor} (h : c.peek? = some '$')
    (hs : Stops Char.isDigit (c.skip 1).rest) :
    readReplacementPiece d c = readNested .variable c := by
  have hrest := Cursor.rest_of_peek h
  unfold readReplacementPiece
  split <;> rename_i heq <;> rw [hrest] at heq
  · cases heq
  · rename_i a r
    rw [List.tail_eq_of_cons_eq heq, stops_cons] at hs
    exact if_neg (by simp [hs])
  · rename_i a r _ hno
    cases heq
    have hnil : (c.skip 1).rest = [] := by
      cases hr : (c.skip 1).rest with
      | nil => rfl
      | cons b bs => exact (hno b bs rfl hr).elim
    rw [readNested_other _ (by rw [hnil]; exact stops_nil _)]
  · cases heq

theorem readReplacementPiece_group {d a : Char} {c : Cursor} (h : c.Reads ['$', a] (c.skip 2))
    (ha : a.isDigit) :
    readReplacementPiece d c = .ok (.inr (.group (a.toNat - '0'.toNat)), c.skip 2) := by
  have hrest : c.rest = '$' :: a :: (c.skip 2).rest := h.rest
  rw [readReplacementPiece, hrest]
  exact if_pos ha

theorem readReplacementPiece_other {d : Char} {c : Cursor} {a : Char} (h : c.peek? = some a)
    (ha : a ≠ '\\') (ha' : a ≠ '$') : readReplacementPiece d c = .ok (.inl a, c.skip 1) := by
  obtain ⟨r, hrest⟩ : ∃ r, c.rest = a :: r := ⟨_, Cursor.rest_of_peek h⟩
  unfold readReplacementPiece
  split <;> rename_i heq <;> rw [hrest] at heq <;> cases heq
  · exact absurd rfl ha
  · exact absurd rfl ha'
  · rfl

/-- After a dollar sign and a digit only the group of the digit is sound. -/
theorem Spelling.Filling.eq_group {f : Filling} {a : Char} {c c' : Cursor} (hf : f.Sound)
    (hreads : c.Reads f.text c') (hpeek : (c.skip 1).peek? = some a) (ha : a.isDigit) :
    f = .group a := by
  have hclash : ∀ {b : Char} {w : List Char}, c.Reads ('$' :: b :: w) c' → b = a := by
    intro b w hreads
    exact Option.some.inj (hreads.tail.peek.symm.trans hpeek)
  cases f with
  | group b => rw [hclash hreads]
  | ref r =>
    cases r with
    | bare name =>
      obtain ⟨b, w, hw⟩ := List.exists_cons_of_ne_nil hf.1.ne_nil
      have hb := hf.2 name rfl b (by rw [hw]; rfl)
      have hreads' : c.Reads ('$' :: b :: w) c' := hw ▸ hreads
      rw [hclash hreads', ha] at hb
      cases hb
    | braced s =>
      rw [← hclash (show c.Reads ('$' :: '{' :: _) c' from hreads)] at ha
      exact absurd ha (by decide)

/-- What a reader of replacements reads at a dollar sign. -/
theorem readReplacementPiece_dollar {d : Char} {c c' : Cursor} {p : Char ⊕ Filler}
    (h : c.peek? = some '$') :
    readReplacementPiece d c = .ok (p, c') ↔
      (c.Reads ['$', '$'] c' ∧ p = .inl '$') ∨
      (c.Reads ['$'] c' ∧ NestedDollar c'.rest ∧ p = .inl '$') ∨
      ∃ f : Filling, (f.Sound ∧ f.Ends c'.rest) ∧ c.Reads f.text c' ∧
        p = .inr (f.filler c.offset) := by
  by_cases hs : Stops Char.isDigit (c.skip 1).rest
  · rw [readReplacementPiece_eq_nested h hs, readNested_eq_ok_iff _ h]
    refine or_congr Iff.rfl (or_congr Iff.rfl ⟨?_, ?_⟩)
    · rintro ⟨r, hr, hends, hreads, rfl⟩
      refine ⟨.ref r, ⟨⟨hr, ?_⟩, hends⟩, hreads, rfl⟩
      rintro name rfl
      have htail := hreads.tail.rest
      intro a ha
      refine hs a ?_
      rw [htail]
      cases name with
      | nil => simp at ha
      | cons b bs => simpa using ha
    · rintro ⟨f, ⟨hf, hends⟩, hreads, rfl⟩
      cases f with
      | group a =>
        have ha := hs a hreads.tail.peek
        rw [show a.isDigit = true from hf] at ha
        cases ha
      | ref r => exact ⟨r, hf.1, hends, hreads, rfl⟩
  · obtain ⟨a, hpeek, ha⟩ := exists_of_not_stops hs
    have htwo : c.Reads ['$', a] (c.skip 2) :=
      Cursor.skip_skip_one c ▸ (Cursor.reads_peek h).trans (Cursor.reads_peek hpeek)
    rw [readReplacementPiece_group htwo ha]
    constructor
    · intro heq
      cases heq
      exact Or.inr (Or.inr ⟨.group a, ⟨ha, trivial⟩, htwo, rfl⟩)
    · rintro (⟨hreads, -⟩ | ⟨hreads, hd, -⟩ | ⟨f, ⟨hf, -⟩, hreads, rfl⟩)
      · obtain rfl : '$' = a := Option.some.inj (hreads.tail.peek.symm.trans hpeek)
        exact absurd ha (by decide)
      · obtain rfl : c.skip 1 = c' := hreads.skip_eq
        have hstop := hd.stops a hpeek
        simp [isNameChar, Char.isAlphanum, ha] at hstop
      · obtain rfl := Filling.eq_group hf hreads hpeek ha
        rw [htwo.unique hreads]
        rfl

/-- The reader of replacement pieces keeps to the discipline of replacements. -/
theorem replacementPiece_keptBy {d : Char} (hd : d ≠ '\\' ∧ d ≠ '$') :
    (inReplacement d).KeptBy (fun c _ => .inl c) (fun o f => .inr (f.filler o))
      (replacementPiece d) where
  escaped := by
    intro c a hreads ha
    have hrest : c.rest = '\\' :: a :: (c.skip 2).rest := hreads.rest
    have ha' : a = d ∨ a = '$' ∨ a = '\\' := by simpa [inReplacement, or_assoc] using ha
    show readReplacementPiece d c = _
    rw [readReplacementPiece, hrest]
    exact if_pos ha'
  backslash := by
    intro c hpeek hstops
    have hrest := Cursor.rest_of_peek hpeek
    show readReplacementPiece d c = _
    unfold readReplacementPiece
    split <;> rename_i heq <;> rw [hrest] at heq
    · rename_i a r
      rw [List.tail_eq_of_cons_eq heq, stops_cons] at hstops
      have ha : ¬ (a = d ∨ a = '$' ∨ a = '\\') := by
        simpa [inReplacement, or_assoc, and_assoc] using hstops
      exact if_neg ha
    · cases heq
    · cases heq
      rfl
    · cases heq
  dollar := by
    intro c c' a hpeek
    exact readReplacementPiece_dollar hpeek
  other := by
    intro c a hpeek ha ha'
    exact readReplacementPiece_other hpeek ha ha'
  token_opens := by
    intro f rest _
    cases f with
    | group a => exact ⟨[a], rfl⟩
    | ref r => exact r.exists_text
  close_ne := by
    simpa [inReplacement] using hd

theorem quoted_readBy : quotedWriting.ReadBy quotedPiece (some '"') :=
  quotedPiece_keptBy.readBy

theorem replacement_readBy (d : Delimiter) :
    (replacementWriting d.toChar).ReadBy (replacementPiece d.toChar) (some d.toChar) :=
  (replacementPiece_keptBy (by cases d <;> decide)).readBy

/-! ## What follows the closing character -/

namespace Spelling

variable {a : Char}

theorem stops_append_cons {p : Char → Bool} (u r : List Char) :
    Stops p (u ++ a :: r) ↔ Stops p (u ++ [a]) := by
  cases u <;> simp

theorem nestedDollar_barrier (ha : Barrier a) (u r : List Char) :
    NestedDollar (u ++ a :: r) ↔ NestedDollar (u ++ [a]) := by
  have hopens : (∀ cs, u ++ a :: r = '{' :: cs → OpensNothing cs) ↔
      ∀ cs, u ++ [a] = '{' :: cs → OpensNothing cs := by
    cases u with
    | nil =>
      have hbrace : a ≠ '{' := by
        rintro rfl
        exact ha.not_mark (by simp)
      simp [hbrace]
    | cons b u =>
      simp only [List.cons_append, List.cons.injEq, and_imp]
      constructor
      · rintro h cs hb rfl
        exact (opensNothing_barrier ha u r).1 (h _ hb rfl)
      · rintro h cs hb rfl
        exact (opensNothing_barrier ha u r).2 (h _ hb rfl)
  constructor
  · rintro ⟨hstops, h⟩
    exact ⟨(stops_append_cons u r).1 hstops, hopens.1 h⟩
  · rintro ⟨hstops, h⟩
    exact ⟨(stops_append_cons u r).2 hstops, hopens.2 h⟩

theorem Reference.ends_barrier (ref : Reference) (u r : List Char) :
    ref.Ends (u ++ a :: r) ↔ ref.Ends (u ++ [a]) := by
  cases ref with
  | bare name => exact stops_append_cons u r
  | braced s => exact Iff.rfl

/-- The laws of a discipline whose closing character shuts out what follows. -/
theorem Discipline.fit_barrier {τ α : Type} {D : Discipline τ} {char : Char → Span → α}
    {ofToken : Nat → τ → α} (hdollar : ∀ u r, D.DollarFits (u ++ a :: r) ↔ D.DollarFits (u ++ [a]))
    (htoken : ∀ t u r, D.TokenFits t (u ++ a :: r) ↔ D.TokenFits t (u ++ [a]))
    (ps : List (Piece τ)) (r : List Char) :
    (D.writing char ofToken).Fit ps (a :: r) ↔ (D.writing char ofToken).Fit ps [a] := by
  induction ps with
  | nil => exact Iff.rfl
  | cons p ps ih =>
    refine and_congr ?_ ih
    cases p with
    | glyph g =>
      cases g with
      | escaped c => exact Iff.rfl
      | dollars => exact Iff.rfl
      | plain c =>
        exact and_congr Iff.rfl
          (and_congr (imp_congr Iff.rfl (stops_append_cons _ _)) (imp_congr Iff.rfl (hdollar _ _)))
    | token t => exact htoken t _ _

/-- The tokens of pieces that fit may stand somewhere. -/
theorem Discipline.tokenFits_of_fit {τ α : Type} {D : Discipline τ}
    {char : Char → Span → α} {ofToken : Nat → τ → α} {t : τ} {ps : List (Piece τ)}
    {rest : List Char} (h : (D.writing char ofToken).Fit ps rest) (ht : .token t ∈ ps) :
    ∃ rest', D.TokenFits t rest' := by
  induction ps with
  | nil => cases ht
  | cons p ps ih =>
    rcases List.mem_cons.1 ht with rfl | ht
    · exact ⟨_, h.1⟩
    · exact ih h.2 ht

theorem fit_inQuotes_iff (ps : List (Piece Reference)) (r : List Char) :
    quotedWriting.Fit ps ('"' :: r) ↔ quotedWriting.Fit ps ['"'] := by
  have hbarrier : Barrier '"' := ⟨by decide, by decide⟩
  exact Discipline.fit_barrier (nestedDollar_barrier hbarrier)
    (fun t u r => and_congr Iff.rfl (t.ends_barrier u r)) ps r

theorem fit_inReplacement_iff (d : Delimiter) (ps : List (Piece Filling)) (r : List Char) :
    (replacementWriting d.toChar).Fit ps (d.toChar :: r) ↔
      (replacementWriting d.toChar).Fit ps [d.toChar] := by
  have hbarrier : Barrier d.toChar := by cases d <;> exact ⟨by decide, by decide⟩
  refine Discipline.fit_barrier (nestedDollar_barrier hbarrier) (fun t u r => and_congr Iff.rfl ?_)
    ps r
  cases t with
  | group b => exact Iff.rfl
  | ref ref => exact ref.ends_barrier u r

end Spelling

end Stencil
