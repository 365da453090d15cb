import Stencil.Proofs.Spelling.Source
import Stencil.Proofs.Template.Erasure

/-!
# The canonical spelling

Everything that can be written has one canonical spelling: numbers without needless digits,
references in braces, single blanks in ternaries, flags in one order, and a backslash (at the top
level a second dollar sign) before every character that could mean something else. The canonical
spelling of a sound text is sound before whatever follows (`Token.fits_canon`), and it is read as
the same node up to places (`Token.erase_canon`).
-/

namespace Stencil

namespace Spelling

/-! ## Numbers -/

theorem decimal_toDigits (n : Nat) : decimal (Nat.toDigits 10 n) = n := by
  have h := @Nat.ofDigitChars_ten_toDigits n
  rw [Nat.ofDigitChars_eq_foldl] at h
  exact h

namespace Numeral

/-- The shortest way to write a number. -/
def ofInt (i : Int) : Numeral :=
  ⟨decide (i < 0), Nat.toDigits 10 i.natAbs⟩

theorem value_ofInt (i : Int) : (ofInt i).value = i := by
  unfold value ofInt
  rw [decimal_toDigits]
  by_cases h : i < 0
  · rw [if_pos (by simpa using h)]
    omega
  · rw [if_neg (by simpa using h)]
    omega

theorem sound_ofInt {i : Int} (h : isWord i) : (ofInt i).Sound where
  digits_ne_nil := Nat.toDigits_ne_nil
  isDigit _ hd := Nat.isDigit_of_mem_toDigits (by decide) (by decide) hd
  isWord := by rwa [value_ofInt]

def canon (n : Numeral) : Numeral :=
  ofInt n.value

theorem value_canon (n : Numeral) : n.canon.value = n.value :=
  value_ofInt n.value

theorem Sound.canon {n : Numeral} (h : n.Sound) : n.canon.Sound :=
  sound_ofInt h.isWord

end Numeral

/-! ## References -/

namespace Brackets

def canon : Brackets → Brackets
  | index n => index n.canon
  | range start stop => range (start.map Numeral.canon) (stop.map Numeral.canon)

theorem value_canon (b : Brackets) : b.canon.value = b.value := by
  have hbound : ∀ a : Bound, Bound.value (a.map Numeral.canon) = a.value := by
    intro a
    cases a with
    | none => rfl
    | some n => exact congrArg some n.value_canon
  cases b with
  | index n => rw [canon, value, value, n.value_canon]
  | range start stop => rw [canon, value, value, hbound, hbound]

theorem Sound.canon {b : Brackets} (h : b.Sound) : b.canon.Sound := by
  have hbound : ∀ a : Bound, a.Sound → Bound.Sound (a.map Numeral.canon) := by
    intro a ha n hn
    obtain ⟨k, hk, rfl⟩ := Option.map_eq_some_iff.1 hn
    exact (ha k hk).canon
  cases b with
  | index n => exact Numeral.Sound.canon h
  | range start stop => exact ⟨hbound start h.1, hbound stop h.2⟩

end Brackets

namespace Subject

def canon (s : Subject) : Subject :=
  ⟨s.name, s.brackets.map Brackets.canon⟩

theorem ref_canon (s : Subject) (span : Span) : s.canon.ref span = s.ref span := by
  unfold ref canon
  cases s.brackets with
  | none => rfl
  | some b => simp only [Option.map_some, b.value_canon]

theorem Sound.canon {s : Subject} (h : s.Sound) : s.canon.Sound where
  name := h.name
  brackets b hb := by
    obtain ⟨a, ha, rfl⟩ := Option.map_eq_some_iff.1 hb
    exact (h.brackets a ha).canon

end Subject

namespace Reference

def canon : Reference → Reference
  | bare name => braced ⟨name, none⟩
  | braced s => braced s.canon

theorem Sound.canon {r : Reference} (h : r.Sound) : r.canon.Sound := by
  cases r with
  | bare name => exact ⟨h, by simp⟩
  | braced s => exact Subject.Sound.canon h

theorem ends_canon (r : Reference) (rest : List Char) : r.canon.Ends rest := by
  cases r <;> exact trivial

theorem erase_canon (o o' : Nat) (r : Reference) : (r.canon.ref o).erase = (r.ref o').erase := by
  cases r with
  | bare name => rfl
  | braced s =>
    rw [canon, ref, ref, Subject.ref_canon]
    rfl

end Reference

/-! ## Running text -/

/-- A piece with its character or its token written in one way. -/
def Piece.canon {τ : Type} (glyph : Char → Glyph) (token : τ → τ) : Piece τ → Piece τ
  | .glyph g => .glyph (glyph g.char)
  | .token t => .token (token t)

namespace Discipline

variable {τ α β : Type} {D : Discipline τ} {glyph : Char → Glyph} {token : τ → τ}
  {char : Char → Span → α} {ofToken : Nat → τ → α}

/-- Pieces that can be written in one way everywhere fit when they are written so. -/
theorem fit_canon (hglyph : ∀ c rest, (glyph c).Fits D rest)
    (htoken : ∀ t rest rest', D.TokenFits t rest → D.TokenFits (token t) rest')
    {ps : List (Piece τ)} {rest : List Char} (h : (D.writing char ofToken).Fit ps rest)
    (rest' : List Char) :
    (D.writing char ofToken).Fit (ps.map (Piece.canon glyph token)) rest' := by
  induction ps with
  | nil => trivial
  | cons p ps ih =>
    refine ⟨?_, ih h.2⟩
    cases p with
    | glyph g => exact hglyph g.char _
    | token t => exact htoken t _ _ h.1

/-- What pieces stand for does not depend on the way they are written. -/
theorem values_canon {f : α → β} (hglyph : ∀ c, (glyph c).char = c)
    (hchar : ∀ c span span', f (char c span) = f (char c span'))
    (htoken : ∀ o o' t, f (ofToken o (token t)) = f (ofToken o' t)) (o o' : Nat)
    (ps : List (Piece τ)) :
    ((D.writing char ofToken).values o (ps.map (Piece.canon glyph token))).map f =
      ((D.writing char ofToken).values o' ps).map f := by
  induction ps generalizing o o' with
  | nil => rfl
  | cons p ps ih =>
    rw [List.map_cons, Writing.values, Writing.values, List.map_cons, List.map_cons]
    refine congrArg₂ List.cons ?_ (ih _ _)
    cases p with
    | glyph g =>
      show f (char (glyph g.char).char _) = f (char g.char _)
      rw [hglyph]
      exact hchar _ _ _
    | token t => exact htoken _ _ t

/-- A character with a backslash where a discipline has an escape for it. -/
def escape (D : Discipline τ) (c : Char) : Glyph :=
  if D.escapes c then .escaped c else .plain c

theorem char_escape (c : Char) : (D.escape c).char = c := by
  unfold escape
  split_ifs <;> rfl

/-- A discipline with escapes for all that could mean something else can write every character. -/
theorem fits_escape (hclose : ∀ c, D.close = some c → D.escapes c) (hback : D.escapes '\\')
    (hdollar : D.escapes '$') (c : Char) (rest : List Char) : (D.escape c).Fits D rest := by
  unfold escape
  split_ifs with h
  · exact h
  · refine ⟨fun hc => h (hclose c hc.symm), ?_, ?_⟩
    · rintro rfl
      exact absurd hback h
    · rintro rfl
      exact absurd hdollar h

end Discipline

/-! ## Quoted strings -/

def canonQuoted (ps : List (Piece Reference)) : List (Piece Reference) :=
  ps.map (Piece.canon inQuotes.escape Reference.canon)

theorem QuotedSound.canon {ps : List (Piece Reference)} (h : QuotedSound ps) :
    QuotedSound (canonQuoted ps) := by
  refine Discipline.fit_canon ?_ ?_ h _
  · refine Discipline.fits_escape (fun c hc => ?_) (by decide) (by decide)
    obtain rfl : '"' = c := Option.some.inj hc
    decide
  · exact fun r _ rest' hr => ⟨hr.1.canon, r.ends_canon rest'⟩

theorem erase_canonQuoted (o o' : Nat) (ps : List (Piece Reference)) :
    (quotedValue o (canonQuoted ps)).erase = (quotedValue o' ps).erase := by
  have hvalues :
      (quotedWriting.values (o + 1) (canonQuoted ps)).map (Sum.map id VariableRef.erase) =
        (quotedWriting.values (o' + 1) ps).map (Sum.map id VariableRef.erase) := by
    refine Discipline.values_canon Discipline.char_escape (fun _ _ _ => rfl)
      (fun o o' r => ?_) _ _ _
    exact congrArg Sum.inr (r.erase_canon o o')
  unfold quotedValue Quoted.erase
  rw [Chunk.ofPieces_map, hvalues, ← Chunk.ofPieces_map]

namespace Choice

/-- The ternary with one space between its parts. -/
def canon (x : Choice) : Choice :=
  ⟨x.comparison, canonQuoted x.comparand, canonQuoted x.ifTrue, canonQuoted x.ifFalse,
    ⟨[' '], [' '], [' '], [' '], [' '], [' '], []⟩⟩

theorem Sound.canon {x : Choice} (h : x.Sound) : x.canon.Sound where
  comparand := h.comparand.canon
  ifTrue := h.ifTrue.canon
  ifFalse := h.ifFalse.canon
  gaps := by constructor <;> simp [Choice.canon, GapSound, isGap]
  opens := by simp [Choice.canon, Choice.text]

theorem erase_canon (x : Choice) {lhs lhs' : VariableRef} (h : lhs.erase = lhs'.erase)
    (start start' o o' : Nat) :
    (x.canon.ternary start lhs o).erase = (x.ternary start' lhs' o').erase := by
  simp only [ternary, Ternary.erase, h]
  rw [← erase_canonQuoted (x.canon.comparandAt o) (x.comparandAt o'),
    ← erase_canonQuoted (x.canon.ifTrueAt o) (x.ifTrueAt o'),
    ← erase_canonQuoted (x.canon.ifFalseAt o) (x.ifFalseAt o')]
  rfl

end Choice

/-! ## Edits -/

def Filling.canon : Filling → Filling
  | group d => group d
  | ref r => ref r.canon

def canonReplacement (d : Delimiter) (ps : List (Piece Filling)) : List (Piece Filling) :=
  ps.map (Piece.canon (inReplacement d.toChar).escape Filling.canon)

theorem fit_canonReplacement {d : Delimiter} {ps : List (Piece Filling)} {rest : List Char}
    (h : (replacementWriting d.toChar).Fit ps rest) (rest' : List Char) :
    (replacementWriting d.toChar).Fit (canonReplacement d ps) rest' := by
  refine Discipline.fit_canon ?_ ?_ h rest'
  · refine Discipline.fits_escape (fun c hc => ?_) (by simp [inReplacement])
      (by simp [inReplacement])
    obtain rfl : d.toChar = c := Option.some.inj hc
    simp [inReplacement]
  · intro t rest rest' ht
    cases t with
    | group a => exact ht
    | ref r =>
      refine ⟨⟨ht.1.1.canon, fun name hname => ?_⟩, r.ends_canon rest'⟩
      cases r <;> cases hname

theorem erase_canonReplacement (d : Delimiter) (o o' : Nat) (ps : List (Piece Filling)) :
    ((replacementWriting d.toChar).values o (canonReplacement d ps)).map
        (Sum.map id Filler.erase) =
      ((replacementWriting d.toChar).values o' ps).map (Sum.map id Filler.erase) := by
  refine Discipline.values_canon Discipline.char_escape (fun _ _ _ => rfl) (fun o o' t => ?_) _ _ _
  cases t with
  | group a => rfl
  | ref r => exact congrArg (fun v => Sum.inr (Filler.variable v)) (r.erase_canon o o')

theorem group_mem_canonReplacement {d : Delimiter} {a : Char} {ps : List (Piece Filling)} :
    .token (.group a) ∈ canonReplacement d ps ↔ .token (.group a) ∈ ps := by
  unfold canonReplacement
  rw [List.mem_map]
  constructor
  · rintro ⟨p, hp, heq⟩
    rcases p with g | b | r
    · cases heq
    · cases heq
      exact hp
    · cases heq
  · exact fun h => ⟨_, h, rfl⟩

/-- Flags without repetitions, in the order of the alphabet backwards. -/
def canonFlags (ignoreCase replaceAll : Bool) : List Char :=
  (if ignoreCase then ['i'] else []) ++ if replaceAll then ['g'] else []

namespace Rewrite

def canon (x : Rewrite) : Rewrite :=
  ⟨x.delimiter, x.pattern, canonReplacement x.delimiter x.replacement,
    canonFlags x.ignoreCase (x.flags.contains 'g')⟩

theorem ignoreCase_canon (x : Rewrite) : x.canon.ignoreCase = x.ignoreCase := by
  show (canonFlags x.ignoreCase (x.flags.contains 'g')).contains 'i' = x.ignoreCase
  cases x.ignoreCase <;> cases x.flags.contains 'g' <;> rfl

theorem replaceAll_canon (x : Rewrite) : x.canon.flags.contains 'g' = x.flags.contains 'g' := by
  show (canonFlags x.ignoreCase (x.flags.contains 'g')).contains 'g' = x.flags.contains 'g'
  cases x.ignoreCase <;> cases x.flags.contains 'g' <;> rfl

theorem Sound.canon [Pattern.Engine] {x : Rewrite} (h : x.Sound) : x.canon.Sound where
  pattern_ne_nil := h.pattern_ne_nil
  pattern := h.pattern
  replacement := fit_canonReplacement h.replacement _
  flags a ha := by
    simp only [Rewrite.canon, canonFlags, List.mem_append] at ha
    rcases ha with ha | ha
    · exact Or.inl (by split_ifs at ha <;> simp_all)
    · exact Or.inr (by split_ifs at ha <;> simp_all)
  accepted := by
    obtain ⟨p, hp, hgroups⟩ := h.accepted
    refine ⟨p, by rw [ignoreCase_canon]; exact hp, fun d hd => hgroups d ?_⟩
    exact group_mem_canonReplacement.1 hd

theorem erase_canon (x : Rewrite) {subject subject' : VariableRef}
    (h : subject.erase = subject'.erase) (start start' o o' : Nat) :
    (x.canon.edit start subject o).erase = (x.edit start' subject' o').erase := by
  simp only [edit, Edit.erase, h, Chunk.ofPieces_map, ignoreCase_canon, replaceAll_canon]
  rw [← erase_canonReplacement x.delimiter]
  rfl

end Rewrite

/-! ## Tokens -/

namespace Token

def canon : Token → Token
  | reference r => reference r.canon
  | ternary s x => ternary s.canon x.canon
  | edit name x => edit name x.canon

theorem inBraces_canon (t : Token) : t.canon.InBraces := by
  rcases t with (name | s) | ⟨s, x⟩ | ⟨name, x⟩ <;> exact trivial

theorem Sound.canon [Pattern.Engine] {t : Token} (h : t.Sound) : t.canon.Sound := by
  rcases t with r | ⟨s, x⟩ | ⟨name, x⟩
  · exact Reference.Sound.canon h
  · exact ⟨h.1.canon, h.2.canon⟩
  · exact ⟨h.1, h.2.canon⟩

theorem fits_canon [Pattern.Engine] {t : Token} (h : t.Sound) (rest : List Char) :
    sourceWriting.Fits (.token t.canon) rest :=
  Token.fits_of_inBraces (Sound.canon h) t.inBraces_canon rest

/-- The canonical spelling of a token is read as the same node, up to places. -/
theorem erase_canon (o o' : Nat) (t : Token) : (t.canon.node o).erase = (t.node o').erase := by
  rcases t with r | ⟨s, x⟩ | ⟨name, x⟩
  · exact congrArg Node.variable (r.erase_canon o o')
  · exact congrArg Node.ternary (x.erase_canon (by rw [s.ref_canon]; rfl) o o' _ _)
  · exact congrArg Node.edit (x.erase_canon rfl o o' _ _)

/-- The node of a token without its places does not depend on where the token is written. -/
theorem erase_node (o o' : Nat) (t : Token) : (t.node o).erase = (t.node o').erase := by
  rw [← t.erase_canon 0 o, ← t.erase_canon 0 o']

theorem names_node (o : Nat) (t : Token) : (t.node o).names = (t.node 0).names := by
  rw [← Node.names_erase, t.erase_node o 0, Node.names_erase]

end Token

end Spelling

end Stencil
