import Stencil.Proofs.Spelling.Piece
import Stencil.Proofs.Template.Chunk

/-!
# How tokens are written

The written forms of quoted strings, ternaries and edits, and of the tokens in braces that they
make up. A form (`Choice`, `Rewrite`, `Token`) holds every character of its text, so it also says
where the parts stand: `Token.node` is the node that the token is read as at a byte offset. The main
statements, `readBraced_sound` and `Token.readBraced_eq`, say that the reader of braces reads
exactly the sound tokens, whatever follows them.
-/

namespace Stencil

namespace Spelling

/-! ## Forms -/

/-- The text of a quoted string. -/
def quotedText (ps : List (Piece Reference)) : List Char :=
  '"' :: (quotedWriting.texts ps ++ ['"'])

/-- The quoted string that is written from the byte `o` on. -/
def quotedValue (o : Nat) (ps : List (Piece Reference)) : Quoted :=
  ⟨Chunk.ofPieces (quotedWriting.values (o + 1) ps), ⟨o, o + byteWidth (quotedText ps)⟩⟩

def QuotedSound (ps : List (Piece Reference)) : Prop :=
  quotedWriting.Fit ps ['"']

/-- The blanks of a ternary. -/
structure Gaps where
  beforeComparison : List Char
  afterComparison : List Char
  beforeQuestion : List Char
  afterQuestion : List Char
  beforeColon : List Char
  afterColon : List Char
  beforeBrace : List Char
  deriving DecidableEq, Repr

def GapSound (gap : List Char) : Prop :=
  ∀ a ∈ gap, isGap a

instance (gap : List Char) : Decidable (GapSound gap) :=
  decidable_of_iff (gap.all isGap) List.all_eq_true

structure Gaps.Sound (g : Gaps) : Prop where
  beforeComparison : GapSound g.beforeComparison
  afterComparison : GapSound g.afterComparison
  beforeQuestion : GapSound g.beforeQuestion
  afterQuestion : GapSound g.afterQuestion
  beforeColon : GapSound g.beforeColon
  afterColon : GapSound g.afterColon
  beforeBrace : GapSound g.beforeBrace

def comparisonText : Comparison → List Char
  | .equal => ['=', '=']
  | .notEqual => ['!', '=']

/-- What a ternary says after its left side: a comparison and three quoted strings. -/
structure Choice where
  comparison : Comparison
  comparand : List (Piece Reference)
  ifTrue : List (Piece Reference)
  ifFalse : List (Piece Reference)
  gaps : Gaps
  deriving DecidableEq, Repr

namespace Choice

def text (x : Choice) : List Char :=
  x.gaps.beforeComparison ++ (comparisonText x.comparison ++ (x.gaps.afterComparison ++
    (quotedText x.comparand ++ (x.gaps.beforeQuestion ++ '?' :: (x.gaps.afterQuestion ++
      (quotedText x.ifTrue ++ (x.gaps.beforeColon ++ ':' :: (x.gaps.afterColon ++
        (quotedText x.ifFalse ++ (x.gaps.beforeBrace ++ ['}']))))))))))

/-- The byte where the comparand stands, when the form begins at the byte `o`. -/
def comparandAt (x : Choice) (o : Nat) : Nat :=
  o + byteWidth x.gaps.beforeComparison + byteWidth (comparisonText x.comparison) +
    byteWidth x.gaps.afterComparison

def ifTrueAt (x : Choice) (o : Nat) : Nat :=
  x.comparandAt o + byteWidth (quotedText x.comparand) + byteWidth x.gaps.beforeQuestion + 1 +
    byteWidth x.gaps.afterQuestion

def ifFalseAt (x : Choice) (o : Nat) : Nat :=
  x.ifTrueAt o + byteWidth (quotedText x.ifTrue) + byteWidth x.gaps.beforeColon + 1 +
    byteWidth x.gaps.afterColon

/-- The ternary with the left side `lhs`, which begins at the byte `start` and goes on with the form
at the byte `o`. -/
def ternary (x : Choice) (start : Nat) (lhs : VariableRef) (o : Nat) : Ternary :=
  ⟨lhs, x.comparison, quotedValue (x.comparandAt o) x.comparand,
    quotedValue (x.ifTrueAt o) x.ifTrue, quotedValue (x.ifFalseAt o) x.ifFalse,
    ⟨start, o + byteWidth x.text⟩⟩

/-- Three sound strings, and blanks in the gaps. -/
structure PartsSound (x : Choice) : Prop where
  comparand : QuotedSound x.comparand
  ifTrue : QuotedSound x.ifTrue
  ifFalse : QuotedSound x.ifFalse
  gaps : x.gaps.Sound

/-- Sound parts, and a first character that tells a ternary: a space, a tab, or the first character
of the comparison. -/
structure Sound (x : Choice) : Prop extends PartsSound x where
  opens : ∀ a ∈ x.text.head?, a ∈ [' ', '\t', '=', '!']

end Choice

/-- A unit of a pattern: a backslash with the character after it, or one other character. -/
inductive PatternUnit
  | pair (c : Char)
  | single (c : Char)
  deriving DecidableEq, Repr

namespace PatternUnit

def text : PatternUnit → List Char
  | pair c => ['\\', c]
  | single c => [c]

def Sound (d : Char) : PatternUnit → Prop
  | pair _ => True
  | single c => c ≠ '\\' ∧ c ≠ d

/-- What the pattern says there: a delimiter after a backslash is the delimiter, and any other pair
is left to the pattern. -/
def value (d : Char) : PatternUnit → List Char
  | pair c => if c = d then [c] else ['\\', c]
  | single c => [c]

end PatternUnit

/-- The units of a pattern before the delimiter `d`. -/
def patternWriting (d : Char) : Writing PatternUnit (List Char) where
  text := PatternUnit.text
  Fits u _ := u.Sound d
  value _ u := u.value d

/-- What an edit says after its subject: a pattern, a replacement and flags. -/
structure Rewrite where
  delimiter : Delimiter
  pattern : List PatternUnit
  replacement : List (Piece Filling)
  flags : List Char
  deriving DecidableEq, Repr

namespace Rewrite

def text (x : Rewrite) : List Char :=
  x.delimiter.toChar :: ((patternWriting x.delimiter.toChar).texts x.pattern ++
    x.delimiter.toChar :: ((replacementWriting x.delimiter.toChar).texts x.replacement ++
      x.delimiter.toChar :: (x.flags ++ ['}'])))

/-- The pattern without the backslashes before delimiters. -/
def patternText (x : Rewrite) : String :=
  String.ofList (x.pattern.flatMap (PatternUnit.value x.delimiter.toChar))

def ignoreCase (x : Rewrite) : Bool :=
  x.flags.contains 'i'

/-- The edit of `subject`, which begins at the byte `start` and goes on with the form at the
byte `o`. -/
def edit (x : Rewrite) (start : Nat) (subject : VariableRef) (o : Nat) : Edit :=
  let d := x.delimiter.toChar
  let replacementAt := o + 1 + byteWidth ((patternWriting d).texts x.pattern) + 1
  ⟨subject, x.delimiter, x.patternText,
    Chunk.ofPieces ((replacementWriting d).values replacementAt x.replacement),
    x.ignoreCase, x.flags.contains 'g', ⟨start, o + byteWidth x.text⟩⟩

variable [Pattern.Engine]

/-- A pattern that is not empty and that the pattern language accepts, a sound replacement that
refers to no group beyond those of the pattern, and flags `i` and `g` only. -/
structure Sound (x : Rewrite) : Prop where
  pattern_ne_nil : x.pattern ≠ []
  pattern : ∀ u ∈ x.pattern, u.Sound x.delimiter.toChar
  replacement : (replacementWriting x.delimiter.toChar).Fit x.replacement [x.delimiter.toChar]
  flags : ∀ a ∈ x.flags, a = 'i' ∨ a = 'g'
  accepted : ∃ p, Pattern.ofText? x.ignoreCase x.patternText = some p ∧
    ∀ d, .token (.group d) ∈ x.replacement → d.toNat - '0'.toNat ≤ p.groups

/-- An edit whose parts can be read, whatever the pattern language says about the pattern. -/
structure PartsSound (x : Rewrite) : Prop where
  pattern_ne_nil : x.pattern ≠ []
  pattern : ∀ u ∈ x.pattern, u.Sound x.delimiter.toChar
  replacement : (replacementWriting x.delimiter.toChar).Fit x.replacement [x.delimiter.toChar]
  flags : ∀ a ∈ x.flags, a = 'i' ∨ a = 'g'

theorem Sound.partsSound {x : Rewrite} (hx : x.Sound) : x.PartsSound :=
  ⟨hx.pattern_ne_nil, hx.pattern, hx.replacement, hx.flags⟩

end Rewrite

/-- A token as written. -/
inductive Token
  | reference (r : Reference)
  | ternary (s : Subject) (x : Choice)
  | edit (name : List Char) (x : Rewrite)
  deriving DecidableEq, Repr

namespace Token

variable [Pattern.Engine]

def text : Token → List Char
  | reference r => r.text
  | ternary s x => '$' :: '{' :: (s.text ++ x.text)
  | edit name x => '$' :: '{' :: (name ++ x.text)

def Sound : Token → Prop
  | reference r => r.Sound
  | ternary s x => s.Sound ∧ x.Sound
  | edit name x => NameSound name ∧ x.Sound

/-- What follows does not prolong the token. -/
def Ends : Token → List Char → Prop
  | reference r, rest => r.Ends rest
  | _, _ => True

/-- The node of the token that is written from the byte `o` on. -/
def node (o : Nat) : Token → Node
  | reference r => .variable (r.ref o)
  | ternary s x =>
    let stop := o + 2 + byteWidth s.text
    .ternary (x.ternary o (s.ref ⟨o + 2, stop⟩) stop)
  | edit name x =>
    let stop := o + 2 + byteWidth name
    .edit (x.edit o ((⟨name, none⟩ : Subject).ref ⟨o + 2, stop⟩) stop)

/-- Whether the token stands in braces. -/
def InBraces : Token → Prop
  | reference (.bare _) => False
  | _ => True

end Token

end Spelling

open Spelling

/-! ## Quoted strings -/

theorem readQuoted_eq_ok_iff {c c' : Cursor} {q : Quoted} :
    readQuoted c = .ok (q, c') ↔
      ∃ ps, QuotedSound ps ∧ c.Reads (quotedText ps) c' ∧ q = quotedValue c.offset ps := by
  unfold readQuoted
  constructor
  · intro h
    split at h
    · rename_i hopen
      split at h
      · cases h
      rename_i pieces d hpieces
      cases h
      obtain ⟨ps, hps, hreads, rfl⟩ := quoted_readBy.upTo_eq_ok_iff.1 hpieces
      have hall : c.Reads (quotedText ps) c' := Cursor.reads_cons_iff.2 ⟨hopen, hreads⟩
      refine ⟨ps, (fit_inQuotes_iff ps _).1 hps, hall, ?_⟩
      rw [quotedValue, ← hall.offset, (Cursor.reads_peek hopen).offset]
      rfl
    · cases h
    · cases h
  · rintro ⟨ps, hps, hreads, rfl⟩
    have hpieces : quotedPiece.upTo '"' ⟨c.offset, .unterminatedString⟩ (c.skip 1) =
        .ok (quotedWriting.values (c.skip 1).offset ps, c') :=
      quoted_readBy.upTo_eq_ok_iff.2 ⟨ps, (fit_inQuotes_iff ps _).2 hps, hreads.tail, rfl⟩
    rw [hreads.peek]
    simp only [hpieces]
    rw [quotedValue, ← hreads.offset, (Cursor.reads_peek hreads.peek).offset]
    rfl

theorem readQuoted_eq {ps : List (Piece Reference)} {c c' : Cursor} (hps : QuotedSound ps)
    (hreads : c.Reads (quotedText ps) c') : readQuoted c = .ok (quotedValue c.offset ps, c') :=
  readQuoted_eq_ok_iff.2 ⟨ps, hps, hreads, rfl⟩

/-! ## Ternaries -/

theorem reads_skipGap (c : Cursor) : c.Reads (c.run isGap) c.skipGap :=
  Cursor.reads_run isGap c

theorem gapSound_run (c : Cursor) : GapSound (c.run isGap) :=
  fun _ ha => Cursor.mem_run ha

/-- Blanks before a text that begins with no blank are skipped. -/
theorem skipGap_eq {c d e : Cursor} {gap w : List Char} (hreads : c.Reads gap d)
    (hgap : GapSound gap) (hnext : d.Reads w e) (hw : w ≠ []) (hs : Stops isGap w) :
    c.skipGap = d := by
  refine (Cursor.run_of_reads hreads hgap ?_).2
  obtain ⟨a, v, rfl⟩ := List.exists_cons_of_ne_nil hw
  rw [show d.rest = a :: (v ++ e.rest) from hnext.rest, stops_cons]
  exact (stops_cons isGap a v).1 hs

theorem readComparison_eq_ok_iff {c c' : Cursor} {o : Comparison} :
    readComparison c = .ok (o, c') ↔ c.Reads (comparisonText o) c' := by
  constructor
  · intro h
    unfold readComparison at h
    split at h
    · rename_i heq
      cases h
      exact Cursor.reads_skip (w := ['=', '=']) heq
    · rename_i heq
      cases h
      exact Cursor.reads_skip (w := ['!', '=']) heq
    · cases h
  · intro h
    have hrest := h.rest
    have hskip := h.skip_eq
    unfold readComparison
    cases o <;> rw [hrest] <;> exact congrArg Except.ok (Prod.ext rfl hskip)

theorem expect_eq_ok_iff {d : Char} {reason : Reason} {c c' : Cursor} :
    expect d reason c = .ok c' ↔ c.Reads [d] c' := by
  rw [Cursor.reads_cons_iff, Cursor.reads_nil_iff]
  unfold expect fault
  split_ifs with h
  · simp only [Except.ok.injEq, h, true_and]
    exact eq_comm
  · simp [h]

theorem readTernary_sound {start : Nat} {lhs : VariableRef} {c c' : Cursor} {t : Ternary}
    (h : readTernary start lhs c = .ok (t, c')) :
    ∃ x : Choice, x.PartsSound ∧ c.Reads x.text c' ∧ t = x.ternary start lhs c.offset := by
  simp only [readTernary, bind, Except.bind] at h
  split at h
  · cases h
  rename_i o ho
  split at h
  · cases h
  rename_i q₁ hq₁
  split at h
  · cases h
  rename_i d₁ hd₁
  split at h
  · cases h
  rename_i q₂ hq₂
  split at h
  · cases h
  rename_i d₂ hd₂
  split at h
  · cases h
  rename_i q₃ hq₃
  split at h
  · rename_i hclose
    cases h
    have ho := readComparison_eq_ok_iff.1 ho
    obtain ⟨ps₁, hps₁, hr₁, he₁⟩ := readQuoted_eq_ok_iff.1 hq₁
    obtain ⟨ps₂, hps₂, hr₂, he₂⟩ := readQuoted_eq_ok_iff.1 hq₂
    obtain ⟨ps₃, hps₃, hr₃, he₃⟩ := readQuoted_eq_ok_iff.1 hq₃
    have hd₁ := expect_eq_ok_iff.1 hd₁
    have hd₂ := expect_eq_ok_iff.1 hd₂
    let x : Choice := ⟨o.1, ps₁, ps₂, ps₃, ⟨c.run isGap, o.2.run isGap, q₁.2.run isGap,
      d₁.run isGap, q₂.2.run isGap, d₂.run isGap, q₃.2.run isGap⟩⟩
    have hx : x.PartsSound := ⟨hps₁, hps₂, hps₃, ⟨gapSound_run _, gapSound_run _, gapSound_run _,
      gapSound_run _, gapSound_run _, gapSound_run _, gapSound_run _⟩⟩
    have hall : c.Reads x.text (q₃.2.skipGap.skip 1) :=
      (reads_skipGap c).trans <| ho.trans <| (reads_skipGap o.2).trans <| hr₁.trans <|
        (reads_skipGap q₁.2).trans <| hd₁.trans <| (reads_skipGap d₁).trans <| hr₂.trans <|
        (reads_skipGap q₂.2).trans <| hd₂.trans <| (reads_skipGap d₂).trans <| hr₃.trans <|
        (reads_skipGap q₃.2).trans (Cursor.reads_peek hclose)
    have e₁ : x.comparandAt c.offset = o.2.skipGap.offset := by
      rw [(reads_skipGap o.2).offset, ho.offset, (reads_skipGap c).offset]
      rfl
    have e₂ : x.ifTrueAt c.offset = d₁.skipGap.offset := by
      rw [(reads_skipGap d₁).offset, hd₁.offset, (reads_skipGap q₁.2).offset, hr₁.offset, ← e₁]
      rfl
    have e₃ : x.ifFalseAt c.offset = d₂.skipGap.offset := by
      rw [(reads_skipGap d₂).offset, hd₂.offset, (reads_skipGap q₂.2).offset, hr₂.offset, ← e₂]
      rfl
    refine ⟨x, hx, hall, ?_⟩
    rw [Choice.ternary, e₁, e₂, e₃, ← hall.offset, he₁, he₂, he₃]
  · cases h
  · cases h

theorem Spelling.Choice.readTernary_eq {x : Choice} {start : Nat} {lhs : VariableRef}
    {c c' : Cursor} (hx : x.PartsSound) (hreads : c.Reads x.text c') :
    readTernary start lhs c = .ok (x.ternary start lhs c.offset, c') := by
  have hall := hreads
  -- the places between the parts, from left to right
  obtain ⟨d₁, h₁, hreads⟩ := Cursor.reads_append_iff.1 hreads
  have s₁ : c.skipGap = d₁ := skipGap_eq h₁ hx.gaps.beforeComparison hreads
    (by cases x.comparison <;> simp [comparisonText])
    (by cases x.comparison <;> simp [comparisonText, isGap])
  obtain ⟨d₂, h₂, hreads⟩ := Cursor.reads_append_iff.1 hreads
  obtain ⟨d₃, h₃, hreads⟩ := Cursor.reads_append_iff.1 hreads
  have s₃ : d₂.skipGap = d₃ := skipGap_eq h₃ hx.gaps.afterComparison hreads (by simp [quotedText])
    (by simp [quotedText, isGap])
  obtain ⟨d₄, h₄, hreads⟩ := Cursor.reads_append_iff.1 hreads
  obtain ⟨d₅, h₅, hreads⟩ := Cursor.reads_append_iff.1 hreads
  have s₅ : d₄.skipGap = d₅ := skipGap_eq h₅ hx.gaps.beforeQuestion hreads (by simp)
    (by simp [isGap])
  have h₆ := Cursor.reads_peek hreads.peek
  obtain ⟨d₇, h₇, hreads⟩ := Cursor.reads_append_iff.1 hreads.tail
  have s₇ : (d₅.skip 1).skipGap = d₇ := skipGap_eq h₇ hx.gaps.afterQuestion hreads
    (by simp [quotedText]) (by simp [quotedText, isGap])
  obtain ⟨d₈, h₈, hreads⟩ := Cursor.reads_append_iff.1 hreads
  obtain ⟨d₉, h₉, hreads⟩ := Cursor.reads_append_iff.1 hreads
  have s₉ : d₈.skipGap = d₉ := skipGap_eq h₉ hx.gaps.beforeColon hreads (by simp) (by simp [isGap])
  have h₁₀ := Cursor.reads_peek hreads.peek
  obtain ⟨d₁₁, h₁₁, hreads⟩ := Cursor.reads_append_iff.1 hreads.tail
  have s₁₁ : (d₉.skip 1).skipGap = d₁₁ := skipGap_eq h₁₁ hx.gaps.afterColon hreads
    (by simp [quotedText]) (by simp [quotedText, isGap])
  obtain ⟨d₁₂, h₁₂, hreads⟩ := Cursor.reads_append_iff.1 hreads
  obtain ⟨d₁₃, h₁₃, hreads⟩ := Cursor.reads_append_iff.1 hreads
  have s₁₃ : d₁₂.skipGap = d₁₃ := skipGap_eq h₁₃ hx.gaps.beforeBrace hreads (by simp)
    (by simp [isGap])
  have e₁ : x.comparandAt c.offset = d₃.offset := by
    rw [h₃.offset, h₂.offset, h₁.offset]
    rfl
  have e₂ : x.ifTrueAt c.offset = d₇.offset := by
    rw [h₇.offset, h₆.offset, h₅.offset, h₄.offset, ← e₁]
    rfl
  have e₃ : x.ifFalseAt c.offset = d₁₁.offset := by
    rw [h₁₁.offset, h₁₀.offset, h₉.offset, h₈.offset, ← e₂]
    rfl
  have hend : d₁₃.skip 1 = c' := hreads.skip_eq
  simp only [readTernary, bind, Except.bind, s₁, readComparison_eq_ok_iff.2 h₂, s₃,
    readQuoted_eq hx.comparand h₄, s₅, expect_eq_ok_iff.2 h₆, s₇, readQuoted_eq hx.ifTrue h₈, s₉,
    expect_eq_ok_iff.2 h₁₀, s₁₁, readQuoted_eq hx.ifFalse h₁₂, s₁₃, hreads.peek, hend]
  rw [Choice.ternary, e₁, e₂, e₃, ← hall.offset]

/-! ## Edits -/

theorem readPatternUnit_pair (start : Nat) (d : Char) {c : Cursor} {e : Char}
    (h : c.Reads ['\\', e] (c.skip 2)) :
    readPatternUnit start d c = .ok ((PatternUnit.pair e).value d, c.skip 2) := by
  have hrest : c.rest = '\\' :: e :: (c.skip 2).rest := h.rest
  rw [readPatternUnit, hrest]
  rfl

theorem readPatternUnit_single (start : Nat) (d : Char) {c : Cursor} {b : Char}
    (h : c.peek? = some b) (hb : b ≠ '\\') : readPatternUnit start d c = .ok ([b], c.skip 1) := by
  obtain ⟨r, hrest⟩ : ∃ r, c.rest = b :: r := ⟨_, Cursor.rest_of_peek h⟩
  unfold readPatternUnit
  split <;> rename_i heq <;> rw [hrest] at heq <;> cases heq
  · exact absurd rfl hb
  · exact absurd rfl hb
  · rfl

theorem readPatternUnit_sound {start : Nat} {d b : Char} {c c' : Cursor} {a : List Char}
    (hpeek : c.peek? = some b) (hb : b ≠ d) (h : readPatternUnit start d c = .ok (a, c')) :
    ∃ u : PatternUnit, u.Sound d ∧ c.Reads u.text c' ∧ a = u.value d := by
  have hone := Cursor.reads_peek hpeek
  by_cases hback : b = '\\'
  · subst hback
    cases hnext : (c.skip 1).peek? with
    | none =>
      -- a backslash at the end of the source is no unit
      have hnil : (c.skip 1).rest = [] := List.head?_eq_none_iff.1 hnext
      have hrest := Cursor.rest_of_peek hpeek
      rw [hnil] at hrest
      rw [readPatternUnit, hrest] at h
      cases h
    | some e =>
      have htwo : c.Reads ['\\', e] (c.skip 2) :=
        Cursor.skip_skip_one c ▸ hone.trans (Cursor.reads_peek hnext)
      rw [readPatternUnit_pair start d htwo] at h
      cases h
      exact ⟨.pair e, trivial, htwo, rfl⟩
  · rw [readPatternUnit_single start d hpeek hback] at h
    cases h
    exact ⟨.single b, ⟨hback, hb⟩, hone, rfl⟩

theorem Spelling.PatternUnit.readPatternUnit_eq {start : Nat} {d : Char} {u : PatternUnit}
    {c c' : Cursor} (hu : u.Sound d) (hreads : c.Reads u.text c') :
    readPatternUnit start d c = .ok (u.value d, c') := by
  cases u with
  | pair e =>
    obtain rfl : c.skip 2 = c' := hreads.skip_eq
    exact readPatternUnit_pair start d hreads
  | single e =>
    obtain rfl : c.skip 1 = c' := hreads.skip_eq
    exact readPatternUnit_single start d hreads.peek hu.1

theorem patternUnit_readBy (start : Nat) {d : Char} (hd : d ≠ '\\') :
    (patternWriting d).ReadBy (patternUnit start d) (some d) where
  read_iff := by
    intro c c' b a hpeek hclose
    constructor
    · exact readPatternUnit_sound hpeek (by simpa using hclose)
    · rintro ⟨u, hu, hreads, rfl⟩
      exact u.readPatternUnit_eq hu hreads
  opens := by
    intro u rest hu
    cases u with
    | pair e => exact ⟨'\\', [e], rfl, by simpa using hd.symm⟩
    | single e => exact ⟨e, [], rfl, by simpa using hu.2⟩

theorem fit_patternWriting_iff {d : Char} {us : List PatternUnit} {rest : List Char} :
    (patternWriting d).Fit us rest ↔ ∀ u ∈ us, u.Sound d := by
  induction us with
  | nil => simp [Writing.Fit]
  | cons u us ih =>
    rw [Writing.Fit, ih, List.forall_mem_cons]
    exact Iff.rfl

theorem values_patternWriting (d : Char) (o : Nat) (us : List PatternUnit) :
    (patternWriting d).values o us = us.map (PatternUnit.value d) := by
  induction us generalizing o with
  | nil => rfl
  | cons u us ih =>
    rw [Writing.values, ih]
    rfl

theorem readFlags_eq_ok_iff {start : Nat} {c c' : Cursor} {f : EditFlags} :
    readFlags start c = .ok (f, c') ↔
      ∃ flags : List Char, (∀ a ∈ flags, a = 'i' ∨ a = 'g') ∧ c.Reads (flags ++ ['}']) c' ∧
        f = ⟨flags.contains 'i', flags.contains 'g'⟩ := by
  have hflag : ∀ a : Char, (a == 'i' || a == 'g') = true ↔ a = 'i' ∨ a = 'g' := by simp
  constructor
  · intro h
    unfold readFlags at h
    dsimp only at h
    split at h
    · rename_i hclose
      cases h
      exact ⟨_, fun a ha => (hflag a).1 (Cursor.mem_run ha),
        (Cursor.reads_run _ c).trans (Cursor.reads_peek hclose), rfl⟩
    · cases h
    · cases h
  · rintro ⟨flags, hflags, hreads, rfl⟩
    obtain ⟨d, hd, hclose⟩ := Cursor.reads_append_iff.1 hreads
    obtain ⟨hrun, hskip⟩ := Cursor.run_of_reads (p := fun a => a == 'i' || a == 'g') hd
      (fun a ha => (hflag a).2 (hflags a ha)) (by rw [hclose.rest]; simp)
    have hend : d.skip 1 = c' := hclose.skip_eq
    unfold readFlags
    dsimp only
    rw [hrun, hskip, hclose.peek]
    simp only [hend]

/-- The groups of a replacement, from its pieces. -/
theorem largestGroup_replacement_le_iff {d : Char} {o n : Nat} {ps : List (Piece Filling)} :
    largestGroup (Chunk.ofPieces ((replacementWriting d).values o ps)) ≤ n ↔
      ∀ a, .token (.group a) ∈ ps → a.toNat - '0'.toNat ≤ n := by
  rw [largestGroup_le_iff]
  simp only [Chunk.token_mem_ofPieces]
  induction ps generalizing o with
  | nil => simp [Writing.values]
  | cons p ps ih =>
    have hcons := @ih (o + byteWidth ((replacementWriting d).text p))
    rw [Writing.values]
    simp only [List.mem_cons]
    constructor
    · intro h a ha
      rcases ha with rfl | ha
      · exact h _ (Or.inl rfl)
      · exact hcons.1 (fun g hg => h g (Or.inr hg)) a ha
    · intro h g hg
      rcases hg with hg | hg
      · rcases p with e | e | r
        · cases hg
        · cases hg
          exact h e (Or.inl rfl)
        · cases hg
      · exact hcons.2 (fun a ha => h a (Or.inr ha)) g hg

theorem delimiter_ne_backslash (d : Delimiter) : d.toChar ≠ '\\' := by
  cases d <;> decide

theorem utf8Size_delimiter (d : Delimiter) : d.toChar.utf8Size = 1 := by
  cases d <;> rfl

/-- The byte after the second delimiter, where the replacement stands. -/
theorem replacementAt_eq {c d : Cursor} {delimiter : Delimiter} {w : List Char}
    (hopen : c.peek? = some delimiter.toChar) (h : (c.skip 1).Reads (w ++ [delimiter.toChar]) d) :
    c.offset + 1 + byteWidth w + 1 = d.offset := by
  have hone := (Cursor.reads_peek hopen).offset
  rw [h.offset, hone]
  simp only [byteWidth_append, byteWidth_cons, byteWidth_nil, utf8Size_delimiter]
  omega

section

variable [Pattern.Engine]

theorem readEdit_sound {start : Nat} {subject : VariableRef} {delimiter : Delimiter} {c c' : Cursor}
    {e : Edit} (hopen : c.peek? = some delimiter.toChar)
    (h : readEdit start subject delimiter c = .ok (e, c')) :
    ∃ x : Rewrite, x.delimiter = delimiter ∧ x.Sound ∧ c.Reads x.text c' ∧
      e = x.edit start subject c.offset := by
  have hone := Cursor.reads_peek hopen
  have hback := delimiter_ne_backslash delimiter
  simp only [readEdit, bind, Except.bind, fault] at h
  split at h
  · cases h
  rename_i units hunits
  split at h
  · cases h
  rename_i hne
  split at h
  · cases h
  rename_i pieces hpieces
  split at h
  · cases h
  rename_i flags hflags
  obtain ⟨us, hus, hr₁, he₁⟩ := (patternUnit_readBy start hback).upTo_eq_ok_iff.1 hunits
  obtain ⟨ps, hps, hr₂, he₂⟩ := (replacement_readBy delimiter).upTo_eq_ok_iff.1 hpieces
  obtain ⟨fs, hfs, hr₃, he₃⟩ := readFlags_eq_ok_iff.1 hflags
  rw [values_patternWriting] at he₁
  let x : Rewrite := ⟨delimiter, us, ps, fs⟩
  have hall : c.Reads x.text flags.2 := by
    have htrans := hone.trans (hr₁.trans (hr₂.trans hr₃))
    simpa [Rewrite.text, x] using htrans
  have hpattern : String.ofList units.1.flatten = x.patternText := by
    rw [he₁]
    rfl
  have hcase : flags.1.ignoreCase = x.ignoreCase := by
    rw [he₃]
    rfl
  rw [hpattern, hcase] at h
  split at h
  · cases h
  · rename_i p hp
    split at h
    · rename_i hgroups
      cases h
      rw [he₂, largestGroup_replacement_le_iff] at hgroups
      have hx : x.Sound := by
        refine ⟨?_, fit_patternWriting_iff.1 hus, (fit_inReplacement_iff delimiter ps _).1 hps, hfs,
          p, hp, hgroups⟩
        rintro (rfl : us = [])
        simp [he₁] at hne
      refine ⟨x, rfl, hx, hall, ?_⟩
      rw [Rewrite.edit, ← hall.offset, replacementAt_eq hopen hr₁, he₂, he₃]
    · cases h

/-- The parts of an edit are read one after the other, and then its pattern is looked at. -/
theorem Spelling.Rewrite.readEdit_of_parts {x : Rewrite} {c c' : Cursor} (start : Nat)
    (subject : VariableRef) (hx : x.PartsSound) (hreads : c.Reads x.text c') :
    let e := x.edit start subject c.offset
    (∀ p, Pattern.ofText? x.ignoreCase x.patternText = some p →
      largestGroup e.replacement ≤ p.groups →
        readEdit start subject x.delimiter c = .ok (e, c')) ∧
      (Pattern.ofText? x.ignoreCase x.patternText = none →
        readEdit start subject x.delimiter c = fault (c.skip 1)
          (.badPattern x.patternText (Pattern.Engine.explain x.ignoreCase x.patternText))) := by
  have hback := delimiter_ne_backslash x.delimiter
  have hopen := hreads.peek
  obtain ⟨d₁, h₁, hrest₁⟩ := Cursor.reads_append_iff.1 <|
    show (c.skip 1).Reads ((_ ++ [x.delimiter.toChar]) ++ _) c' by simpa using hreads.tail
  obtain ⟨d₂, h₂, h₃⟩ := Cursor.reads_append_iff.1 <|
    show d₁.Reads ((_ ++ [x.delimiter.toChar]) ++ _) c' by simpa using hrest₁
  have hunits : (patternUnit start x.delimiter.toChar).upTo x.delimiter.toChar
      ⟨start, .unterminated⟩ (c.skip 1) =
        .ok (x.pattern.map (PatternUnit.value x.delimiter.toChar), d₁) := by
    refine (patternUnit_readBy start hback).upTo_eq_ok_iff.2
      ⟨x.pattern, fit_patternWriting_iff.2 hx.pattern, h₁, ?_⟩
    rw [values_patternWriting]
  have hpieces : (replacementPiece x.delimiter.toChar).upTo x.delimiter.toChar
      ⟨start, .unterminated⟩ d₁ =
        .ok ((replacementWriting x.delimiter.toChar).values d₁.offset x.replacement, d₂) :=
    (replacement_readBy x.delimiter).upTo_eq_ok_iff.2
      ⟨x.replacement, (fit_inReplacement_iff x.delimiter _ _).2 hx.replacement, h₂, rfl⟩
  have hflags : readFlags start d₂ = .ok (⟨x.ignoreCase, x.flags.contains 'g'⟩, c') :=
    readFlags_eq_ok_iff.2 ⟨x.flags, hx.flags, h₃, rfl⟩
  have hne : (x.pattern.map (PatternUnit.value x.delimiter.toChar)).isEmpty = false := by
    simpa using hx.pattern_ne_nil
  have hpattern : String.ofList (x.pattern.map (PatternUnit.value x.delimiter.toChar)).flatten =
      x.patternText := rfl
  have hedit : x.edit start subject c.offset = ⟨subject, x.delimiter, x.patternText,
      Chunk.ofPieces ((replacementWriting x.delimiter.toChar).values d₁.offset x.replacement),
      x.ignoreCase, x.flags.contains 'g', ⟨start, c'.offset⟩⟩ := by
    rw [Rewrite.edit, ← hreads.offset, replacementAt_eq hopen h₁]
  intro e
  simp only [e, hedit]
  refine ⟨fun p hp hgroups => ?_, fun hp => ?_⟩
  · simp only [readEdit, bind, Except.bind, hunits, hne, hpieces, hflags, hpattern, hp,
      if_pos hgroups, Bool.false_eq_true, if_false]
  · simp only [readEdit, bind, Except.bind, hunits, hne, hpieces, hflags, hpattern, hp,
      Bool.false_eq_true, if_false]

theorem Spelling.Rewrite.readEdit_eq {x : Rewrite} {start : Nat} {subject : VariableRef}
    {c c' : Cursor} (hx : x.Sound) (hreads : c.Reads x.text c') :
    readEdit start subject x.delimiter c = .ok (x.edit start subject c.offset, c') := by
  obtain ⟨p, hp, hgroups⟩ := hx.accepted
  exact (Rewrite.readEdit_of_parts start subject hx.partsSound hreads).1 p hp
    (largestGroup_replacement_le_iff.2 hgroups)

end

/-! ## Tokens in braces -/

theorem Spelling.Token.exists_text {t : Token} (ht : t.InBraces) :
    ∃ w, t.text = '$' :: '{' :: w ∧ '}' ∈ t.text := by
  cases t with
  | reference r =>
    cases r with
    | bare name => exact ht.elim
    | braced s => exact ⟨s.text ++ ['}'], rfl, by simp [Token.text, Reference.text]⟩
  | ternary s x => exact ⟨s.text ++ x.text, rfl, by simp [Token.text, Choice.text]⟩
  | edit name x => exact ⟨name ++ x.text, rfl, by simp [Token.text, Rewrite.text]⟩

/-- A subject and an edit after it, read at one place after the other. -/
theorem exists_edit [Pattern.Engine] {c d c' : Cursor} {x : Subject} {delimiter : Delimiter}
    {e : Edit} (hopen : c.Reads ['$', '{'] (c.skip 2)) (hx : x.Sound)
    (hreads : (c.skip 2).Reads x.text d)
    (hnone : x.brackets = none) (hpeek : d.peek? = some delimiter.toChar)
    (he : readEdit c.offset (x.ref ⟨(c.skip 2).offset, d.offset⟩) delimiter d = .ok (e, c')) :
    ∃ t : Token, t.InBraces ∧ t.Sound ∧ c.Reads t.text c' ∧ .edit e = t.node c.offset := by
  obtain ⟨y, -, hy, hr, rfl⟩ := readEdit_sound hpeek he
  have hstart : (c.skip 2).offset = c.offset + 2 := hopen.offset
  obtain ⟨name, brackets⟩ := x
  dsimp only at hnone
  subst hnone
  rw [Subject.text_name] at hreads
  have hstop : d.offset = c.offset + 2 + byteWidth name := by rw [hreads.offset, hstart]
  refine ⟨.edit name y, trivial, ⟨hx.name, hy⟩, hopen.trans (hreads.trans hr), ?_⟩
  rw [Token.node, hstart, hstop]

theorem readBraced_sound [Pattern.Engine] {c c' : Cursor} {n : Node}
    (hopen : c.Reads ['$', '{'] (c.skip 2)) (h : readBraced c = .ok (n, c')) :
    ∃ t : Token, t.InBraces ∧ t.Sound ∧ c.Reads t.text c' ∧ n = t.node c.offset := by
  simp only [readBraced, bind, Except.bind, fault] at h
  split at h
  swap
  · cases h
  split at h
  · cases h
  rename_i hname
  split at h
  · cases h
  rename_i s hs
  obtain ⟨x, hx, hreads, hends, hx1, hx2⟩ := exists_subject hname hs
  have hinner : (⟨(readName (c.skip 2)).1, s.1, true, ⟨(c.skip 2).offset, s.2.offset⟩⟩ :
      VariableRef) = x.ref ⟨(c.skip 2).offset, s.2.offset⟩ := by rw [hx1, hx2, Subject.ref]
  have hnone : ¬ s.1.isSome = true → x.brackets = none := by simp [hx2]
  rw [hinner] at h
  split at h
  · -- a closing brace
    rename_i hpeek
    cases h
    have hall : c.Reads (Reference.braced x).text (s.2.skip 1) :=
      hopen.trans (hreads.trans (Cursor.reads_peek hpeek))
    refine ⟨.reference (.braced x), trivial, hx, hall, ?_⟩
    rw [Token.node, Reference.ref, Subject.ref, ← hall.offset, hx1, hx2]
  · -- a slash
    rename_i hpeek
    split at h
    · cases h
    rename_i hno
    split at h
    · cases h
    rename_i e he
    cases h
    have hslash : s.2.peek? = some Delimiter.slash.toChar := hpeek
    exact exists_edit hopen hx hreads (hnone hno) hslash he
  · -- a bar
    rename_i hpeek
    split at h
    · cases h
    rename_i hno
    split at h
    · cases h
    rename_i e he
    cases h
    have hbar : s.2.peek? = some Delimiter.bar.toChar := hpeek
    exact exists_edit hopen hx hreads (hnone hno) hbar he
  · -- the beginning of a ternary
    rename_i a _ _ _ hpeek
    split at h
    · rename_i ha
      split at h
      · cases h
      rename_i t ht
      cases h
      obtain ⟨y, hy, hr, he⟩ := readTernary_sound ht
      have hopens : ∀ b ∈ y.text.head?, b ∈ [' ', '\t', '=', '!'] := by
        rw [hr.head_eq (by simp [Choice.text]), hpeek]
        simpa using ha
      have hstart : (c.skip 2).offset = c.offset + 2 := hopen.offset
      have hstop : s.2.offset = c.offset + 2 + byteWidth x.text := by rw [hreads.offset, hstart]
      refine ⟨.ternary x y, trivial, ⟨hx, hy, hopens⟩, hopen.trans (hreads.trans hr), ?_⟩
      rw [he, Token.node, hstart, hstop]
    · cases h
  · cases h

/-- The subject of a token in braces, read before the rest of the token. -/
theorem Spelling.Subject.read_in_braces {x : Subject} {c c' : Cursor} {v : List Char}
    (hx : x.Sound) (hall : c.Reads ('$' :: '{' :: (x.text ++ v)) c')
    (hends : x.Ends (v ++ c'.rest)) :
    ∃ d, c.Reads ['$', '{'] (c.skip 2) ∧ (c.skip 2).Reads x.text d ∧ d.Reads v c' ∧
      (readName (c.skip 2)).1 = String.ofList x.name ∧ (readName (c.skip 2)).1 ≠ "" ∧
      readSubscript? (readName (c.skip 2)).2 = .ok (x.brackets.map Brackets.value, d) := by
  obtain ⟨e, hopen, hrest⟩ := Cursor.reads_append_iff.1
    (show c.Reads (['$', '{'] ++ (x.text ++ v)) c' from hall)
  obtain rfl : c.skip 2 = e := hopen.skip_eq
  obtain ⟨d, hreads, hv⟩ := Cursor.reads_append_iff.1 hrest
  exact ⟨d, hopen, hreads, hv, Subject.read_eq hx hreads (by rw [hv.rest]; exact hends)⟩

variable [Pattern.Engine]

theorem Spelling.Subject.readBraced_eq {x : Subject} {c c' : Cursor} (hx : x.Sound)
    (hall : c.Reads (Reference.braced x).text c') (hbrace : '}' ∈ c.rest) :
    readBraced c = .ok (.variable ((Reference.braced x).ref c.offset), c') := by
  obtain ⟨d, -, -, hv, hname, hne, hs⟩ := Subject.read_in_braces hx hall
    (Subject.ends_cons (by decide) (by decide))
  have hend : d.skip 1 = c' := hv.skip_eq
  simp only [readBraced, if_pos hbrace, bind, Except.bind, if_neg hne, hs, hv.peek, hend]
  rw [Reference.ref, Subject.ref, ← hall.offset, hname]

theorem Spelling.Choice.readBraced_eq {x : Subject} {y : Choice} {c c' : Cursor} (hx : x.Sound)
    (hy : y.Sound) (hall : c.Reads (Token.ternary x y).text c') (hbrace : '}' ∈ c.rest) :
    readBraced c = .ok ((Token.ternary x y).node c.offset, c') := by
  obtain ⟨a, w, hw⟩ := List.exists_cons_of_ne_nil (show y.text ≠ [] by simp [Choice.text])
  have ha : a = ' ' ∨ a = '\t' ∨ a = '=' ∨ a = '!' := by
    simpa using hy.opens a (by rw [hw]; rfl)
  have hends : x.Ends (y.text ++ c'.rest) := by
    rw [hw]
    rcases ha with rfl | rfl | rfl | rfl <;> exact Subject.ends_cons (by decide) (by decide)
  obtain ⟨d, hopen, hreads, hv, hname, hne, hs⟩ := Subject.read_in_braces hx hall hends
  have hpeek : d.peek? = some a := (hw ▸ hv).peek
  have hstart : (c.skip 2).offset = c.offset + 2 := hopen.offset
  have hstop : d.offset = c.offset + 2 + byteWidth x.text := by rw [hreads.offset, hstart]
  have hread : readTernary c.offset (x.ref ⟨(c.skip 2).offset, d.offset⟩) d = _ :=
    Choice.readTernary_eq hy.toPartsSound hv
  rw [Subject.ref, ← hname] at hread
  have hbranch : readBraced c =
      .ok (.ternary (y.ternary c.offset ⟨(readName (c.skip 2)).1, x.brackets.map Brackets.value,
        true, ⟨(c.skip 2).offset, d.offset⟩⟩ d.offset), c') := by
    simp only [readBraced, if_pos hbrace, bind, Except.bind, if_neg hne, hs, hpeek]
    rcases ha with rfl | rfl | rfl | rfl <;> simp [hread]
  rw [hbranch, Token.node, Subject.ref, hname, hstart, hstop]

/-- An edit in braces is read after its subject. -/
theorem Spelling.Rewrite.readBraced_eq_readEdit {name : List Char} {y : Rewrite} {c c' : Cursor}
    (hsound : NameSound name) (hall : c.Reads (Token.edit name y).text c') (hbrace : '}' ∈ c.rest) :
    ∃ d, d.Reads y.text c' ∧ d.offset = c.offset + 2 + byteWidth name ∧
      readBraced c =
        match readEdit c.offset ((⟨name, none⟩ : Subject).ref ⟨c.offset + 2, d.offset⟩)
          y.delimiter d with
        | .error f => .error f
        | .ok (e, c') => .ok (.edit e, c') := by
  let x : Subject := ⟨name, none⟩
  have hx : x.Sound := hsound.subject
  have htext : x.text = name := Subject.text_name name
  have hends : x.Ends (y.text ++ c'.rest) := by
    rw [Rewrite.text]
    cases y.delimiter <;> exact Subject.ends_cons (by decide) (by decide)
  obtain ⟨d, hopen, hreads, hv, hname, hne, hs⟩ := Subject.read_in_braces hx
    (show c.Reads ('$' :: '{' :: (x.text ++ y.text)) c' by rw [htext]; exact hall) hends
  have hpeek : d.peek? = some y.delimiter.toChar := hv.peek
  have hstart : (c.skip 2).offset = c.offset + 2 := hopen.offset
  refine ⟨d, hv, by rw [hreads.offset, hstart, htext], ?_⟩
  have hnone : x.brackets.map Brackets.value = none := rfl
  simp only [readBraced, if_pos hbrace, bind, Except.bind, if_neg hne, hs, hnone, hpeek]
  rw [Subject.ref, hname, hstart, hnone]
  cases y.delimiter
  · cases readEdit c.offset _ .slash d <;> rfl
  · cases readEdit c.offset _ .bar d <;> rfl

theorem Spelling.Rewrite.readBraced_eq {name : List Char} {y : Rewrite} {c c' : Cursor}
    (hsound : NameSound name) (hy : y.Sound) (hall : c.Reads (Token.edit name y).text c')
    (hbrace : '}' ∈ c.rest) : readBraced c = .ok ((Token.edit name y).node c.offset, c') := by
  obtain ⟨d, hv, hstop, hread⟩ := Rewrite.readBraced_eq_readEdit hsound hall hbrace
  rw [hread, Rewrite.readEdit_eq hy hv, Token.node, ← hstop]

/-- A sound token in braces is read as its node. -/
theorem Spelling.Token.readBraced_eq {t : Token} {c c' : Cursor} (hb : t.InBraces) (ht : t.Sound)
    (hall : c.Reads t.text c') : readBraced c = .ok (t.node c.offset, c') := by
  have hbrace : '}' ∈ c.rest := by
    obtain ⟨-, -, hmem⟩ := t.exists_text hb
    rw [hall.rest]
    exact List.mem_append_left _ hmem
  rcases t with (name | x) | ⟨x, y⟩ | ⟨name, y⟩
  · exact hb.elim
  · exact Subject.readBraced_eq ht hall hbrace
  · exact Choice.readBraced_eq ht.1 ht.2 hall hbrace
  · exact Rewrite.readBraced_eq ht.1 ht.2 hall hbrace

end Stencil
