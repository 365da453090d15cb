import Stencil.Proofs.Bytes.Text

/-!
# Scanning bytes

The readers of a template, at byte offsets. A scanner looks at one byte, at the byte after it or at
a run of bytes, and moves on by their number. Where it needs a character or a name, it cuts the text
at its offset, and it crashes when the text cannot be cut there. A loop that does not move on
crashes too. `Scan.template` scans a whole source.
-/

namespace Stencil

/-- What a scanner gives: a value, a fault, or nothing when it crashes. -/
abbrev Scan (α : Type) : Type := ExceptT Fault Option α

variable [Pattern.Engine]

namespace Scan

section

variable {α : Type}

def crash : Scan α :=
  ExceptT.mk none

def fail (position : Nat) (reason : Reason) : Scan α :=
  ExceptT.mk (some (.error ⟨position, reason⟩))

variable (source : String)

/-- Cuts a text out. -/
def cut (start stop : Nat) : Scan String :=
  match cut? source start stop with
  | some text => pure text
  | none => crash

/-- The bytes from an offset on. -/
def ahead (p : Nat) : Scan (List Char) :=
  if p ≤ source.utf8ByteSize then pure ((bytes source).drop p) else crash

/-- Takes the next character, from the rest of the text. -/
def char (p : Nat) : Scan (Char × Nat) := do
  let rest ← cut source p source.utf8ByteSize
  match rest.toList with
  | [] => crash
  | c :: _ => pure (c, p + c.utf8Size)

/-- Scans pieces up to the byte `close`, and that byte. -/
def upTo (piece : Nat → Scan (α × Nat)) (close : Char) (atEnd : Fault) (p : Nat) :
    Scan (List α × Nat) :=
  match byteAt? source p with
  | none => fail atEnd.position atEnd.reason
  | some b =>
    if b = close then pure ([], p + 1)
    else do
      let (a, q) ← piece p
      if _ : p < q ∧ p < source.utf8ByteSize then
        let (as, r) ← upTo piece close atEnd q
        pure (a :: as, r)
      else crash
termination_by source.utf8ByteSize - p

/-! ## References -/

def name (p : Nat) : Scan (String × Nat) := do
  let stop := runEnd source isNameChar p
  let text ← cut source p stop
  pure (text, stop)

/-- The number that a text stands for, if it fits in 64 bits. -/
def number? (text : String) : Option Int :=
  let i : Int :=
    match text.toList with
    | '-' :: ds => -decimal ds
    | ds => decimal ds
  if isWord i then some i else none

/-- The digits at `start` of a number that starts at `p`. -/
def digits (p start : Nat) : Scan (Option Int × Nat) :=
  let stop := runEnd source Char.isDigit start
  if stop = start then
    if p < start then fail p .missingDigits else pure (none, start)
  else do
    let text ← cut source p stop
    match number? text with
    | some i => pure (some i, stop)
    | none => fail p .subscriptRange

/-- An optional number. -/
def index (p : Nat) : Scan (Option Int × Nat) :=
  digits source p (if byteAt? source p = some '-' then p + 1 else p)

def closing (s : Subscript) (p : Nat) : Scan (Subscript × Nat) :=
  if byteAt? source p = some ']' then pure (s, p + 1) else fail p .invalidSubscript

/-- A subscript at its opening bracket. -/
def subscript (p : Nat) : Scan (Subscript × Nat) := do
  let (start, q) ← index source (p + 1)
  if byteAt? source q = some ':' then do
    let (stop, r) ← index source (q + 1)
    if byteAt? source r = some ':' then fail r .stride
    else closing source (.slice start stop) r
  else
    match start with
    | some i => closing source (.index i) q
    | none =>
      if byteAt? source q = some ']' then fail p .emptySubscript else fail q .invalidSubscript

def subscript? (p : Nat) : Scan (Option Subscript × Nat) :=
  if byteAt? source p = some '[' then do
    let (s, q) ← subscript source p
    pure (some s, q)
  else pure (none, p)

/-- `$name` at the dollar sign. -/
def bare (p : Nat) : Scan (VariableRef × Nat) := do
  let (text, q) ← name source (p + 1)
  pure (⟨text, none, false, ⟨p, q⟩⟩, q)

/-- A simple reference in braces, at the dollar sign. -/
def simple (p : Nat) : Scan (Option (VariableRef × Nat)) := do
  let (text, q) ← name source (p + 2)
  if text = "" then pure none
  else do
    let (s, r) ← subscript? source q
    if byteAt? source r = some '\x7d' then pure (some (⟨text, s, true, ⟨p, r + 1⟩⟩, r + 1))
    else pure none

/-- What the dollar sign at `p` begins: a token in braces or a reference without them. A doubled
dollar sign is a dollar sign, and so is a lone one. -/
def dollar (inBraces : Scan ((Char ⊕ α) × Nat)) (ofRef : VariableRef → α) (p : Nat) :
    Scan ((Char ⊕ α) × Nat) :=
  match byteAt? source (p + 1) with
  | none => pure (.inl '$', p + 1)
  | some b =>
    if b = '$' then pure (.inl '$', p + 2)
    else if b = '\x7b' then inBraces
    else if isNameChar b then do
      let (v, q) ← bare source p
      pure (.inr (ofRef v), q)
    else pure (.inl '$', p + 1)

/-- A reference inside a string or a replacement, at the dollar sign. -/
def nested (ofRef : VariableRef → α) (p : Nat) : Scan ((Char ⊕ α) × Nat) :=
  let inBraces := do
    match ← simple source p with
    | some (v, q) => pure (.inr (ofRef v), q)
    | none => pure (.inl '$', p + 1)
  dollar source inBraces ofRef p

/-! ## Strings -/

/-- A byte that the backslash at `p` escapes, or else the backslash. -/
def escape (escaped : Char → Bool) (p : Nat) : Scan (Char × Nat) :=
  match byteAt? source (p + 1) with
  | none => pure ('\\', p + 1)
  | some b => if escaped b then pure (b, p + 2) else pure ('\\', p + 1)

/-- A character as a piece of running text. -/
def running (c : Scan (Char × Nat)) : Scan ((Char ⊕ α) × Nat) := do
  let (c, q) ← c
  pure (.inl c, q)

/-- A piece of a string or a replacement. `atDollar` scans what a dollar sign begins. -/
def piece (escaped : Char → Bool) (atDollar : Nat → Scan ((Char ⊕ α) × Nat)) (reason : Reason)
    (p : Nat) : Scan ((Char ⊕ α) × Nat) :=
  match byteAt? source p with
  | none => fail p reason
  | some b =>
    if b = '\\' then running (escape source escaped p)
    else if b = '$' then atDollar p
    else running (char source p)

def quotedPiece (p : Nat) : Scan ((Char ⊕ VariableRef) × Nat) :=
  piece source (fun d => d == '"' || d == '$' || d == '\\') (nested source id) .unterminatedString p

/-- A quoted string at its opening quote. -/
def quoted (p : Nat) : Scan (Quoted × Nat) :=
  if byteAt? source p = some '"' then do
    let (pieces, q) ←
      upTo source (quotedPiece source) '"' ⟨p, .unterminatedString⟩ (p + 1)
    pure (⟨Chunk.ofPieces pieces, ⟨p, q⟩⟩, q)
  else if byteAt? source p = some '\'' then fail p .singleQuotes
  else fail p .missingString

/-! ## Ternaries -/

/-- The offset after the blanks. -/
def skipGap (p : Nat) : Nat :=
  runEnd source isGap p

def comparison (p : Nat) : Scan (Comparison × Nat) :=
  if byteAt? source p = some '=' ∧ byteAt? source (p + 1) = some '=' then pure (.equal, p + 2)
  else if byteAt? source p = some '!' ∧ byteAt? source (p + 1) = some '=' then
    pure (.notEqual, p + 2)
  else fail p .missingComparison

def expect (b : Char) (reason : Reason) (p : Nat) : Scan Nat :=
  if byteAt? source p = some b then pure (p + 1) else fail p reason

/-- The rest of a ternary, from after its left side on. -/
def ternary (start : Nat) (lhs : VariableRef) (p : Nat) : Scan (Ternary × Nat) := do
  let (comparison, p) ← comparison source (skipGap source p)
  let (comparand, p) ← quoted source (skipGap source p)
  let p ← expect source '?' .missingQuestionMark (skipGap source p)
  let (ifTrue, p) ← quoted source (skipGap source p)
  let p ← expect source ':' .missingColon (skipGap source p)
  let (ifFalse, p) ← quoted source (skipGap source p)
  let p := skipGap source p
  match byteAt? source p with
  | none => fail start .unterminated
  | some b =>
    if b = '\x7d' then
      pure (⟨lhs, comparison, comparand, ifTrue, ifFalse, ⟨start, p + 1⟩⟩, p + 1)
    else fail p .missingBrace

/-! ## Edits -/

def patternUnit (start : Nat) (delimiter : Char) (p : Nat) : Scan (List Char × Nat) :=
  match byteAt? source p with
  | none => fail start .unterminated
  | some b =>
    if b = '\\' then
      match byteAt? source (p + 1) with
      | none => fail start .unterminated
      | some d =>
        if d = delimiter then pure ([d], p + 2)
        else do
          let (c, q) ← char source (p + 1)
          pure (['\\', c], q)
    else do
      let (c, q) ← char source p
      pure ([c], q)

/-- What a dollar sign begins in a replacement. -/
def filler (p : Nat) : Scan ((Char ⊕ Filler) × Nat) :=
  match byteAt? source (p + 1) with
  | some d =>
    if d.isDigit then pure (.inr (.group (d.toNat - '0'.toNat)), p + 2)
    else nested source .variable p
  | none => nested source .variable p

def replacementPiece (delimiter : Char) (p : Nat) : Scan ((Char ⊕ Filler) × Nat) :=
  piece source (fun d => d == delimiter || d == '$' || d == '\\') (filler source) .unterminated p

/-- The flags of an edit and the closing brace. -/
def flags (start : Nat) (p : Nat) : Scan (EditFlags × Nat) :=
  let isFlag := fun d => d == 'i' || d == 'g'
  let letters := byteRun source isFlag p
  let q := runEnd source isFlag p
  match byteAt? source q with
  | none => fail start .unterminated
  | some b =>
    if b = '\x7d' then pure (⟨letters.contains 'i', letters.contains 'g'⟩, q + 1)
    else do
      let (f, _) ← char source q
      fail q (.unknownFlag f)

/-- The rest of an edit at its first delimiter. -/
def edit (start : Nat) (subject : VariableRef) (delimiter : Delimiter) (p : Nat) :
    Scan (Edit × Nat) := do
  let d := delimiter.toChar
  let patternStart := p + 1
  let (units, p) ←
    upTo source (patternUnit source start d) d ⟨start, .unterminated⟩ patternStart
  let pattern := String.ofList units.flatten
  if units.isEmpty then fail patternStart .emptyPattern
  else do
    let replacementStart := p
    let (pieces, p) ← upTo source (replacementPiece source d) d ⟨start, .unterminated⟩ p
    let (flags, p) ← flags source start p
    let replacement := Chunk.ofPieces pieces
    match Pattern.ofText? flags.ignoreCase pattern with
    | none =>
      fail patternStart (.badPattern pattern (Pattern.Engine.explain flags.ignoreCase pattern))
    | some e =>
      if largestGroup replacement ≤ e.groups then
        pure (⟨subject, delimiter, pattern, replacement, flags.ignoreCase, flags.replaceAll,
          ⟨start, p⟩⟩, p)
      else fail replacementStart (.missingGroup (largestGroup replacement) pattern e.groups)

/-! ## Tokens -/

/-- A token in braces at its dollar sign. -/
def braced (p : Nat) : Scan (Node × Nat) := do
  let rest ← ahead source p
  if '\x7d' ∈ rest then do
    let (text, q) ← name source (p + 2)
    if text = "" then fail (p + 2) .missingName
    else do
      let (s, q) ← subscript? source q
      let inner : VariableRef := ⟨text, s, true, ⟨p + 2, q⟩⟩
      match byteAt? source q with
      | none => fail p .unterminated
      | some b =>
        if b = '\x7d' then pure (.variable ⟨text, s, true, ⟨p, q + 1⟩⟩, q + 1)
        else if b = '/' ∨ b = '|' then
          if s.isSome then fail q .editOfSubscript
          else do
            let (e, q) ← edit source p inner (if b = '/' then .slash else .bar) q
            pure (.edit e, q)
        else if b = ' ' ∨ b = '\t' ∨ b = '=' ∨ b = '!' then do
          let (t, q) ← ternary source p inner q
          pure (.ternary t, q)
        else do
          let (c, _) ← char source q
          fail q (.unexpectedCharacter c)
  else fail p .unterminated

/-- What a backslash or a dollar sign begins at the top level: a character or a token. -/
def special (p : Nat) : Scan ((Char ⊕ Node) × Nat) :=
  if byteAt? source p = some '\\' then
    running (escape source (fun d => d == '$' || d == '\\') p)
  else
    let inBraces := do
      let (n, q) ← braced source p
      pure (.inr n, q)
    dollar source inBraces .variable p

/-- The bytes that begin nothing at the top level. -/
def isPlain (b : Char) : Bool :=
  b != '$' && b != '\\'

/-- Scans the text from an offset on. `run` holds the characters since the last token, in reverse,
and `start` is where they begin. Text up to the next backslash or dollar sign is cut out at once. -/
def nodes (run : List Char) (start p : Nat) : Scan (List Node) := do
  let stop := runEnd source isPlain p
  let text ← cut source p stop
  let run := text.toList.reverse ++ run
  if byteAt? source stop = none then pure (Node.flush run ⟨start, stop⟩ [])
  else do
    let (x, q) ← special source stop
    if _ : p < q ∧ p < source.utf8ByteSize then
      match x with
      | .inl c => nodes (c :: run) start q
      | .inr n => do
        let later ← nodes [] q q
        pure (Node.flush run ⟨start, stop⟩ (n :: later))
    else crash
termination_by source.utf8ByteSize - p

/-- Scans a source. -/
def template : Scan (List Node) :=
  nodes source [] 0 0

end

end Scan

end Stencil
