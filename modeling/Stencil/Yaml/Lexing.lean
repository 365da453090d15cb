import Stencil.Yaml.Scalar

/-!
# From text to tokens

A text is read from left to right into tokens. Two things make the order of the tokens differ from
the order of the characters. A deeper column opens a block collection and a shallower one closes it;
and a piece that turns out to be a key, since a colon follows it in the same line, gets a `key`
token, and maybe the start of a mapping, in front of it. Until then it is kept as a possible key.
-/

namespace Stencil.Yaml

/-- A piece that may turn out to be a key: where its tokens start and where it stands. A required
key is one in the column of its mapping. -/
structure PossibleKey where
  required : Bool
  token : Nat
  index : Nat
  line : Nat
  column : Nat

/-- The state of reading. `indent` is the column of the innermost block collection, and `-1` outside
of all; `keys` holds a possible key for every open flow collection and one for the block level, the
innermost first. -/
structure Lexer where
  place : Place
  keyAllowed : Bool
  indent : Int
  indents : List Int
  keys : List (Option PossibleKey)
  tokens : Array Token

/-- A part of the reading, which fails on malformed text. -/
abbrev Lex := StateT Lexer Option

namespace Lex

/-- Fails. -/
def refuse {α : Type} : Lex α := fun _ => none

/-- Fails unless a condition holds. -/
def demand (p : Prop) [Decidable p] : Lex Unit :=
  if p then pure () else refuse

/-- The current place. -/
def place : Lex Place := do
  return (← get).place

/-- Goes on to another place. -/
def goTo (p : Place) : Lex Unit :=
  modify fun s => { s with place := p }

/-- Whether a flow collection is open. -/
def inFlow : Lex Bool := do
  return (← get).keys.length > 1

/-- Adds a token at the end. -/
def emit (t : Token) : Lex Unit :=
  modify fun s => { s with tokens := s.tokens.push t }

/-- Puts a token in front of those from number `n` on. -/
def emitAt (n : Nat) (t : Token) : Lex Unit :=
  modify fun s => { s with tokens := s.tokens.insertIdx! (min n s.tokens.size) t }

/-- Allows or forbids a key to start at the next piece. -/
def allowKey (allowed : Bool) : Lex Unit :=
  modify fun s => { s with keyAllowed := allowed }

/-- Forgets the possible key of the innermost level; it must not be a required one. -/
def dropKey : Lex Unit := do
  let s ← get
  match s.keys with
  | some k :: rest =>
    demand (!k.required)
    set { s with keys := none :: rest }
  | _ => pure ()

/-- Notes that the next piece may be a key. -/
def saveKey : Lex Unit := do
  let s ← get
  if s.keyAllowed then
    dropKey
    let key : PossibleKey :=
      ⟨s.keys.length == 1 && s.indent == s.place.column, s.tokens.size, s.place.index,
        s.place.line, s.place.column⟩
    modify fun s => { s with keys := some key :: s.keys.drop 1 }

/-- Forgets the possible keys that stand too far back: a key is in one line and has at most 1024
characters. -/
def dropStaleKeys : Lex Unit := do
  let s ← get
  let isStale (k : PossibleKey) : Bool :=
    k.line < s.place.line || k.index + 1024 < s.place.index
  demand (s.keys.all fun k => k.all fun k => !(isStale k && k.required))
  set { s with keys := s.keys.map (Option.filter fun k => !isStale k) }

/-- Opens a block collection when the column is deeper than the one around; `n` is the number of the
token that it starts before. -/
def deepen (column : Nat) (n : Option Nat) (start : Token) : Lex Unit := do
  let s ← get
  if !(← inFlow) && s.indent < column then
    set { s with indent := column, indents := s.indent :: s.indents }
    match n with
    | some n => emitAt n start
    | none => emit start

/-- The block collections that end at a column, one after the other. -/
def shallowerThan (column : Int) : (indent : Int) → List Int → Nat × Int × List Int
  | indent, [] => (0, indent, [])
  | indent, outer :: rest =>
    if column < indent then
      let (n, indent, rest) := shallowerThan column outer rest
      (n + 1, indent, rest)
    else (0, indent, outer :: rest)

/-- Closes the block collections that are deeper than a column. -/
def closeDeeper (column : Int) : Lex Unit := do
  if !(← inFlow) then
    let s ← get
    let (n, indent, indents) := shallowerThan column s.indent s.indents
    set { s with indent := indent, indents := indents }
    for _ in List.range n do
      emit .blockEnd

/-! ## Single tokens -/

/-- Skips white space, comments and line breaks. A line break in block context allows a key, and a
tab is no indentation. -/
def skipToToken : (fuel : Nat) → Lex Unit
  | 0 => pure ()
  | fuel + 1 => do
    let s ← get
    let p := s.place
    let flow ← inFlow
    match p.peek? with
    | none => pure ()
    | some c =>
      if c == ' ' || (c == '\t' && (flow || !s.keyAllowed)) || (c == '\ufeff' && p.column == 0) then
        goTo p.next
        skipToToken fuel
      else if c == '#' then
        goTo (skipComment p)
        skipToToken fuel
      else if isBreak c then
        goTo p.nextLine
        if !flow then allowKey true
        skipToToken fuel
      else pure ()

/-- A token of `n` characters that can neither be nor follow a key. -/
def mark (n : Nat) (t : Token) : Lex Unit := do
  closeDeeper (-1)
  dropKey
  allowKey false
  emit t
  goTo ((← place).skip n)

/-- Reads a decimal number of at most nine digits. -/
def number? (p : Place) : Option (Nat × Place) :=
  let ds := p.rest.takeWhile Char.isDigit
  if ds.isEmpty || ds.length > 9 then none
  else some (ds.foldl (fun n d => 10 * n + (d.toNat - '0'.toNat)) 0, p.skip ds.length)

/-- The handle of a tag: `!`, `!!` or a word between exclamation marks. Without the second mark what
is read is no handle, but may begin a tag. -/
def handle? (p : Place) : Option (List Char × Place) := do
  guard (p.peek? = some '!')
  let word := p.next.rest.takeWhile isNamePart
  let q := p.next.skip word.length
  if q.peek? = some '!' then pure ('!' :: word ++ ['!'], q.next) else pure ('!' :: word, q)

/-- Whether a character can stand in a tag; a verbatim tag may hold more. -/
def isTagChar (verbatim : Bool) (c : Char) : Bool :=
  isNamePart c || ";/?:@&=+$.!~*'()%".toList.contains c ||
    (verbatim && [',', '[', ']'].contains c)

/-- One byte written as a percent sign and two hexadecimal digits. -/
def percentByte? (cs : List Char) : Option Nat := do
  match cs with
  | '%' :: a :: b :: _ =>
    let a ← Unicode.Ranges.hexDigit? a
    let b ← Unicode.Ranges.hexDigit? b
    pure (16 * a + b)
  | _ => none

/-- Reads the bytes that continue a character. -/
def percentTail? : (n : Nat) → (value : Nat) → Place → Option (Nat × Place)
  | 0, value, p => some (value, p)
  | n + 1, value, p => do
    let b ← percentByte? p.rest
    guard (b / 64 = 2)
    percentTail? n (64 * value + b % 64) (p.skip 3)

/-- Reads a character written as percent signs and bytes. -/
def percent? (p : Place) : Option (Char × Place) := do
  let b ← percentByte? p.rest
  let (n, value) ←
    if b < 128 then some (0, b)
    else if b / 32 = 6 then some (1, b % 32)
    else if b / 16 = 14 then some (2, b % 16)
    else if b / 8 = 30 then some (3, b % 8)
    else none
  let (value, p) ← percentTail? n value (p.skip 3)
  if value.isValidChar then pure (Char.ofNat value, p) else none

/-- Reads the characters of a tag, in reverse. -/
def tagText? (verbatim : Bool) : (fuel : Nat) → List Char → Place → Option (List Char × Place)
  | 0, text, p => some (text, p)
  | fuel + 1, text, p =>
    match p.peek? with
    | some c =>
      if c == '%' then do
        let (d, p) ← percent? p
        tagText? verbatim fuel (d :: text) p
      else if isTagChar verbatim c then tagText? verbatim fuel (c :: text) p.next
      else some (text, p)
    | none => some (text, p)

/-- Reads the rest of a tag after what was taken for a handle. -/
def tagRest? (verbatim : Bool) (head : List Char) (p : Place) : Option (String × Place) := do
  let (text, q) ← tagText? verbatim p.rest.length (head.drop 1).reverse p
  guard (!text.isEmpty || !head.isEmpty)
  pure (String.ofList text.reverse, q)

/-- Reads a tag at its exclamation mark. -/
def tag? (flow : Bool) (p : Place) : Option (Token × Place) := do
  let (token, q) ←
    if p.second? = some '<' then do
      let (suffix, q) ← tagRest? true [] (p.skip 2)
      guard (q.peek? = some '>')
      pure (Token.tag "" suffix, q.next)
    else do
      let (head, q) ← handle? p
      if head.length > 1 && head.getLast? == some '!' then do
        let (suffix, q) ← tagRest? false [] q
        pure (Token.tag (String.ofList head) suffix, q)
      else do
        let (suffix, q) ← tagRest? false head q
        pure (if suffix = "" then Token.tag "" "!" else Token.tag "!" suffix, q)
  guard (isBlankOrEnd q.peek? || (flow && q.peek? == some ','))
  pure (token, q)

/-- Reads a directive at its percent sign. -/
def directive? (p : Place) : Option (Token × Place) := do
  let name := p.next.rest.takeWhile isNamePart
  let q := p.next.skip name.length
  guard (!name.isEmpty && isBlankOrEnd q.peek?)
  let (token, q) ←
    match String.ofList name with
    | "YAML" => do
      let (major, q) ← number? (skipBlanks q)
      guard (q.peek? = some '.')
      let (minor, q) ← number? q.next
      pure (Token.version major minor, q)
    | "TAG" => do
      let (head, q) ← handle? (skipBlanks q)
      guard (head = ['!'] || head.getLast? = some '!')
      guard (q.peek?.any isBlank)
      let (beginning, q) ← tagRest? true [] (skipBlanks q)
      guard (isBlankOrEnd q.peek?)
      pure (Token.tagDirective (String.ofList head) beginning, q)
    | _ => none
  let q := skipComment (skipBlanks q)
  guard (isBreakOrEnd q.peek?)
  pure (token, if q.rest.isEmpty then q else q.nextLine)

/-- Reads the name of an anchor or an alias at its indicator. -/
def anchorName? (p : Place) : Option (String × Place) := do
  let name := p.next.rest.takeWhile isNamePart
  let q := p.next.skip name.length
  guard (!name.isEmpty)
  guard (isBlankOrEnd q.peek? ||
    q.peek?.any fun c => ['?', ':', ',', ']', '}', '%', '@', Char.ofNat 96].contains c)
  pure (String.ofList name, q)

/-- Reads a token that may be, or begin, a key. -/
def keyPiece (read : Place → Option (Token × Place)) : Lex Unit := do
  saveKey
  allowKey false
  match read (← place) with
  | some (t, q) =>
    emit t
    goTo q
  | none => refuse

/-- Opens a flow collection. -/
def openFlow (t : Token) : Lex Unit := do
  saveKey
  modify fun s => { s with keys := none :: s.keys }
  allowKey true
  emit t
  goTo (← place).next

/-- Closes a flow collection. -/
def closeFlow (t : Token) : Lex Unit := do
  dropKey
  if ← inFlow then modify fun s => { s with keys := s.keys.drop 1 }
  allowKey false
  emit t
  goTo (← place).next

/-- Reads the indicator of an entry of a block sequence. -/
def blockEntry : Lex Unit := do
  let s ← get
  if !(← inFlow) then
    demand s.keyAllowed
    deepen s.place.column none .blockSequenceStart
  dropKey
  allowKey true
  emit .blockEntry
  goTo (← place).next

/-- Reads the indicator of a key. -/
def explicitKey : Lex Unit := do
  let s ← get
  let flow ← inFlow
  if !flow then
    demand s.keyAllowed
    deepen s.place.column none .blockMappingStart
  dropKey
  allowKey (!flow)
  emit .key
  goTo (← place).next

/-- Reads the indicator of a value. A possible key before it is one. -/
def value : Lex Unit := do
  let s ← get
  match s.keys with
  | some k :: rest =>
    emitAt k.token .key
    deepen k.column (some k.token) .blockMappingStart
    modify fun s => { s with keys := none :: rest }
    allowKey false
  | _ =>
    let flow ← inFlow
    if !flow then
      demand s.keyAllowed
      deepen s.place.column none .blockMappingStart
    allowKey (!flow)
  emit .value
  goTo (← place).next

/-- Reads a block scalar. -/
def blockScalar (literal : Bool) : Lex Unit := do
  dropKey
  allowKey true
  let s ← get
  match blockScalar? literal s.indent s.place with
  | some (text, q) =>
    emit (.scalar text false)
    goTo q
  | none => refuse

/-- Reads a plain scalar. A line break after it allows a key again. -/
def plainScalar : Lex Unit := do
  saveKey
  allowKey false
  let s ← get
  match plainScalar? (← inFlow) (s.indent + 1).toNat s.place with
  | some (text, broken, q) =>
    emit (.scalar text true)
    goTo q
    if broken then allowKey true
  | none => refuse

/-- Whether a plain scalar can start here. -/
def startsPlain (flow : Bool) (p : Place) : Bool :=
  match p.peek? with
  | none => false
  | some c =>
    let indicators := "-?:,[]\x7b\x7d#&*!|>'\"%@\x60".toList
    (!isBlank c && !isBreak c && !indicators.contains c) ||
      (c == '-' && !p.second?.any isBlank) ||
      (!flow && (c == '?' || c == ':') && !isBlankOrEnd p.second?)

/-- Reads the next token; gives whether the text has ended. -/
def next : Lex Bool := do
  skipToToken ((← place).rest.length + 1)
  dropStaleKeys
  let p ← place
  closeDeeper p.column
  let flow ← inFlow
  let blankAfter := isBlankOrEnd p.second?
  match p.peek? with
  | none =>
    closeDeeper (-1)
    dropKey
    emit .streamEnd
    return true
  | some c =>
    if p.column == 0 && c == '%' then
      closeDeeper (-1)
      dropKey
      allowKey false
      match directive? p with
      | some (t, q) =>
        emit t
        goTo q
      | none => refuse
    else if isDocumentMark p then mark 3 (if c == '-' then .documentStart else .documentEnd)
    else if c == '[' then openFlow .flowSequenceStart
    else if c == '{' then openFlow .flowMappingStart
    else if c == ']' then closeFlow .flowSequenceEnd
    else if c == '}' then closeFlow .flowMappingEnd
    else if c == ',' then
      dropKey
      allowKey true
      emit .flowEntry
      goTo p.next
    else if c == '-' && blankAfter then blockEntry
    else if c == '?' && (flow || blankAfter) then explicitKey
    else if c == ':' && (flow || blankAfter) then value
    else if c == '*' then
      keyPiece fun p => (anchorName? p).map fun (name, q) => (.alias name, q)
    else if c == '&' then
      keyPiece fun p => (anchorName? p).map fun (name, q) => (.anchor name, q)
    else if c == '!' then keyPiece (tag? flow)
    else if c == '|' && !flow then blockScalar true
    else if c == '>' && !flow then blockScalar false
    else if c == '\'' || c == '"' then
      keyPiece fun p => (quotedScalar? c p).map fun (text, q) => (.scalar text false, q)
    else if startsPlain flow p then plainScalar
    else refuse
    return false

/-- Reads all tokens. -/
def all : (fuel : Nat) → Lex Unit
  | 0 => refuse
  | fuel + 1 => do
    if ← next then pure () else all fuel

end Lex

/-- The tokens of a text, or `none` where it is malformed. -/
def tokens? (text : String) : Option (Array Token) := do
  let cs :=
    match text.toList with
    | '\ufeff' :: cs => cs
    | cs => cs
  guard (cs.all fun c => isAllowed c)
  let start : Lexer := ⟨.ofText cs, true, -1, [], [none], #[]⟩
  let (_, s) ← (Lex.all (cs.length + 2)).run start
  pure s.tokens

end Stencil.Yaml
