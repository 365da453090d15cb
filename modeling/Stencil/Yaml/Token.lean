/-!
# Tokens of documents

The tokens that a YAML text falls into. Indentation is made explicit by tokens that begin and end
block collections, and keys that are not marked by `?` get their `key` token in front all the same.
-/

namespace Stencil.Yaml

/-- A token. A scalar knows whether it was written plain, without quotes and block indicators. -/
inductive Token
  | version (major minor : Nat)
  | tagDirective (handle beginning : String)
  | documentStart
  | documentEnd
  | streamEnd
  | blockSequenceStart
  | blockMappingStart
  | blockEnd
  | flowSequenceStart
  | flowSequenceEnd
  | flowMappingStart
  | flowMappingEnd
  | blockEntry
  | flowEntry
  | key
  | value
  | alias (name : String)
  | anchor (name : String)
  | tag (handle suffix : String)
  | scalar (text : String) (plain : Bool)
  deriving DecidableEq, Repr

/-- A place in a text: what is left of it, the number of characters before, and the line and the
column from zero. -/
structure Place where
  rest : List Char
  index : Nat
  line : Nat
  column : Nat

namespace Place

/-- The place before the first character. -/
def ofText (text : List Char) : Place :=
  ⟨text, 0, 0, 0⟩

/-- The next character. -/
def peek? (p : Place) : Option Char :=
  p.rest.head?

/-- The character after the next one. -/
def second? (p : Place) : Option Char :=
  p.rest[1]?

/-- The place one character further on, in the same line. -/
def next (p : Place) : Place :=
  ⟨p.rest.drop 1, p.index + 1, p.line, p.column + 1⟩

/-- The place some characters further on, in the same line. -/
def skip (n : Nat) (p : Place) : Place :=
  ⟨p.rest.drop n, p.index + n, p.line, p.column + n⟩

/-- The place after a line break. -/
def nextLine (p : Place) : Place :=
  match p.rest with
  | '\r' :: '\n' :: cs => ⟨cs, p.index + 2, p.line + 1, 0⟩
  | _ => ⟨p.rest.drop 1, p.index + 1, p.line + 1, 0⟩

end Place

/-- Whether a character ends a line. -/
def isBreak (c : Char) : Bool :=
  c == '\n' || c == '\r' || c == '\x85' || c == '\u2028' || c == '\u2029'

/-- Whether a character is a space or a tab. -/
def isBlank (c : Char) : Bool :=
  c == ' ' || c == '\t'

/-- Whether a character is a space, a tab or a line break, or the text has ended. -/
def isBlankOrEnd (c : Option Char) : Bool :=
  c.all fun c => isBlank c || isBreak c

/-- Whether a line has ended. -/
def isBreakOrEnd (c : Option Char) : Bool :=
  c.all isBreak

/-- Whether a character can stand in the name of an anchor, a directive or a tag handle. -/
def isNamePart (c : Char) : Bool :=
  c.isAlphanum || c == '_' || c == '-'

/-- What a line break stands for in a scalar: a line feed, or itself when it is one of the two
separators. -/
def breakChar (c : Char) : Char :=
  if c == '\u2028' || c == '\u2029' then c else '\n'

/-- Whether a text may hold a character at all. -/
def isAllowed (c : Char) : Bool :=
  let n := c.toNat
  n == 0x9 || n == 0xA || n == 0xD || (0x20 ≤ n && n ≤ 0x7E) || n == 0x85 ||
    (0xA0 ≤ n && n ≤ 0xD7FF) || (0xE000 ≤ n && n ≤ 0xFFFD && n != 0xFEFF) || 0x10000 ≤ n

end Stencil.Yaml
