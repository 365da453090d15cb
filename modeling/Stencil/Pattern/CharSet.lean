import Stencil.Unicode.Property
import Stencil.Unicode.CaseFold

/-!
# Sets of characters

What a character class of a pattern stands for: ranges and properties put together by union,
intersection, difference and complement. A set is closed under case variants by `foldCase`, which
takes every character that has a variant in the set.
-/

namespace Stencil.Pattern

/-- A set of characters. -/
inductive CharSet
  | none
  | range (lo hi : Char)
  | property (p : Unicode.Property)
  | union (a b : CharSet)
  | inter (a b : CharSet)
  | diff (a b : CharSet)
  | symmDiff (a b : CharSet)
  | compl (a : CharSet)
  | foldCase (a : CharSet)
  | foldAscii (a : CharSet)

namespace CharSet

/-- The case variants of a character among the ASCII characters. -/
def asciiVariants (c : Char) : List Char :=
  [c, c.toLower, c.toUpper]

/-- Whether a character belongs to the set. -/
def contains : CharSet → Char → Bool
  | .none, _ => false
  | .range lo hi, c => lo ≤ c && c ≤ hi
  | .property p, c => p.contains c
  | .union a b, c => a.contains c || b.contains c
  | .inter a b, c => a.contains c && b.contains c
  | .diff a b, c => a.contains c && !b.contains c
  | .symmDiff a b, c => a.contains c != b.contains c
  | .compl a, c => !a.contains c
  | .foldCase a, c => (Unicode.variants c).any fun d => a.contains d
  | .foldAscii a, c => (asciiVariants c).any fun d => a.contains d

/-- The set of one character. -/
def single (c : Char) : CharSet := .range c c

/-- The set of the characters of a text. -/
def ofChars : List Char → CharSet
  | [] => .none
  | c :: cs => .union (single c) (ofChars cs)

/-- The number of ranges that the set is built from. -/
def size : CharSet → Nat
  | .none => 0
  | .range _ _ => 1
  | .property p => p.size
  | .union a b => a.size + b.size
  | .inter a b => a.size + b.size
  | .diff a b => a.size + b.size
  | .symmDiff a b => a.size + b.size
  | .compl a => a.size + 1
  | .foldCase a => 2 * a.size
  | .foldAscii a => 2 * a.size

/-- ASCII digits. -/
def asciiDigit : CharSet := .range '0' '9'

/-- ASCII letters. -/
def asciiAlpha : CharSet := .union (.range 'A' 'Z') (.range 'a' 'z')

/-- ASCII letters and digits. -/
def asciiAlnum : CharSet := .union asciiDigit asciiAlpha

/-- ASCII letters, digits and the underscore. -/
def asciiWord : CharSet := .union asciiAlnum (single '_')

/-- ASCII white space. -/
def asciiSpace : CharSet := .union (.range '\t' '\r') (single ' ')

/-- The class between `[:` and `:]`, by name. -/
def posix? (name : List Char) : Option CharSet :=
  match String.ofList name with
  | "alnum" => some asciiAlnum
  | "alpha" => some asciiAlpha
  | "ascii" => some (.range '\x00' '\x7f')
  | "blank" => some (.union (single '\t') (single ' '))
  | "cntrl" => some (.union (.range '\x00' '\x1f') (single '\x7f'))
  | "digit" => some asciiDigit
  | "graph" => some (.range '!' '~')
  | "lower" => some (.range 'a' 'z')
  | "print" => some (.range ' ' '~')
  | "punct" =>
    some (.union (.union (.range '!' '/') (.range ':' '@'))
      (.union (.range '[' (Char.ofNat 96)) (.range (Char.ofNat 123) '~')))
  | "space" => some asciiSpace
  | "upper" => some (.range 'A' 'Z')
  | "word" => some asciiWord
  | "xdigit" => some (.union asciiDigit (.union (.range 'A' 'F') (.range 'a' 'f')))
  | _ => Option.none

end CharSet

/-- Whether a character is a part of a word. -/
def isWordChar (unicode : Bool) (c : Char) : Bool :=
  if unicode then Unicode.Property.word.contains c else CharSet.asciiWord.contains c

end Stencil.Pattern
