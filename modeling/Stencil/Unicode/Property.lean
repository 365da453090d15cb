import Stencil.Unicode.Category
import Stencil.Unicode.Script
import Stencil.Unicode.Binary

/-!
# Character properties

Sets of characters built from the tables of general categories, scripts and binary properties.
-/

namespace Stencil.Unicode

/-- A set of characters described by tables. -/
inductive Property
  | any
  | ascii
  | ranges (r : Ranges)
  | union (a b : Property)
  | diff (a b : Property)

namespace Property

/-- Whether a character has the property. -/
def contains : Property → Char → Bool
  | .any, _ => true
  | .ascii, c => c.toNat < 128
  | .ranges r, c => r.contains c
  | .union a b, c => a.contains c || b.contains c
  | .diff a b, c => a.contains c && !b.contains c

/-- Joins ranges that touch or overlap, in a list ordered by their first ends. `lo` and `hi` are the
ends of the range before the list. -/
def joinRanges (lo hi : Nat) : List (Nat × Nat) → List (Nat × Nat)
  | [] => [(lo, hi)]
  | (a, b) :: rest =>
    if a ≤ hi + 1 then joinRanges lo (max hi b) rest else (lo, hi) :: joinRanges a b rest

/-- The ranges of the tables that describe a property, joined where they touch, as far as they are
united. -/
def outline : Property → List (Nat × Nat)
  | .any => [(0, 0x10FFFF)]
  | .ascii => [(0, 0x7F)]
  | .ranges r => r.bounds.toList
  | .union a b =>
    match a.outline.merge b.outline fun x y => x.1 ≤ y.1 with
    | [] => []
    | (lo, hi) :: rest => joinRanges lo hi rest
  | .diff a b => a.outline ++ b.outline

/-- The number of ranges that describe a property. -/
def size (p : Property) : Nat :=
  p.outline.length

/-- The union of several tables. -/
def tables : List Ranges → Property
  | [] => .ranges ⟨#[]⟩
  | [r] => .ranges r
  | r :: rs => .union (.ranges r) (tables rs)

open Category

def casedLetter : Property := tables [uppercaseLetter, lowercaseLetter, titlecaseLetter]

def letter : Property := .union casedLetter (tables [modifierLetter, otherLetter])

def mark : Property := tables [nonspacingMark, spacingMark, enclosingMark]

def number : Property := tables [decimalNumber, letterNumber, otherNumber]

def punctuation : Property :=
  tables [connectorPunctuation, dashPunctuation, openPunctuation, closePunctuation,
    initialPunctuation, finalPunctuation, otherPunctuation]

def symbol : Property := tables [mathSymbol, currencySymbol, modifierSymbol, otherSymbol]

def separator : Property := tables [spaceSeparator, lineSeparator, paragraphSeparator]

/-- Every character that has a general category of its own. -/
def assigned : Property :=
  .union letter (.union mark (.union number (.union punctuation (.union symbol
    (.union separator (tables [control, format, privateUse]))))))

def unassigned : Property := .diff .any assigned

/-- Controls, format characters, private use and unassigned code points. -/
def other : Property := .union (tables [control, format, privateUse]) unassigned

def alphabetic : Property := .union letter (tables [letterNumber, Binary.otherAlphabetic])

def lowercase : Property := tables [lowercaseLetter, Binary.otherLowercase]

def uppercase : Property := tables [uppercaseLetter, Binary.otherUppercase]

def cased : Property := .union lowercase (.union uppercase (tables [titlecaseLetter]))

def caseIgnorable : Property :=
  tables [nonspacingMark, enclosingMark, format, modifierLetter, modifierSymbol,
    Binary.otherCaseIgnorable]

def identifierStart : Property :=
  .diff (.union letter (tables [letterNumber, Binary.otherIdentifierStart]))
    (tables [Binary.notIdentifierStart])

def identifierContinue : Property :=
  .union identifierStart
    (tables [nonspacingMark, spacingMark, decimalNumber, connectorPunctuation,
      Binary.otherIdentifierContinue])

def graphemeExtend : Property :=
  tables [nonspacingMark, enclosingMark, Binary.otherGraphemeExtend]

def graphemeBase : Property :=
  .diff assigned
    (.union (tables [control, format, privateUse, lineSeparator, paragraphSeparator])
      graphemeExtend)

def math : Property := tables [mathSymbol, Binary.otherMath]

/-- Characters that are not in lowercase. -/
def lowered : Property :=
  .diff (tables [uppercaseLetter, titlecaseLetter, Binary.otherLowered])
    (tables [Binary.notLowered])

/-- Characters that are not in uppercase. -/
def uppered : Property :=
  .diff (tables [lowercaseLetter, titlecaseLetter, Binary.otherUppered])
    (tables [Binary.notUppered])

/-- Characters that are not in titlecase. -/
def titled : Property :=
  .diff (.union uppered (tables [Binary.otherTitled])) (tables [Binary.notTitled])

/-- Characters that some change of case changes. -/
def casemapped : Property := .union lowered (.union uppered titled)

/-- Characters that case folding changes. -/
def casefolded : Property :=
  .diff (.union lowered (tables [Binary.otherFolded])) (tables [Binary.notFolded])

def whiteSpace : Property := .ranges Binary.whiteSpace

/-- Letters, marks, digits and joining characters: what words are made of. -/
def word : Property :=
  .union alphabetic
    (.union mark (tables [decimalNumber, connectorPunctuation, Binary.joinControl]))

/-- Digits of every script. -/
def digit : Property := .ranges decimalNumber

/-- Characters that stand for themselves when text is quoted: neither controls nor unassigned, and
no blank but the space. -/
def printable : Property :=
  .union (.ranges (.ofText "20")) (.diff assigned
    (.union separator (tables [control, format, privateUse])))

end Property

end Stencil.Unicode
