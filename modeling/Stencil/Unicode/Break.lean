import Stencil.Unicode.Property

/-!
# Breaks

What a character does where a text is broken into graphemes, words or sentences. Most classes are
composed of other sets of characters; tables hold the exceptions. A class without a name here has no
characters, or all that are in no other class.
-/

namespace Stencil.Unicode.Break

open Property Category

/-- Ends a line together with a line feed. -/
def carriageReturn : Ranges := .ofText "D"

/-- Ends a line. -/
def lineFeed : Ranges := .ofText "A"

/-- Joins what is before it and what is after it. -/
def joiner : Ranges := .ofText "200D"

/-! ## Graphemes -/

namespace Grapheme

/-- Controls and format characters that stand alone. -/
def control : Ranges := .ofLines [
    "0-9 B-C E-1F 7F-9F AD 61C 180E 200B 200E-200F 2028-202E 2060-206F FEFF FFF0-FFFB 13430-1343F",
    "1BCA0-1BCA3 1D173-1D17A E0000-E001F E0080-E00FF E01F0-E0FFF"]

/-- Characters that extend the grapheme before them. -/
def extending : Property :=
  .union graphemeExtend (.ranges Binary.emojiModifier)

/-- Characters that the next grapheme is added to. -/
def prepended : Ranges := .ofLines [
    "600-605 6DD 70F 890-891 8E2 D4E 110BD 110CD 111C2-111C3 113D1 1193F 11941 11A3A 11A84-11A89",
    "11D46 11F02"]

/-- Spacing marks that stand alone. -/
def notSpacing : Ranges := .ofLines [
    "102B-102C 1038 1062-1064 1067-106D 1083 1087-108C 108F 109A-109C 1A61 1A63-1A64 AA7B AA7D",
    "11720-11721"]

/-- Marks that take up space after the character they belong to. -/
def spacing : Property :=
  .diff (.union (.ranges spacingMark) (.ranges (.ofText "E33 EB3")))
    (.union graphemeExtend (.ranges notSpacing))

/-- Leading consonants. -/
def leading : Ranges := .ofText "1100-115F A960-A97C"

/-- Vowels. -/
def vowel : Ranges := .ofText "1160-11A7 D7B0-D7C6 16D63 16D67-16D6A"

/-- Trailing consonants. -/
def trailing : Ranges := .ofText "11A8-11FF D7CB-D7FB"

/-- Syllables without a trailing consonant: the first of every 28. -/
def openSyllable : Ranges :=
  ⟨((List.range 399).map fun k => (0xAC00 + 28 * k, 0xAC00 + 28 * k)).toArray⟩

/-- Syllables with a trailing consonant. -/
def closedSyllable : Property :=
  .diff (.ranges (.ofText "AC00-D7A3")) (.ranges openSyllable)

/-- The classes by name. -/
def table : List (String × Property) := [
  ("cn", .ranges control), ("control", .ranges control), ("cr", .ranges carriageReturn),
  ("ex", extending), ("extend", extending), ("l", .ranges leading), ("lf", .ranges lineFeed),
  ("lv", .ranges openSyllable), ("lvt", closedSyllable), ("pp", .ranges prepended),
  ("prepend", .ranges prepended), ("regionalindicator", .ranges Binary.regionalIndicator),
  ("ri", .ranges Binary.regionalIndicator), ("sm", spacing), ("spacingmark", spacing),
  ("t", .ranges trailing), ("v", .ranges vowel), ("zwj", .ranges joiner)]

end Grapheme

/-! ## Words -/

namespace Word

/-- Characters that extend the one before them. -/
def extending : Property :=
  .union mark (.union graphemeExtend (.ranges Binary.emojiModifier))

/-- Format characters that are passed over. -/
def format : Ranges := .ofLines [
    "AD 61C 180E 200E-200F 202A-202E 2060-2064 2066-206F FEFF FFF9-FFFB 13430-1343F 1BCA0-1BCA3",
    "1D173-1D17A E0001"]

/-- Katakana, and what is used with it. -/
def katakana : Property :=
  tables [Script.katakana, .ofText "3031-3035 309B-309C 30A0 30FC FF70"]

/-- Letters that may be followed by quotation marks. -/
def hebrewLetter : Ranges := .ofLines [
    "5D0-5EA 5EF-5F2 FB1D FB1F-FB28 FB2A-FB36 FB38-FB3C FB3E FB40-FB41 FB43-FB44 FB46-FB4F"]

/-- Characters in words that are not alphabetic. -/
def otherLetter : Ranges := .ofLines [
    "2C2-2C5 2D2-2D7 2DE-2DF 2E5-2EB 2ED 2EF-2FF 55A-55C 55E 58A 5F3 70F A708-A716 A720-A721",
    "A789-A78A AB5B"]

/-- Alphabetic characters of scripts in which words are not set apart. -/
def dependent : Ranges := .ofLines [
    "E01-E30 E32-E33 E40-E46 E81-E82 E84 E86-E8A E8C-EA3 EA5 EA7-EB0 EB2-EB3 EBD EC0-EC4 EC6",
    "EDC-EDF 1000-102A 103F 1050-1055 105A-105D 1061 1065-1066 106E-1070 1075-1081 108E 1780-17B3",
    "17D7 17DC 1950-196D 1970-1974 1980-19AB 19B0-19C9 1A20-1A54 1AA7 A9E0-A9E4 A9E6-A9EF",
    "A9FA-A9FE AA60-AA76 AA7A AA7E-AAAF AAB1 AAB5-AAB6 AAB9-AABD AAC0 AAC2 AADB-AADD 11700-1171A",
    "11740-11746"]

/-- Letters of scripts in which words are set apart. -/
def letter : Property :=
  .diff (.union alphabetic (.ranges otherLetter))
    (.union (tables [Binary.ideographic, Script.hiragana, hebrewLetter, dependent])
      (.union katakana extending))

/-- Characters that join letters. -/
def midLetter : Ranges := .ofText "3A B7 387 55F 5F4 2027 FE13 FE55 FF1A"

/-- Characters that join digits. -/
def midNumber : Ranges := .ofText "2C 3B 37E 589 60C-60D 66C 7F8 2044 FE50 FE54 FF0C FF1B"

/-- Characters that join letters or digits. -/
def midLetterOrNumber : Ranges := .ofText "2E 2018-2019 2024 FE52 FF07 FF0E"

/-- Digits, and what numbers begin with. -/
def numeric : Property :=
  tables [decimalNumber, .ofText "600-605 66B 6DD 890-891 8E2 19DA 110BD 110CD"]

/-- Characters that join letters, digits and themselves. -/
def connector : Ranges := .ofText "5F 202F 203F-2040 2054 FE33-FE34 FE4D-FE4F FF3F"

/-- Line ends other than a carriage return and a line feed. -/
def newline : Ranges := .ofText "B-C 85 2028-2029"

/-- Blanks that are kept together. -/
def space : Ranges := .ofText "20 1680 2000-2006 2008-200A 205F 3000"

/-- The classes by name. -/
def table : List (String × Property) := [
  ("aletter", letter), ("cr", .ranges carriageReturn), ("doublequote", .ranges (.ofText "22")),
  ("dq", .ranges (.ofText "22")), ("ex", .ranges connector), ("extend", extending),
  ("extendnumlet", .ranges connector), ("fo", .ranges format), ("format", .ranges format),
  ("hebrewletter", .ranges hebrewLetter), ("hl", .ranges hebrewLetter), ("ka", katakana),
  ("katakana", katakana), ("le", letter), ("lf", .ranges lineFeed),
  ("mb", .ranges midLetterOrNumber), ("midletter", .ranges midLetter),
  ("midnum", .ranges midNumber), ("midnumlet", .ranges midLetterOrNumber),
  ("ml", .ranges midLetter), ("mn", .ranges midNumber), ("newline", .ranges newline),
  ("nl", .ranges newline), ("nu", numeric), ("numeric", numeric),
  ("regionalindicator", .ranges Binary.regionalIndicator), ("ri", .ranges Binary.regionalIndicator),
  ("singlequote", .ranges (.ofText "27")), ("sq", .ranges (.ofText "27")),
  ("wsegspace", .ranges space), ("zwj", .ranges joiner)]

end Word

/-! ## Sentences -/

namespace Sentence

/-- Characters that extend the one before them. -/
def extending : Property :=
  .union mark (.union graphemeExtend (.ranges joiner))

/-- Format characters that are passed over. -/
def format : Ranges := .ofLines [
    "AD 61C 70F 180E 200B 200E-200F 202A-202E 2060-2064 2066-206F FEFF FFF9-FFFB 13430-1343F",
    "1BCA0-1BCA3 1D173-1D17A E0001"]

/-- Lowercase letters of scripts in which sentences begin with a capital. -/
def lower : Property :=
  .diff lowercase (.ranges (.ofText "345 10D0-10FA 10FD-10FF"))

/-- Capitals that sentences begin with. -/
def upper : Property :=
  .diff (.union uppercase (.ranges titlecaseLetter)) (.ranges (.ofText "1C90-1CBA 1CBD-1CBF"))

/-- Letters without case. -/
def letter : Property :=
  .diff (.union alphabetic (.ranges (.ofText "5F3"))) (.union lower (.union upper extending))

/-- Digits, and what numbers begin with. -/
def numeric : Property :=
  .union Word.numeric (.ranges (.ofText "66C"))

/-- Stops that may end a sentence. -/
def ambiguous : Ranges := .ofText "2E 2024 FE52 FF0E"

/-- Marks that end a sentence. -/
def terminal : Property :=
  .diff (.ranges Binary.sentenceTerminal) (.ranges ambiguous)

/-- Brackets and quotation marks. -/
def close : Property :=
  .diff (tables [Binary.quotationMark, openPunctuation, closePunctuation, .ofText
    "275B-2760 2E00-2E0D 2E1C-2E1D 2E20-2E21 1F676-1F678"]) (.ranges (.ofText "FF02 FF07"))

/-- Marks after which a sentence goes on. -/
def continuing : Ranges := .ofLines [
    "2C-2D 3A-3B 37E 55D 60C-60D 7F8 1802 1808 2013-2014 3001 FE10-FE11 FE13-FE14 FE31-FE32",
    "FE50-FE51 FE54-FE55 FE58 FE63 FF0C-FF0D FF1A-FF1B FF64"]

/-- Line ends other than a carriage return and a line feed. -/
def separator : Ranges := .ofText "85 2028-2029"

/-- Blanks. -/
def space : Ranges := .ofText "9 B-C 20 A0 1680 2000-200A 202F 205F 3000"

/-- The classes by name. -/
def table : List (String × Property) := [
  ("at", .ranges ambiguous), ("aterm", .ranges ambiguous), ("cl", close), ("close", close),
  ("cr", .ranges carriageReturn), ("ex", extending), ("extend", extending), ("fo", .ranges format),
  ("format", .ranges format), ("le", letter), ("lf", .ranges lineFeed), ("lo", lower),
  ("lower", lower), ("nu", numeric), ("numeric", numeric), ("oletter", letter),
  ("sc", .ranges continuing), ("scontinue", .ranges continuing), ("se", .ranges separator),
  ("sep", .ranges separator), ("sp", .ranges space), ("st", terminal), ("sterm", terminal),
  ("up", upper), ("upper", upper)]

end Sentence

end Stencil.Unicode.Break
