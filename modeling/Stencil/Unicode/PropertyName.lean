import Stencil.Unicode.Age
import Stencil.Unicode.Break
import Stencil.Unicode.ScriptExtensions

/-!
# Names of character properties

The names that sets of characters go by in a pattern: a name alone, or a name with a value. Names
are compared without regard to case, blanks, hyphens, underscores and a leading `is`.
-/

namespace Stencil.Unicode.Property

open Category

/-- General categories by name. -/
def categories : List (String × Property) := [
  ("any", .any), ("assigned", assigned), ("ascii", .ascii),
  ("c", other), ("other", other),
  ("cc", .ranges control), ("control", .ranges control), ("cntrl", .ranges control),
  ("cf", .ranges format), ("format", .ranges format),
  ("cn", unassigned), ("unassigned", unassigned),
  ("co", .ranges privateUse), ("privateuse", .ranges privateUse),
  ("l", letter), ("letter", letter), ("lc", casedLetter), ("casedletter", casedLetter),
  ("lu", .ranges uppercaseLetter), ("uppercaseletter", .ranges uppercaseLetter),
  ("ll", .ranges lowercaseLetter), ("lowercaseletter", .ranges lowercaseLetter),
  ("lt", .ranges titlecaseLetter), ("titlecaseletter", .ranges titlecaseLetter),
  ("lm", .ranges modifierLetter), ("modifierletter", .ranges modifierLetter),
  ("lo", .ranges otherLetter), ("otherletter", .ranges otherLetter),
  ("m", mark), ("mark", mark), ("combiningmark", mark),
  ("mn", .ranges nonspacingMark), ("nonspacingmark", .ranges nonspacingMark),
  ("mc", .ranges spacingMark), ("spacingmark", .ranges spacingMark),
  ("me", .ranges enclosingMark), ("enclosingmark", .ranges enclosingMark),
  ("n", number), ("number", number),
  ("nd", digit), ("decimalnumber", digit), ("digit", digit),
  ("nl", .ranges letterNumber), ("letternumber", .ranges letterNumber),
  ("no", .ranges otherNumber), ("othernumber", .ranges otherNumber),
  ("p", punctuation), ("punctuation", punctuation), ("punct", punctuation),
  ("pc", .ranges connectorPunctuation), ("connectorpunctuation", .ranges connectorPunctuation),
  ("pd", .ranges dashPunctuation), ("dashpunctuation", .ranges dashPunctuation),
  ("ps", .ranges openPunctuation), ("openpunctuation", .ranges openPunctuation),
  ("pe", .ranges closePunctuation), ("closepunctuation", .ranges closePunctuation),
  ("pi", .ranges initialPunctuation), ("initialpunctuation", .ranges initialPunctuation),
  ("pf", .ranges finalPunctuation), ("finalpunctuation", .ranges finalPunctuation),
  ("po", .ranges otherPunctuation), ("otherpunctuation", .ranges otherPunctuation),
  ("s", symbol), ("symbol", symbol),
  ("sm", .ranges mathSymbol), ("mathsymbol", .ranges mathSymbol),
  ("sc", .ranges currencySymbol), ("currencysymbol", .ranges currencySymbol),
  ("sk", .ranges modifierSymbol), ("modifiersymbol", .ranges modifierSymbol),
  ("so", .ranges otherSymbol), ("othersymbol", .ranges otherSymbol),
  ("z", separator), ("separator", separator),
  ("zs", .ranges spaceSeparator), ("spaceseparator", .ranges spaceSeparator),
  ("zl", .ranges lineSeparator), ("lineseparator", .ranges lineSeparator),
  ("zp", .ranges paragraphSeparator), ("paragraphseparator", .ranges paragraphSeparator)]

/-- Binary properties by name. -/
def binaries : List (String × Property) := [
  ("ahex", .ranges Binary.asciiHexDigit), ("asciihexdigit", .ranges Binary.asciiHexDigit),
  ("alpha", alphabetic), ("alphabetic", alphabetic),
  ("bidic", .ranges Binary.bidiControl), ("bidicontrol", .ranges Binary.bidiControl),
  ("bidim", .ranges Binary.bidiMirrored), ("bidimirrored", .ranges Binary.bidiMirrored),
  ("ci", caseIgnorable), ("caseignorable", caseIgnorable), ("cased", cased),
  ("cwcf", casefolded), ("changeswhencasefolded", casefolded), ("cwcm", casemapped),
  ("changeswhencasemapped", casemapped), ("cwl", lowered), ("changeswhenlowercased", lowered),
  ("cwt", titled), ("changeswhentitlecased", titled), ("cwu", uppered),
  ("changeswhenuppercased", uppered),
  ("dash", .ranges Binary.dash),
  ("di", .ranges Binary.defaultIgnorable),
  ("defaultignorablecodepoint", .ranges Binary.defaultIgnorable),
  ("dep", .ranges Binary.deprecated), ("deprecated", .ranges Binary.deprecated),
  ("dia", .ranges Binary.diacritic), ("diacritic", .ranges Binary.diacritic),
  ("emoji", .ranges Binary.emoji),
  ("ecomp", .ranges Binary.emojiComponent), ("emojicomponent", .ranges Binary.emojiComponent),
  ("emod", .ranges Binary.emojiModifier), ("emojimodifier", .ranges Binary.emojiModifier),
  ("ebase", .ranges Binary.emojiModifierBase),
  ("emojimodifierbase", .ranges Binary.emojiModifierBase),
  ("epres", .ranges Binary.emojiPresentation),
  ("emojipresentation", .ranges Binary.emojiPresentation),
  ("extpict", .ranges Binary.extendedPictographic),
  ("extendedpictographic", .ranges Binary.extendedPictographic),
  ("ext", .ranges Binary.extender), ("extender", .ranges Binary.extender),
  ("grbase", graphemeBase), ("graphemebase", graphemeBase),
  ("grext", graphemeExtend), ("graphemeextend", graphemeExtend),
  ("grlink", .ranges Binary.graphemeLink), ("graphemelink", .ranges Binary.graphemeLink),
  ("hex", .ranges Binary.hexDigit), ("hexdigit", .ranges Binary.hexDigit),
  ("hyphen", .ranges Binary.hyphen),
  ("idcompatmathcontinue", .ranges Binary.compatMathContinue),
  ("idcompatmathstart", .ranges Binary.compatMathStart),
  ("idc", identifierContinue), ("idcontinue", identifierContinue),
  ("ideo", .ranges Binary.ideographic), ("ideographic", .ranges Binary.ideographic),
  ("ids", identifierStart), ("idstart", identifierStart),
  ("idsb", .ranges Binary.idsBinaryOperator),
  ("idsbinaryoperator", .ranges Binary.idsBinaryOperator),
  ("idst", .ranges Binary.idsTrinaryOperator),
  ("idstrinaryoperator", .ranges Binary.idsTrinaryOperator),
  ("idsu", .ranges Binary.idsUnaryOperator),
  ("idsunaryoperator", .ranges Binary.idsUnaryOperator),
  ("joinc", .ranges Binary.joinControl), ("joincontrol", .ranges Binary.joinControl),
  ("loe", .ranges Binary.logicalOrderException),
  ("logicalorderexception", .ranges Binary.logicalOrderException),
  ("lower", lowercase), ("lowercase", lowercase), ("math", math),
  ("mcm", .ranges Binary.modifierCombiningMark),
  ("modifiercombiningmark", .ranges Binary.modifierCombiningMark),
  ("nchar", .ranges Binary.noncharacter),
  ("noncharactercodepoint", .ranges Binary.noncharacter),
  ("oalpha", .ranges Binary.otherAlphabetic), ("otheralphabetic", .ranges Binary.otherAlphabetic),
  ("odi", .ranges Binary.otherDefaultIgnorable),
  ("otherdefaultignorablecodepoint", .ranges Binary.otherDefaultIgnorable),
  ("ogrext", .ranges Binary.otherGraphemeExtend),
  ("othergraphemeextend", .ranges Binary.otherGraphemeExtend),
  ("oidc", .ranges Binary.otherIdentifierContinue),
  ("otheridcontinue", .ranges Binary.otherIdentifierContinue),
  ("oids", .ranges Binary.otherIdentifierStart),
  ("otheridstart", .ranges Binary.otherIdentifierStart),
  ("olower", .ranges Binary.otherLowercase), ("otherlowercase", .ranges Binary.otherLowercase),
  ("omath", .ranges Binary.otherMath), ("othermath", .ranges Binary.otherMath),
  ("oupper", .ranges Binary.otherUppercase), ("otheruppercase", .ranges Binary.otherUppercase),
  ("patsyn", .ranges Binary.patternSyntax), ("patternsyntax", .ranges Binary.patternSyntax),
  ("patws", .ranges Binary.patternWhiteSpace),
  ("patternwhitespace", .ranges Binary.patternWhiteSpace),
  ("pcm", .ranges Binary.prependedConcatenationMark),
  ("prependedconcatenationmark", .ranges Binary.prependedConcatenationMark),
  ("qmark", .ranges Binary.quotationMark), ("quotationmark", .ranges Binary.quotationMark),
  ("radical", .ranges Binary.radical),
  ("ri", .ranges Binary.regionalIndicator),
  ("regionalindicator", .ranges Binary.regionalIndicator),
  ("sd", .ranges Binary.softDotted), ("softdotted", .ranges Binary.softDotted),
  ("sterm", .ranges Binary.sentenceTerminal),
  ("sentenceterminal", .ranges Binary.sentenceTerminal),
  ("term", .ranges Binary.terminalPunctuation),
  ("terminalpunctuation", .ranges Binary.terminalPunctuation),
  ("uideo", .ranges Binary.unifiedIdeograph),
  ("unifiedideograph", .ranges Binary.unifiedIdeograph),
  ("upper", uppercase), ("uppercase", uppercase),
  ("vs", .ranges Binary.variationSelector),
  ("variationselector", .ranges Binary.variationSelector),
  ("wspace", whiteSpace), ("whitespace", whiteSpace), ("space", whiteSpace),
  ("xidc", .diff identifierContinue (tables [Binary.notClosedContinue])),
  ("xidcontinue", .diff identifierContinue (tables [Binary.notClosedContinue])),
  ("xids", .diff identifierStart (tables [Binary.notClosedStart])),
  ("xidstart", .diff identifierStart (tables [Binary.notClosedStart]))]

/-- A property name without case, blanks, hyphens, underscores and a leading `is`. -/
def normalize (name : List Char) : String :=
  let lower := name.map Char.toLower
  let isMarked := lower.take 2 == ['i', 's']
  let kept := (if isMarked then lower.drop 2 else lower).filter fun c =>
    c.toNat < 128 && c != ' ' && c != '_' && c != '-'
  if isMarked && kept == ['c'] then "isc" else String.ofList kept

/-- The general category of a name. -/
def category? (name : String) : Option Property :=
  categories.lookup name

/-- The script of a name. -/
def script? (name : String) : Option Property :=
  (Script.table.lookup name).map .ranges

/-- The property that a lone name stands for: a binary property, a general category or a script, in
this order, except that `cf`, `sc` and `lc` are general categories. -/
def named? (name : List Char) : Option Property :=
  let n := normalize name
  (binaries.lookup n).or ((category? n).or (script? n))

/-- The characters that are used in a script. -/
def extended? (name : String) : Option Property :=
  (Script.table.lookup name).map fun script =>
    match ScriptExtensions.shared.lookup name, ScriptExtensions.sharing.lookup name with
    | some more, _ => .union (.ranges script) (.ranges more)
    | none, some less => .diff (.ranges script) (.ranges less)
    | none, none => .ranges script

/-- Whether a name is one of a version: its numbers with a point between them, or after a `v`. -/
def isVersion (name : String) (v : Version) : Bool :=
  name == toString v.major ++ "." ++ toString v.minor ||
    name == "v" ++ toString v.major ++ toString v.minor

/-- The characters that are assigned in a version. -/
def age? (name : String) : Option Property :=
  (versions.findIdx? (isVersion name)).map fun n =>
    tables ((versions.take (n + 1)).map (·.added))

/-- The property that a name with a value stands for. -/
def valued? (name value : List Char) : Option Property :=
  let v := normalize value
  match normalize name with
  | "gc" | "generalcategory" => category? v
  | "sc" | "script" => script? v
  | "scx" | "scriptextensions" => extended? v
  | "age" => age? v
  | "gcb" | "graphemeclusterbreak" => Break.Grapheme.table.lookup v
  | "wb" | "wordbreak" => Break.Word.table.lookup v
  | "sb" | "sentencebreak" => Break.Sentence.table.lookup v
  | _ => none

end Stencil.Unicode.Property
