import Stencil.Template.Basic

/-!
# Errors of templates

Why a template does not compile or expand, and the wording of each reason. A fault is a reason with
the byte offset it is reported at; the message of a fault shows the line it is on, with a caret
under the offending character.
-/

namespace Stencil

/-- What is wrong with the text of a template. -/
inductive Reason
  | unterminated
  | missingName
  | unexpectedCharacter (c : Char)
  | editOfSubscript
  | emptySubscript
  | invalidSubscript
  | missingDigits
  | subscriptRange
  | stride
  | missingComparison
  | missingQuestionMark
  | missingColon
  | missingBrace
  | singleQuotes
  | missingString
  | unterminatedString
  | emptyPattern
  | unknownFlag (c : Char)
  | badPattern (pattern explanation : String)
  | missingGroup (group : Nat) (pattern : String) (groups : Nat)
  deriving DecidableEq, Repr

/-- The wording of a reason. -/
def Reason.message : Reason → String
  | .unterminated => "unterminated \"$\x7b\""
  | .missingName => "expected a variable name after \"$\x7b\""
  | .unexpectedCharacter c => "unexpected character '" ++ c.toString ++ "' in variable reference"
  | .editOfSubscript => "an inline edit cannot be applied to a subscripted variable"
  | .emptySubscript => "empty subscript"
  | .invalidSubscript => "invalid subscript; expected a number, ':' or ']'"
  | .missingDigits => "expected digits after '-' in subscript"
  | .subscriptRange => "subscript is out of range"
  | .stride => "slice stride is not supported"
  | .missingComparison => "expected \"==\" or \"!=\" in conditional substitution"
  | .missingQuestionMark => "expected '?' after the comparison string"
  | .missingColon => "expected ':' after the true branch"
  | .missingBrace => "expected '\x7d' to close conditional substitution"
  | .singleQuotes => "strings must be enclosed in double quotes, not single quotes"
  | .missingString => "expected a double-quoted string"
  | .unterminatedString => "unterminated string"
  | .emptyPattern => "empty regular expression in inline edit"
  | .unknownFlag c => "unknown inline edit flag '" ++ c.toString ++ "'; expected 'i' or 'g'"
  | .badPattern p explanation => "bad regular expression \"" ++ p ++ "\": " ++ explanation
  | .missingGroup g p n =>
    "replacement refers to non-existent group $" ++ toString g ++
      " (pattern \"" ++ p ++ "\" has " ++ toString n ++ " group(s))"

/-- A reason and the byte offset it is reported at. -/
structure Fault where
  position : Nat
  reason : Reason
  deriving DecidableEq, Repr

/-- Why a template cannot be compiled, expanded or read. -/
inductive TemplateError
  | parse (template : String) (fault : Fault)
  | undefinedVariable (name : String) (template : String)
  | invalidDestination (destination : String)
  | unreadable (cause : String)
  deriving DecidableEq, Repr

/-- The characters of the last line of a text. -/
def lastLine (cs : List Char) : List Char :=
  (cs.reverse.takeWhile (· != '\n')).reverse

/-- The characters of the first line of a text. -/
def firstLine (cs : List Char) : List Char :=
  cs.takeWhile (· != '\n')

/-- The line that holds a byte offset, and the number of its characters before the offset. -/
def lineAt (template : String) (position : Nat) : String × Nat :=
  let before := lastLine (takeBytes position template.toList)
  let after := firstLine (dropBytes position template.toList)
  (String.ofList (before ++ after), before.length)

/-- A run of blanks. -/
def blanks (n : Nat) : String :=
  String.ofList (List.replicate n ' ')

/-- The message of an error, in full. -/
def TemplateError.message : TemplateError → String
  | .parse template fault =>
    let line := lineAt template fault.position
    "Failed to parse \"" ++ template ++ "\": " ++ fault.reason.message ++ "\n    " ++ line.1 ++
      "\n    " ++ blanks line.2 ++ "^"
  | .undefinedVariable name template =>
    "Undefined variable \"" ++ name ++ "\" in \"" ++ template ++ "\""
  | .invalidDestination destination =>
    "The \"@\" character is not allowed in destinations: \"" ++ destination ++ "\""
  | .unreadable cause => "I/O error: " ++ cause

end Stencil
