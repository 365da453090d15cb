import Stencil.Yaml.Value
import Stencil.Unicode.Property

/-!
# Descriptions of values

How a value is shown in messages: each part with its kind, and texts in quotes with escapes for what
cannot be seen.
-/

namespace Stencil.Yaml.Description

open Unicode (Property)

/-- Writes a code point as an escape of hexadecimal digits. -/
def codePoint (c : Char) : List Char :=
  ['\\', 'u', '\x7b'] ++ Nat.toDigits 16 c.toNat ++ ['\x7d']

/-- A character in quotes. -/
def character (c : Char) : List Char :=
  match c with
  | '\x00' => ['\\', '0']
  | '\t' => ['\\', 't']
  | '\n' => ['\\', 'n']
  | '\r' => ['\\', 'r']
  | '"' => ['\\', '"']
  | '\\' => ['\\', '\\']
  | _ =>
    if Property.printable.contains c && !Property.graphemeExtend.contains c then [c]
    else codePoint c

/-- A text in quotes. -/
def quoted (text : String) : String :=
  String.ofList ('"' :: text.toList.flatMap character ++ ['"'])

/-- Parts with commas between them. -/
def separated (parts : List String) : String :=
  ", ".intercalate parts

/-- The name of a tag, with its mark. -/
def tag (name : String) : String :=
  "!" ++ name

mutual

/-- Describes a value. -/
def value : Value → String
  | .null => "Null"
  | .bool b => "Bool(" ++ toString b ++ ")"
  | .number n => "Number(" ++ n.text ++ ")"
  | .string s => "String(" ++ quoted s ++ ")"
  | .sequence vs => "Sequence [" ++ separated (values vs) ++ "]"
  | .mapping ps => "Mapping \x7b" ++ separated (pairs ps) ++ "\x7d"
  | .tagged t v => "TaggedValue \x7b tag: " ++ tag t ++ ", value: " ++ value v ++ " \x7d"

/-- Describes several values. -/
def values : List Value → List String
  | [] => []
  | v :: vs => value v :: values vs

/-- Describes the pairs of a mapping. Keys that are truth values, numbers and texts stand alone. -/
def pairs : List (Value × Value) → List String
  | [] => []
  | (k, v) :: ps =>
    let key :=
      match k with
      | .bool b => toString b
      | .number n => n.text
      | .string s => quoted s
      | k => value k
    (key ++ ": " ++ value v) :: pairs ps

end

end Stencil.Yaml.Description
