import Stencil.Text.Cursor
import Stencil.Subscript
import Stencil.Environment

/-!
# Templates

A compiled template is a list of nodes. A node is literal text, a reference to a variable, a choice
between two strings, or an edit of a variable's value by a pattern. Every node, and every reference
and string inside one, carries the span of the source it was read from.
-/

namespace Stencil

/-- A name, with the subscript applied to its value and the way the reference was written. -/
structure VariableRef where
  name : String
  subscript : Option Subscript
  braced : Bool
  span : Span
  deriving DecidableEq, Repr

/-- A piece of running text, or a token embedded in it. -/
inductive Chunk (α : Type)
  | text (s : String)
  | token (a : α)
  deriving DecidableEq, Repr

structure Quoted where
  segments : List (Chunk VariableRef)
  span : Span
  deriving DecidableEq, Repr

inductive Comparison
  | equal
  | notEqual
  deriving DecidableEq, Repr

/-- A choice between two texts, `${lhs == "comparand" ? "ifTrue" : "ifFalse"}`, or the same with
`!=`. -/
structure Ternary where
  lhs : VariableRef
  comparison : Comparison
  comparand : Quoted
  ifTrue : Quoted
  ifFalse : Quoted
  span : Span
  deriving DecidableEq, Repr

/-- The character that separates the parts of an edit. -/
inductive Delimiter
  | slash
  | bar
  deriving DecidableEq, Repr

def Delimiter.toChar : Delimiter → Char
  | .slash => '/'
  | .bar => '|'

/-- What a replacement takes from elsewhere: a group of the match, or a variable. -/
inductive Filler
  | group (n : Nat)
  | variable (v : VariableRef)
  deriving DecidableEq, Repr

/-- A replacement of what a pattern matches, `${subject/pattern/replacement/flags}`, or the same
with bars. -/
structure Edit where
  subject : VariableRef
  delimiter : Delimiter
  pattern : String
  replacement : List (Chunk Filler)
  ignoreCase : Bool
  replaceAll : Bool
  span : Span
  deriving DecidableEq, Repr

inductive Node
  | literal (text : String) (span : Span)
  | variable (v : VariableRef)
  | ternary (t : Ternary)
  | edit (e : Edit)
  deriving DecidableEq, Repr

/-- Whether a character may stand in a name: an ASCII letter, an ASCII digit or an underscore. -/
def isNameChar (c : Char) : Bool :=
  c.isAlphanum || c == '_'

/-- Whether a text is a name: not empty and made of name characters. -/
def isName (s : String) : Bool :=
  !s.toList.isEmpty && s.toList.all isNameChar

/-- Joins running characters into texts. `run` holds the characters met since the last token, in
reverse. -/
def Chunk.gather {α : Type} (run : List Char) : List (Char ⊕ α) → List (Chunk α)
  | [] => flush run []
  | .inl c :: rest => gather (c :: run) rest
  | .inr a :: rest => flush run (.token a :: gather [] rest)
where
  /-- A run becomes one text, unless it is empty. -/
  flush : List Char → List (Chunk α) → List (Chunk α)
    | [], chunks => chunks
    | c :: cs, chunks => .text (String.ofList (c :: cs).reverse) :: chunks

/-- The chunks of a sequence of characters and tokens: no text is empty and no two are adjacent. -/
def Chunk.ofPieces {α : Type} (pieces : List (Char ⊕ α)) : List (Chunk α) :=
  gather [] pieces

def Quoted.names (q : Quoted) : List String :=
  q.segments.filterMap fun
    | .text _ => none
    | .token v => some v.name

def Filler.names (parts : List (Chunk Filler)) : List String :=
  parts.filterMap fun
    | .token (.variable v) => some v.name
    | _ => none

namespace Node

/-- The bytes of the source that a node was read from. -/
def span : Node → Span
  | .literal _ s => s
  | .variable v => v.span
  | .ternary t => t.span
  | .edit e => e.span

/-- Every name that a node mentions, in the order of the source. -/
def names : Node → List String
  | .literal _ _ => []
  | .variable v => [v.name]
  | .ternary t => t.lhs.name :: (t.comparand.names ++ (t.ifTrue.names ++ t.ifFalse.names))
  | .edit e => e.subject.name :: Filler.names e.replacement

end Node

/-- A compiled template: its nodes and the text they were read from. -/
structure Template where
  source : String
  nodes : List Node
  deriving DecidableEq, Repr

/-- The distinct names that a template mentions, in the order of first use. -/
def Template.variableNames (t : Template) : List String :=
  Environment.distinct (t.nodes.flatMap Node.names)

end Stencil
