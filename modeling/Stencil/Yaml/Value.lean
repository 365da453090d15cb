import Stencil.Yaml.Node
import Stencil.Yaml.Number

/-!
# Values

What a node stands for: nothing, a truth value, a number, a text, or a collection of values, each
perhaps under a tag of the application. Aliases are followed, and a plain scalar is what its
spelling says, unless a tag says otherwise.
-/

namespace Stencil.Yaml

/-- A value. -/
inductive Value
  | null
  | bool (value : Bool)
  | number (value : Number)
  | string (text : String)
  | sequence (items : List Value)
  | mapping (pairs : List (Value × Value))
  | tagged (tag : String) (value : Value)
  deriving Repr

namespace Value

/-- The spellings of nothing. -/
def isNull (text : String) : Bool :=
  ["~", "null", "Null", "NULL"].contains text

/-- Reads a truth value. -/
def bool? (text : String) : Option Bool :=
  if ["true", "True", "TRUE"].contains text then some true
  else if ["false", "False", "FALSE"].contains text then some false
  else none

/-- The value of a plain scalar, which there is none of for whole numbers that are too long. -/
def ofPlain? (text : String) : Option Value :=
  if text.isEmpty || isNull text then some .null
  else
    match bool? text with
    | some b => some (.bool b)
    | none =>
      let cs := text.toList
      match Number.whole? cs with
      | some (.fits i) => some (.number (.integer i))
      | some .tooLong => none
      | none =>
        match (if Number.hasNeedlessZero cs then none else Number.real? cs) with
        | some x => some (.number x)
        | none => some (.string text)

/-- The beginning of the tags that documents may use without saying so. -/
def coreTag : String := "tag:yaml.org,2002:"

/-- The value of a scalar under a tag of the core schema, or of a scalar without a tag. Other tags
make a text. -/
def ofScalar? (tag : Option String) (text : String) (plain : Bool) : Option Value :=
  match tag with
  | none => if plain then ofPlain? text else some (.string text)
  | some t =>
    if t = coreTag ++ "bool" then (bool? text).map .bool
    else if t = coreTag ++ "int" then
      match Number.whole? text.toList with
      | some (.fits i) => some (.number (.integer i))
      | _ => none
    else if t = coreTag ++ "float" then (Number.real? text.toList).map .number
    else if t = coreTag ++ "null" then if isNull text then some .null else none
    else some (.string text)

/-- The name of a tag of the application: what stands after its exclamation mark. -/
def localTag? (tag : Option String) : Option String := do
  match (← tag).toList with
  | '!' :: cs => pure (if cs.isEmpty then "!" else String.ofList cs)
  | _ => none

mutual

/-- Whether two values are the same key. The order of a mapping does not matter. -/
def same : Value → Value → Bool
  | .null, .null => true
  | .bool a, .bool b => a == b
  | .number a, .number b => a.same b
  | .string a, .string b => a == b
  | .sequence xs, .sequence ys => sameItems xs ys
  | .mapping ps, .mapping qs => ps.length == qs.length && samePairs ps qs
  | .tagged t a, .tagged u b => t == u && same a b
  | _, _ => false

/-- Whether two lists hold the same values. -/
def sameItems : List Value → List Value → Bool
  | [], [] => true
  | x :: xs, y :: ys => same x y && sameItems xs ys
  | _, _ => false

/-- Whether every pair of a mapping is also in another one. -/
def samePairs : List (Value × Value) → List (Value × Value) → Bool
  | [], _ => true
  | (k, v) :: ps, qs => qs.any (fun q => same k q.1 && same v q.2) && samePairs ps qs

end

end Value

end Stencil.Yaml
