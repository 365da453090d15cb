import Stencil.Decimal.Double
import Stencil.Decimal.Layout

/-!
# Numbers of documents

The numbers that scalars stand for: whole numbers of 64 bits, with a sign or without, and numbers of
double precision.
-/

namespace Stencil.Yaml

/-- A number. -/
inductive Number
  | integer (value : Int)
  | finite (negative : Bool) (magnitude : Double)
  | infinite (negative : Bool)
  | undefined
  deriving DecidableEq, Repr

namespace Number

/-- Numbers are written with a point from `0.0001` on and below `10 ^ 16`. -/
def layout : Decimal.Layout := ⟨-4, 16⟩

/-- The sign in front of a number. -/
def sign (negative : Bool) : String :=
  if negative then "-" else ""

/-- The text of a number. -/
def text : Number → String
  | .integer i => toString i
  | .finite negative x =>
    sign negative ++ Decimal.write layout (if x.mantissa = 0 then ⟨0, 0⟩ else x.shortest)
  | .infinite negative => sign negative ++ ".inf"
  | .undefined => ".nan"

/-- Whether two numbers are the same key: of equal value and of one kind. -/
def same : Number → Number → Bool
  | .finite n x, .finite m y => x == y && (n == m || x.mantissa == 0)
  | a, b => a == b

/-! ## Reading -/

/-- What a scalar in the form of a whole number stands for. -/
inductive Whole
  | fits (value : Int)
  | tooLong
  deriving DecidableEq, Repr

/-- Whether a text is digits after a needless zero, with a sign or not. Such a text is no number. -/
def hasNeedlessZero (cs : List Char) : Bool :=
  let cs :=
    match cs with
    | '-' :: ds => ds
    | '+' :: ds => ds
    | ds => ds
  match cs with
  | '0' :: d :: ds => (d :: ds).all Char.isDigit
  | _ => false

/-- The number system that a text names at its start, and the digits. -/
def based? : List Char → Option (Nat × List Char)
  | '0' :: 'x' :: cs => some (16, cs)
  | '0' :: 'o' :: cs => some (8, cs)
  | '0' :: 'b' :: cs => some (2, cs)
  | _ => none

/-- Reads digits in the number system that they name, or decimal ones. -/
def digits? (cs : List Char) : Option Nat :=
  match based? cs with
  | some (base, ds) => Decimal.natural? base ds
  | none => Decimal.natural? 10 cs

/-- Reads a whole number. One that needs more than 64 bits is too long, and one that needs more than
128 is not read as a whole number. -/
def whole? (cs : List Char) : Option Whole :=
  if hasNeedlessZero cs then none
  else
    match cs with
    | '-' :: ds =>
      match digits? ds with
      | some n =>
        if n ≤ Nat.pow 2 63 then some (.fits (-(n : Int)))
        else if n ≤ Nat.pow 2 127 then some .tooLong
        else none
      | none => none
    | _ =>
      let ds :=
        match cs with
        | '+' :: ds => ds
        | _ => cs
      match digits? ds with
      | some n =>
        if n < Nat.pow 2 64 then some (.fits n)
        else if n < Nat.pow 2 128 then some .tooLong
        else none
      | none => none

/-- Reads a number with a point or an exponent, after its sign. -/
def finite? (negative : Bool) (cs : List Char) : Option Number := do
  let d ← Decimal.read? cs
  let x ← Double.ofDecimal? d
  pure (.finite negative x)

/-- Reads a number of double precision. One that is too great is none. -/
def real? (cs : List Char) : Option Number :=
  let name := String.ofList
  let isInfinity (cs : List Char) : Bool := [".inf", ".Inf", ".INF"].contains (name cs)
  match cs with
  | '-' :: ds => if isInfinity ds then some (.infinite true) else finite? true ds
  | '+' :: ds => if isInfinity ds then some (.infinite false) else finite? false ds
  | _ =>
    if isInfinity cs then some (.infinite false)
    else if [".nan", ".NaN", ".NAN"].contains (name cs) then some .undefined
    else finite? false cs

end Number

end Stencil.Yaml
