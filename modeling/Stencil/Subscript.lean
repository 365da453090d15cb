/-!
# Subscripts

`[i]` selects one character of a value and `[i:j]` a range of them. Positions count characters, a
negative one counts from the end, and one outside the value is moved to the nearer end.
-/

namespace Stencil

/-- An index, or a range whose missing bounds are the ends of the value. -/
inductive Subscript
  | index (i : Int)
  | slice (start stop : Option Int)
  deriving DecidableEq, Repr

namespace Subscript

/-- A position in a value of `n` characters, counted from the end when negative. -/
def fromEnd (n : Nat) (i : Int) : Int :=
  if i < 0 then n + i else i

/-- The bound of a range, moved into `0..n`. -/
def bound (n : Nat) (i : Int) : Nat :=
  min (fromEnd n i).toNat n

def select (cs : List Char) : Subscript → List Char
  | .index i => (cs.drop (min (fromEnd cs.length i).toNat (cs.length - 1))).take 1
  | .slice start stop =>
    let a := bound cs.length (start.getD 0)
    let b := bound cs.length (stop.getD cs.length)
    (cs.drop a).take (b - a)

/-- The selected part of a value; of the empty value always the empty text. -/
def apply (s : Subscript) (value : String) : String :=
  String.ofList (s.select value.toList)

end Subscript

end Stencil
