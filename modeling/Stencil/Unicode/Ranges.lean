/-!
# Ranges of code points

A table of a character property lists ranges of code points in increasing order. Membership is by
bisection, so a look-up in a table of several hundred ranges stays short.
-/

namespace Stencil.Unicode

/-- Ranges of code points, in increasing order; both ends of a range belong to it. -/
structure Ranges where
  bounds : Array (Nat × Nat)
  deriving DecidableEq, Repr

namespace Ranges

instance : Inhabited Ranges := ⟨⟨#[]⟩⟩

/-- The value of a hexadecimal digit. -/
def hexDigit? (c : Char) : Option Nat :=
  if '0' ≤ c ∧ c ≤ '9' then some (c.toNat - '0'.toNat)
  else if 'a' ≤ c ∧ c ≤ 'f' then some (c.toNat - 'a'.toNat + 10)
  else if 'A' ≤ c ∧ c ≤ 'F' then some (c.toNat - 'A'.toNat + 10)
  else none

/-- Reads ranges written in hexadecimal as `lo-hi` or, of one code point, as `lo`, with blanks
between them. `lo` is the first end of the range being read and `n` the number being read. -/
def read (lo : Option Nat) (n : Nat) : List Char → List (Nat × Nat)
  | [] => [(lo.getD n, n)]
  | c :: cs =>
    match hexDigit? c with
    | some d => read lo (16 * n + d) cs
    | none => if c = '-' then read (some n) 0 cs else (lo.getD n, n) :: read none 0 cs

/-- The ranges that a text lists. -/
def ofText (text : String) : Ranges :=
  ⟨(read none 0 text.toList).toArray⟩

/-- The ranges that several texts list. -/
def ofLines (lines : List String) : Ranges :=
  ⟨(lines.flatMap fun line => read none 0 line.toList).toArray⟩

/-- Whether `n` lies in one of the ranges numbered `lo` to `hi - 1`. -/
def bisect (r : Ranges) (n lo hi : Nat) : Bool :=
  if lo < hi then
    let mid := (lo + hi) / 2
    match r.bounds[mid]? with
    | none => false
    | some (a, b) =>
      if n < a then bisect r n lo mid
      else if b < n then bisect r n (mid + 1) hi
      else true
  else false
termination_by hi - lo

/-- Whether a character belongs to one of the ranges. -/
def contains (r : Ranges) (c : Char) : Bool :=
  r.bisect c.toNat 0 r.bounds.size

end Ranges

end Stencil.Unicode
