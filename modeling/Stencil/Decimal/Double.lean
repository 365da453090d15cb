import Stencil.Decimal.Basic

/-!
# Numbers of double precision

The numbers that 64 bits can hold, without their sign: a whole number below `2 ^ 53` times a power
of two. A decimal number is rounded to the nearest of them, and of two that are equally near to the
even one. Going back, the fewest decimal digits are chosen that are rounded to the number again.
-/

namespace Stencil

/-- The number `mantissa * 2 ^ exponent`. -/
structure Double where
  mantissa : Nat
  exponent : Int
  deriving DecidableEq, Repr

namespace Double

/-- The exponent of the least number above zero. -/
def leastExponent : Int := -1074

/-- The exponent of the greatest numbers. -/
def greatestExponent : Int := 971

def zero : Double := ⟨0, leastExponent⟩

/-- The whole number nearest to a fraction, and of two the even one. -/
def roundHalfEven (num den : Nat) : Nat :=
  let q := num / den
  let r := num % den
  if den < 2 * r ∨ (2 * r = den ∧ q % 2 = 1) then q + 1 else q

/-- A fraction divided by a power of two. -/
def scaled (num den : Nat) (e : Int) : Nat × Nat :=
  (num * Nat.pow 2 (-e).toNat, den * Nat.pow 2 e.toNat)

/-- The exponent at which a fraction above zero has a mantissa of 53 binary digits, or the least
one. -/
def exponentFor (num den : Nat) : Int :=
  let e : Int := (num.log2 : Int) - den.log2 - 52
  let (n, d) := scaled num den e
  max leastExponent (if n < Nat.pow 2 52 * d then e - 1 else e)

/-- The number nearest to a fraction, unless that is too great. -/
def nearest? (num den : Nat) : Option Double :=
  if num = 0 then some zero
  else
    let e := exponentFor num den
    let (n, d) := scaled num den e
    let m := roundHalfEven n d
    let x : Double := if m = Nat.pow 2 53 then ⟨Nat.pow 2 52, e + 1⟩ else ⟨m, e⟩
    if greatestExponent < x.exponent then none else some x

/-- The number nearest to a decimal number, unless that is too great. Powers of ten far outside the
range are not computed. -/
def ofDecimal? (d : Decimal) : Option Double :=
  let magnitude : Int := (Nat.toDigits 10 d.digits).length + d.exponent
  if d.digits = 0 ∨ magnitude < -330 then some zero
  else if 310 < magnitude then none
  else nearest? d.fraction.1 d.fraction.2

/-- Compares a decimal number with `n * 2 ^ e`. -/
def compareDecimal (d : Decimal) (n : Nat) (e : Int) : Ordering :=
  let (num, den) := d.fraction
  compare (num * Nat.pow 2 (-e).toNat) (n * Nat.pow 2 e.toNat * den)

/-- Whether a decimal number is rounded to `x`: it is between the points halfway to the neighbours
of `x`, and may be one of those points if `x` is even. Below a power of two the neighbour is half as
far away. -/
def isRoundingOf (x : Double) (d : Decimal) : Bool :=
  let narrow := x.mantissa == Nat.pow 2 52 && x.exponent != leastExponent
  let low := if narrow then 4 * x.mantissa - 1 else 4 * x.mantissa - 2
  let high := 4 * x.mantissa + 2
  let even := x.mantissa % 2 == 0
  let above := compareDecimal d low (x.exponent - 2)
  let below := compareDecimal d high (x.exponent - 2)
  (above == .gt || (even && above == .eq)) && (below == .lt || (even && below == .eq))

/-- The multiple of `10 ^ k` nearest to `x` among those that are rounded to `x`. -/
def onGrid? (x : Double) (k : Int) : Option Decimal :=
  let num := x.mantissa * Nat.pow 2 x.exponent.toNat * Nat.pow 10 (-k).toNat
  let den := Nat.pow 2 (-x.exponent).toNat * Nat.pow 10 k.toNat
  let down : Decimal := ⟨num / den, k⟩
  let up : Decimal := ⟨num / den + 1, k⟩
  match 0 < down.digits && x.isRoundingOf down, x.isRoundingOf up with
  | true, true => if roundHalfEven num den = down.digits then some down else some up
  | true, false => some down
  | false, true => some up
  | false, false => none

/-- A power of ten that is above `x`. -/
def powerAbove (x : Double) : Int :=
  ((x.mantissa.log2 : Int) + 1 + x.exponent) * 30103 / 100000 + 1

/-- The decimal number of fewest digits that is rounded to `x`: the first on ever finer grids. -/
def shortest (x : Double) : Decimal :=
  ((List.range 20).findSome? fun (n : Nat) => x.onGrid? (x.powerAbove - n)).getD ⟨0, 0⟩

end Double

end Stencil
