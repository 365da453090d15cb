import Stencil.Decimal.Basic

/-!
# Layout of decimal numbers

How a decimal number is written down: with its point among the digits, or in scientific form.
-/

namespace Stencil.Decimal

/-- From where to where the point of a number may stand for the number to be written with it:
counted from the front of the first digit. -/
structure Layout where
  leastPoint : Int
  greatestPoint : Int

/-- Zeros. -/
def zeros (n : Nat) : List Char :=
  List.replicate n '0'

/-- Writes a number. A whole number gets the digit `0` after its point, and scientific form has one
digit before its point and no point after a lone digit. -/
def write (layout : Layout) (d : Decimal) : String :=
  let ds := Nat.toDigits 10 d.digits
  let point := ds.length + d.exponent
  String.ofList <|
    if d.digits = 0 then ['0', '.', '0']
    else if layout.leastPoint ≤ point ∧ point ≤ layout.greatestPoint then
      if 0 ≤ d.exponent then ds ++ zeros d.exponent.toNat ++ ['.', '0']
      else if 0 < point then ds.take point.toNat ++ '.' :: ds.drop point.toNat
      else '0' :: '.' :: zeros (-point).toNat ++ ds
    else
      let mantissa := if ds.length = 1 then ds else ds.take 1 ++ '.' :: ds.drop 1
      mantissa ++ 'e' :: (toString (point - 1)).toList

end Stencil.Decimal
