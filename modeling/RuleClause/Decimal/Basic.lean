/-!
# Decimals of bounded precision

A decimal here is a sign, a coefficient below `2 ^ 96` and a scale of at most
28: the number of digits after the point.  Numbers that go into a condition pass
through this form, which gives equal numbers equal texts: no exponent, no
trailing zeros after the point, and one zero.
-/

namespace RuleClause

/-- A signed coefficient divided by a power of ten. -/
structure Decimal where
  /-- Whether the number is below zero. -/
  negative : Bool
  /-- The digits, read as one number. -/
  coefficient : Nat
  /-- How many of the digits stand after the point. -/
  scale : Nat
deriving DecidableEq, Repr

namespace Decimal

/-- Coefficients stay below this bound. -/
def coefficientBound : Nat := Nat.pow 2 96

/-- The greatest number of digits after the point. -/
def maxScale : Nat := 28

/-- Gives up digits at the end of a coefficient, rounding half upwards. -/
def dropDigits (coefficient count : Nat) : Nat :=
  let unit := Nat.pow 10 count
  coefficient / unit + if unit ≤ 2 * (coefficient % unit) then 1 else 0

/-- Rounds to a smaller scale, half away from zero. -/
def rescale (decimal : Decimal) (scale : Nat) : Decimal :=
  { decimal with
    coefficient := dropDigits decimal.coefficient (decimal.scale - scale)
    scale := scale }

/-- Shifts the point to the left, giving up digits beyond the greatest scale. -/
def shiftLeft? (decimal : Decimal) (places : Nat) : Option Decimal :=
  if maxScale < places then none
  else if decimal.scale + places ≤ maxScale then
    some { decimal with scale := decimal.scale + places }
  else
    some { decimal.rescale (maxScale - places) with scale := maxScale }

/-- Shifts the point to the right, unless the coefficient grows too large. -/
def shiftRight? (decimal : Decimal) (places : Nat) : Option Decimal :=
  if maxScale < places then none
  else if places ≤ decimal.scale then
    some { decimal with scale := decimal.scale - places }
  else
    let coefficient := decimal.coefficient * Nat.pow 10 (places - decimal.scale)
    if coefficient < coefficientBound then some ⟨decimal.negative, coefficient, 0⟩
    else none

/-- Drops the zeros at the end of a fraction. -/
def trimScale (coefficient : Nat) : Nat → Nat × Nat
  | 0 => (coefficient, 0)
  | scale + 1 =>
      if coefficient % 10 = 0 then trimScale (coefficient / 10) scale
      else (coefficient, scale + 1)

/-- The form without zeros at the end of the fraction; zero has no sign. -/
def normalize (decimal : Decimal) : Decimal :=
  if decimal.coefficient = 0 then ⟨false, 0, 0⟩
  else
    let (coefficient, scale) := trimScale decimal.coefficient decimal.scale
    ⟨decimal.negative, coefficient, scale⟩

/-- The digits of a fraction, filled up with zeros on the left. -/
def fractionDigits (fraction scale : Nat) : List Char :=
  let digits := Nat.toDigits 10 fraction
  List.replicate (scale - digits.length) '0' ++ digits

/-- The text of a decimal in positional notation. -/
def toChars (decimal : Decimal) : List Char :=
  let unit := Nat.pow 10 decimal.scale
  let whole := Nat.toDigits 10 (decimal.coefficient / unit)
  let fraction :=
    if decimal.scale = 0 then []
    else '.' :: fractionDigits (decimal.coefficient % unit) decimal.scale
  (if decimal.negative then ['-'] else []) ++ whole ++ fraction

end Decimal
end RuleClause
