/-!
# The shortest decimal that reads back

A binary floating-point number stands for every decimal that rounds to it.
Among those, this module finds the decimals with the fewest digits, and among
them the one nearest to the number.  The search runs on natural numbers only:
the number, and both ends of the interval of reals that round to it, are
fractions over one common denominator.
-/

namespace RuleClause
namespace Decimal

/-- A positive decimal: a coefficient and the power of ten that scales it. -/
structure Scaled where
  /-- The digits, read as one number. -/
  coefficient : Nat
  /-- The power of ten of the last digit. -/
  exponent : Int
deriving DecidableEq, Repr

/--
The reals that round to one floating-point number.  All three numerators are
over the same denominator.
-/
structure RoundingInterval where
  /-- The numerator of the lower end. -/
  low : Nat
  /-- The numerator of the number itself. -/
  middle : Nat
  /-- The numerator of the upper end. -/
  high : Nat
  /-- The common denominator. -/
  denominator : Nat
  /-- Whether the ends themselves round to the number. -/
  closed : Bool
deriving Repr

namespace RoundingInterval

/--
The interval around `significand * 2 ^ exponent`.  The lower neighbour is half
as far away when the significand is the least of its binade.
-/
def ofBinary
    (significand : Nat)
    (exponent : Int)
    (leastOfBinade : Bool) : RoundingInterval :=
  let quarter := Nat.pow 2 (exponent - 2).toNat
  { low := (4 * significand - if leastOfBinade then 1 else 2) * quarter
    middle := 4 * significand * quarter
    high := (4 * significand + 2) * quarter
    denominator := Nat.pow 2 (2 - exponent).toNat
    closed := significand % 2 == 0 }

/-- A fraction lies in the interval; its denominator need not be the common one. -/
def holds
    (interval : RoundingInterval)
    (numerator denominator : Nat) : Bool :=
  let point := numerator * interval.denominator
  let low := interval.low * denominator
  let high := interval.high * denominator
  if interval.closed then low ≤ point && point ≤ high
  else low < point && point < high

/-- The numerator and the denominator of a decimal. -/
def fraction (coefficient : Nat) (exponent : Int) : Nat × Nat :=
  (coefficient * Nat.pow 10 exponent.toNat, Nat.pow 10 (-exponent).toNat)

/-- The decimal reads back as the number that the interval belongs to. -/
def readsBack
    (interval : RoundingInterval)
    (decimal : Scaled) : Bool :=
  let (numerator, denominator) := fraction decimal.coefficient decimal.exponent
  interval.holds numerator denominator

/--
The number as a multiple of `10 ^ exponent`: the multiple rounded down, and how
what is left over compares with half a step.
-/
def quotient
    (interval : RoundingInterval)
    (exponent : Int) : Nat × Ordering :=
  let numerator := interval.middle * Nat.pow 10 (-exponent).toNat
  let denominator := interval.denominator * Nat.pow 10 exponent.toNat
  (numerator / denominator, compare (2 * (numerator % denominator)) denominator)

/--
The decimal nearest to the number on the grid of multiples of
`10 ^ exponent`, if one of the number's two neighbours there reads back.  A
number halfway between two decimals that both read back takes the even one.
-/
def onGrid
    (interval : RoundingInterval)
    (exponent : Int) : Option Scaled :=
  let (below, half) := interval.quotient exponent
  let lower : Scaled := ⟨below, exponent⟩
  let upper : Scaled := ⟨below + 1, exponent⟩
  match interval.readsBack lower, interval.readsBack upper with
  | true, true =>
      match half with
      | .lt => some lower
      | .gt => some upper
      | .eq => some (if below % 2 == 0 then lower else upper)
  | true, false => some lower
  | false, true => some upper
  | false, false => none

/-- Tries finer and finer grids, at most `count` of them. -/
def search
    (interval : RoundingInterval)
    (exponent : Int) : Nat → Scaled
  | 0 => ⟨(interval.quotient exponent).1, exponent⟩
  | count + 1 =>
      match interval.onGrid exponent with
      | some decimal => decimal
      | none => search interval (exponent - 1) count

end RoundingInterval

/-- The greatest power of ten that is at most a positive fraction. -/
def leadingExponent (numerator denominator : Nat) : Int :=
  if denominator ≤ numerator then
    ((Nat.toDigits 10 (numerator / denominator)).length : Int) - 1
  else
    let shift := (Nat.toDigits 10 (denominator / numerator)).length
    let shifted := numerator * Nat.pow 10 shift / denominator
    ((Nat.toDigits 10 shifted).length : Int) - 1 - shift

/-- Seventeen significant digits tell any two double-precision numbers apart. -/
def enoughDigits : Nat := 17

/-- The shortest decimal that rounds to the number, and the nearest of those. -/
def shortest (interval : RoundingInterval) : Scaled :=
  interval.search
    (leadingExponent interval.middle interval.denominator)
    enoughDigits

/-- The bit in front of the fraction of a double-precision number. -/
def leadingBit : Nat := Nat.pow 2 52

/-- The number of exponents of double-precision numbers. -/
def exponentCount : Nat := Nat.pow 2 11

/-- The magnitude of a finite double-precision number, taken from its bits. -/
def ofMagnitudeBits (bits : Nat) : Scaled :=
  let biased : Nat := bits / leadingBit % exponentCount
  let fraction : Nat := bits % leadingBit
  if biased = 0 then
    shortest (.ofBinary fraction (-1074) false)
  else
    shortest
      (.ofBinary (leadingBit + fraction) ((biased : Int) - 1075)
        (fraction == 0 && 1 < biased))

end Decimal
end RuleClause
