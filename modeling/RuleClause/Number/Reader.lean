import RuleClause.Number.Basic

/-!
# Reading numbers

A number is read from left to right into a 64-bit significand and a power of
ten.  Digits that no longer fit the significand are given up: before the point
they only raise the power, after it they are dropped.  The significand is then
scaled in double precision, so that a long number may differ from the nearest
double-precision one in its last bit.
-/

namespace RuleClause
namespace Number

/-- Significands stay below this bound. -/
def significandBound : Nat := Nat.pow 2 64

/-- The digit that a character stands for. -/
def digitValue (character : Char) : Nat :=
  character.toNat - '0'.toNat

/-- The natural number that a list of digits stands for. -/
def digitsValue (digits : List Char) : Nat :=
  digits.foldl (fun value digit => value * 10 + digitValue digit) 0

/-- A number under way: the digits kept so far and the power of ten that scales them. -/
structure Reading where
  /-- The digits kept, read as one number. -/
  significand : Nat
  /-- The power of ten of the last digit kept. -/
  exponent : Int
deriving DecidableEq, Repr

/-- Takes up digits before the point; once one does not fit, each raises the power. -/
def Reading.whole (reading : Reading) : List Char → Reading
  | [] => reading
  | digit :: rest =>
      let next := reading.significand * 10 + digitValue digit
      if next < significandBound then
        Reading.whole { reading with significand := next } rest
      else
        { reading with
          exponent := reading.exponent + (digit :: rest).length }

/-- Takes up digits after the point; once one does not fit, the rest is dropped. -/
def Reading.fraction (reading : Reading) : List Char → Reading
  | [] => reading
  | digit :: rest =>
      let next := reading.significand * 10 + digitValue digit
      if next < significandBound then
        Reading.fraction ⟨next, reading.exponent - 1⟩ rest
      else
        reading

/-- The greatest power of ten that double precision can hold. -/
def greatestPower : Nat := 308

/-- A power of ten in double precision, rounded to nearest. -/
def powerOfTen (exponent : Nat) : Float :=
  Float.ofScientific 1 false exponent

/-- Divides by the greatest power of ten a number of times; nothing is left to divide at zero. -/
def shrink (magnitude : Float) : Nat → Float
  | 0 => magnitude
  | count + 1 =>
      if magnitude == 0 then magnitude
      else shrink (magnitude / powerOfTen greatestPower) count

/--
Scales a magnitude by a power of ten.  Negative powers beyond the range of
double precision are taken in steps; a magnitude that grows past the range is
refused.
-/
def scale (magnitude : Float) (exponent : Int) : Option Float :=
  if exponent < 0 then
    let places := exponent.natAbs
    let steps := (places - 1) / greatestPower
    some (shrink magnitude steps / powerOfTen (places - steps * greatestPower))
  else if exponent ≤ greatestPower then
    let scaled := magnitude * powerOfTen exponent.toNat
    if scaled.isInf then none else some scaled
  else if magnitude == 0 then some magnitude
  else none

/-- The parts of a number as it is written. -/
structure Written where
  /-- Whether a minus sign stands in front. -/
  negative : Bool
  /-- The digits before the point. -/
  whole : List Char
  /-- The digits after the point, if there is one. -/
  fraction : Option (List Char)
  /-- The sign and the digits of the exponent, if there is one. -/
  exponent : Option (Bool × List Char)
deriving DecidableEq, Repr

/-- Exponents above this bound are out of reach of any significand. -/
def exponentBound : Nat := Nat.pow 2 31

/-- Gives a magnitude its sign. -/
def signed (negative : Bool) (magnitude : Float) : Number :=
  .float (if negative then -magnitude else magnitude)

/-- The floating-point number that is written, unless it is out of range. -/
def Written.toFloat? (written : Written) : Option Number :=
  let start := (Reading.whole ⟨0, 0⟩ written.whole).fraction (written.fraction.getD [])
  let magnitude := start.significand.toUInt64.toFloat
  match written.exponent with
  | none => (scale magnitude start.exponent).map (signed written.negative)
  | some (negative, digits) =>
      let exponent := digitsValue digits
      if exponentBound ≤ exponent then
        if start.significand = 0 ∨ negative then some (signed written.negative 0)
        else none
      else
        let exponent : Int := if negative then -exponent else exponent
        (scale magnitude (start.exponent + exponent)).map (signed written.negative)

/--
The number that is written: an integer if there is neither a point nor an
exponent and a 64-bit word holds it, and a floating-point number otherwise.
Minus zero is a floating-point number.
-/
def Written.toNumber? (written : Written) : Option Number :=
  let value := digitsValue written.whole
  if written.fraction.isNone ∧ written.exponent.isNone ∧
      (if written.negative then 0 < value ∧ value ≤ signedBound
        else value < significandBound) then
    some (.integer (if written.negative then -value else value))
  else
    written.toFloat?

/-- Splits off the digits at the front. -/
def spanDigits (characters : List Char) : List Char × List Char :=
  characters.span Char.isDigit

/-- The exponent at the end of a number. -/
def readExponent? : List Char → Option (Option (Bool × List Char))
  | [] => some none
  | mark :: rest =>
      if mark = 'e' ∨ mark = 'E' then
        let (negative, digits) :=
          match rest with
          | '-' :: digits => (true, digits)
          | '+' :: digits => (false, digits)
          | digits => (false, digits)
        if digits.isEmpty ∨ ! digits.all Char.isDigit then none
        else some (some (negative, digits))
      else none

/-- The fraction of a number, if there is one, and what follows it. -/
def readFraction? : List Char → Option (Option (List Char) × List Char)
  | '.' :: rest =>
      let (digits, rest) := spanDigits rest
      if digits.isEmpty then none else some (some digits, rest)
  | rest => some (none, rest)

/--
The parts of a number.  The digits before the point have no zero in front,
and every point and every exponent mark is followed by a digit.
-/
def Written.ofChars? (characters : List Char) : Option Written := do
  let (negative, characters) :=
    match characters with
    | '-' :: rest => (true, rest)
    | rest => (false, rest)
  let (whole, rest) := spanDigits characters
  if whole.isEmpty ∨ (whole.head? = some '0' ∧ whole ≠ ['0']) then none
  let (fraction, rest) ← readFraction? rest
  let exponent ← readExponent? rest
  return ⟨negative, whole, fraction, exponent⟩

/-- Reads a number; `none` if the text is not a number or its value is out of range. -/
def ofChars? (characters : List Char) : Option Number :=
  (Written.ofChars? characters).bind Written.toNumber?

end Number
end RuleClause
