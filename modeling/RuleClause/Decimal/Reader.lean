import RuleClause.Decimal.Basic

/-!
# Reading decimals

A decimal is written as an optional sign and digits with at most one point among
them; underscores may group the digits after the first.  Digits that the
coefficient cannot hold are rounded away after the point and refused before it.
After the last place that a decimal has, an underscore settles a small coefficient
as it is, while a large one is still rounded by the digit that follows.
A scientific form adds a power of ten of at most 28 in either direction.
-/

namespace RuleClause
namespace Decimal

/-- A decimal under way. -/
structure Reading where
  /-- The digits read so far, as one number. -/
  coefficient : Nat
  /-- How many of them stand after the point. -/
  scale : Nat
  /-- Whether the point has been read. -/
  point : Bool
  /-- Whether any digit has been read. -/
  started : Bool
  /-- Whether the coefficient is settled, so that later digits are dropped. -/
  settled : Bool
deriving DecidableEq, Repr

namespace Reading

/-- Nothing read so far. -/
def start : Reading := ⟨0, 0, false, false, false⟩

/--
Rounds by the first digit that does not fit.  A coefficient that rounding lifts
to the bound gives up one more digit after the point.
-/
def round? (reading : Reading) (digit : Nat) : Option Reading :=
  let coefficient := reading.coefficient + if 5 ≤ digit then 1 else 0
  if coefficient < coefficientBound then
    some { reading with coefficient := coefficient, settled := true }
  else if reading.scale = 0 then none
  else
    some { reading with
      coefficient := (coefficient + 4) / 10
      scale := reading.scale - 1
      settled := true }

/-- Takes up one digit. -/
def digit? (reading : Reading) (digit : Nat) : Option Reading :=
  let next := reading.coefficient * 10 + digit
  if reading.settled then some reading
  else if reading.point then
    if reading.scale < maxScale ∧ next < coefficientBound then
      some { reading with
        coefficient := next, scale := reading.scale + 1, started := true }
    else
      reading.round? digit
  else if next < coefficientBound then
    some { reading with coefficient := next, started := true }
  else none

/--
Coefficients below this bound are small: without their last digit they are more
than 255 below a tenth of the greatest 64-bit number.
-/
def smallBound : Nat := ((Nat.pow 2 64 - 1) / 10 - 255) * 10

/-- Takes up an underscore: it settles a small coefficient that has every place. -/
def underscore (reading : Reading) : Reading :=
  { reading with
    settled :=
      reading.settled ||
        (reading.scale == maxScale && decide (reading.coefficient < smallBound)) }

/-- Takes up one character. -/
def step? (reading : Reading) (character : Char) : Option Reading :=
  if character.isDigit then reading.digit? (character.toNat - '0'.toNat)
  else if character = '.' ∧ ! reading.point then some { reading with point := true }
  else if character = '_' ∧ reading.started then some reading.underscore
  else none

/-- Takes up characters from left to right. -/
def run? (reading : Reading) : List Char → Option Reading
  | [] => some reading
  | character :: rest => (reading.step? character).bind (run? · rest)

end Reading

/-- Reads a decimal in positional notation. -/
def ofPlain? (characters : List Char) : Option Decimal :=
  let (negative, digits) :=
    match characters with
    | '-' :: rest => (true, rest)
    | '+' :: rest => (false, rest)
    | rest => (false, rest)
  (Reading.start.run? digits).bind fun reading =>
    if reading.started then some ⟨negative, reading.coefficient, reading.scale⟩
    else none

/-- The number of places that an exponent without its minus sign asks for. -/
def exponentPlaces? (characters : List Char) : Option Nat :=
  let digits :=
    match characters with
    | '+' :: rest => rest
    | rest => rest
  if digits.isEmpty ∨ ! digits.all Char.isDigit then none
  else some (digits.foldl (fun value digit => value * 10 + (digit.toNat - '0'.toNat)) 0)

/-- The mark between the digits and the exponent. -/
def isExponentMark (character : Char) : Bool :=
  character == 'e' || character == 'E'

/-- Reads a decimal in scientific notation; the first mark divides it. -/
def ofScientific? (characters : List Char) : Option Decimal :=
  match characters.span (! isExponentMark ·) with
  | (_, []) => none
  | (base, _ :: exponent) =>
      (ofPlain? base).bind fun decimal =>
        match exponent with
        | '-' :: places => (exponentPlaces? places).bind decimal.shiftLeft?
        | places => (exponentPlaces? places).bind decimal.shiftRight?

/-- Reads a decimal in either notation. -/
def ofChars? (characters : List Char) : Option Decimal :=
  (ofPlain? characters).or (ofScientific? characters)

end Decimal
end RuleClause
