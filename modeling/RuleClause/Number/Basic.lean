import RuleClause.Decimal.Shortest

/-!
# Numbers of a rule

A number written without a point and without an exponent is an integer as long
as it fits a 64-bit word, signed when negative and unsigned otherwise.  Every
other number is a double-precision floating-point number.  The two kinds stay
apart even when they are equal: `1.0` is not an integer.
-/

namespace RuleClause

/-- A number as a rule holds it. -/
inductive Number where
  /-- A whole number that fits a 64-bit word. -/
  | integer (value : Int)
  /-- A finite double-precision number. -/
  | float (value : Float)
deriving DecidableEq, Repr

namespace Number

/-- Signed 64-bit integers lie below this bound, and not below its negative. -/
def signedBound : Nat := Nat.pow 2 63

/-- A whole number fits a signed 64-bit integer. -/
def isSigned (value : Int) : Bool :=
  -(signedBound : Int) ≤ value && value < signedBound

/-- The number as a signed 64-bit integer, if it is one. -/
def toSigned? : Number → Option Int
  | .integer value => if isSigned value then some value else none
  | .float _ => none

/-- The number as an unsigned 64-bit integer, if it is one. -/
def toIndex? : Number → Option UInt64
  | .integer value =>
      if 0 ≤ value ∧ value < UInt64.size then some (.ofNat value.toNat) else none
  | .float _ => none

/-- The number differs from zero. -/
def isNonzero : Number → Bool
  | .integer value => value != 0
  | .float value => value != 0

/--
Where a floating-point number is written positionally: the powers of ten of its
first digit from `leastPositional` to `greatestPositional`.
-/
def leastPositional : Int := -5

@[inherit_doc leastPositional]
def greatestPositional : Int := 15

/-- The digits of a coefficient without the zeros at its end. -/
def significantDigits (coefficient : Nat) : List Char :=
  ((Nat.toDigits 10 coefficient).reverse.dropWhile (· == '0')).reverse

/-- A run of zeros. -/
def zeros (count : Nat) : List Char :=
  List.replicate count '0'

/--
Digits in positional notation, with at least one digit on either side of the
point.  The first digit stands for `10 ^ leading`.
-/
def positional (digits : List Char) (leading : Int) : List Char :=
  if leading < 0 then
    ['0', '.'] ++ zeros (-leading - 1).toNat ++ digits
  else
    let whole := leading.toNat + 1
    let fraction := digits.drop whole
    digits.take whole ++ zeros (whole - digits.length) ++ ['.'] ++
      (if fraction.isEmpty then ['0'] else fraction)

/--
Digits in scientific notation: one digit before the point, no point without a
digit after it, and a sign on every exponent.
-/
def scientific (digits : List Char) (leading : Int) : List Char :=
  let fraction := digits.drop 1
  digits.take 1 ++
    (if fraction.isEmpty then [] else '.' :: fraction) ++
    ['e', if leading < 0 then '-' else '+'] ++
    Nat.toDigits 10 leading.natAbs

/-- The text of a positive decimal. -/
def scaledText (decimal : Decimal.Scaled) : List Char :=
  let leading := decimal.exponent + (Nat.toDigits 10 decimal.coefficient).length - 1
  let digits := significantDigits decimal.coefficient
  if leastPositional ≤ leading ∧ leading ≤ greatestPositional then
    positional digits leading
  else
    scientific digits leading

/-- The bit that holds the sign of a double-precision number. -/
def signBit : Nat := Nat.pow 2 63

/-- The text of a floating-point number, given by its bits: the fewest digits that read back. -/
def floatText (bits : Nat) : List Char :=
  let magnitude := bits % signBit
  let text :=
    if magnitude = 0 then positional ['0'] 0
    else scaledText (Decimal.ofMagnitudeBits magnitude)
  if bits < signBit then text else '-' :: text

/-- The text of a whole number. -/
def integerText (value : Int) : List Char :=
  let digits := Nat.toDigits 10 value.natAbs
  if value < 0 then '-' :: digits else digits

/-- The text of a number, as rules and messages show it. -/
def text : Number → String
  | .integer value => String.ofList (integerText value)
  | .float value => String.ofList (floatText value.toBits.toNat)

end Number
end RuleClause
