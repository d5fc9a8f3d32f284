import RuleClause.Decimal.Reader
import RuleClause.Text.Blank
import RuleClause.Text.DecimalDigit

/-!
# Numbers written as text

A text is a numeral when it reads as a number: blanks around an optional sign,
digits of any script with at most one point, and an optional exponent.  The
canonical form of a numeral has no sign but a minus, no exponent and no needless
zeros, as far as decimals of bounded precision can hold it; what they cannot hold
stays as it is.
-/

namespace RuleClause
namespace Text

/-- Drops one sign at the front. -/
def dropSign : List Char → List Char
  | '-' :: rest => rest
  | '+' :: rest => rest
  | rest => rest

/-- What follows digits with at most one point, if there is at least one digit. -/
def afterMantissa? (characters : List Char) : Option (List Char) :=
  let whole := characters.takeWhile isDecimalDigit
  match characters.dropWhile isDecimalDigit with
  | '.' :: rest =>
      let fraction := rest.takeWhile isDecimalDigit
      if whole.isEmpty && fraction.isEmpty then none
      else some (rest.dropWhile isDecimalDigit)
  | rest => if whole.isEmpty then none else some rest

/-- What follows an exponent, or everything if there is none. -/
def afterExponent? : List Char → Option (List Char)
  | [] => some []
  | mark :: rest =>
      if Decimal.isExponentMark mark then
        let digits := dropSign rest
        if (digits.takeWhile isDecimalDigit).isEmpty then none
        else some (digits.dropWhile isDecimalDigit)
      else some (mark :: rest)

/-- The characters read as a number. -/
def isNumeralChars (characters : List Char) : Bool :=
  match (afterMantissa? (dropSign (characters.dropWhile isBlank))).bind afterExponent? with
  | some rest => rest.all isBlank
  | none => false

/-- The text reads as a number. -/
def isNumeral (text : String) : Bool :=
  isNumeralChars text.toList

/-- A numeral without the blanks around it and the plus signs before it. -/
def bareNumeral (characters : List Char) : List Char :=
  (trimBlanks characters).dropWhile (· == '+')

/-- The canonical form of a numeral; a text that is no decimal stays as it is. -/
def canonicalNumeral (text : String) : String :=
  let bare := bareNumeral text.toList
  match Decimal.ofChars? bare with
  | some decimal => String.ofList decimal.normalize.toChars
  | none => String.ofList bare

end Text
end RuleClause
