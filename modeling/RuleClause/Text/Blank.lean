/-!
# Blank characters

A character is blank when Unicode gives it the `White_Space` property.  Blanks
may surround a number written as text and an expression typed on the command
line; nothing else in the library is blind to them.
-/

namespace RuleClause
namespace Text

/-- The ranges of code points with the `White_Space` property, both ends included. -/
def blankRanges : List (Nat × Nat) :=
  [(0x0009, 0x000D), (0x0020, 0x0020), (0x0085, 0x0085), (0x00A0, 0x00A0),
   (0x1680, 0x1680), (0x2000, 0x200A), (0x2028, 0x2029), (0x202F, 0x202F),
   (0x205F, 0x205F), (0x3000, 0x3000)]

/-- A character is blank when one of the ranges holds its code point. -/
def isBlank (character : Char) : Bool :=
  blankRanges.any fun (first, last) =>
    first ≤ character.toNat && character.toNat ≤ last

/-- Drops the blanks on both sides of a list of characters. -/
def trimBlanks (characters : List Char) : List Char :=
  ((characters.dropWhile isBlank).reverse.dropWhile isBlank).reverse

/-- Drops the blanks on both sides of a text. -/
def trim (text : String) : String :=
  String.ofList (trimBlanks text.toList)

end Text
end RuleClause
