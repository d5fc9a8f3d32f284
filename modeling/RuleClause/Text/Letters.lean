/-!
# Names compared without regard to case

Names of dialects and of manual pages are ASCII words that may be typed in
either case.  A text matches such a word exactly when its lower-case form is the
word, so only the characters whose lower case is an ASCII letter matter: the
capitals `A` to `Z` and the Kelvin sign, whose lower case is `k`.
-/

namespace RuleClause
namespace Text

/-- The Kelvin sign, a compatibility spelling of the capital `K`. -/
def kelvinSign : Char := Char.ofNat 0x212A

/-- The lower case of a character as far as it is an ASCII letter. -/
def lowerLetter (character : Char) : Char :=
  if character = kelvinSign then 'k' else character.toLower

/-- Lowers every letter of a name as far as the result is an ASCII letter. -/
def lower (name : String) : String :=
  String.ofList (name.toList.map lowerLetter)

end Text
end RuleClause
