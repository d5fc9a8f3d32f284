import RuleClause.Proofs.Numeral.Spelling
import Mathlib.Computability.Language

/-!
# The grammar of numerals

Numerals are a language of words over characters: blanks, a sign, digits with a point, an
exponent and blanks again.  The recogniser goes over a text once and takes as many digits
and blanks as it can find; the grammar says only that a text can be split somehow.  The two
agree, since no part of a numeral can begin with a character that the part before it could
still take.
-/

namespace RuleClause
namespace Text

/-! ## The recogniser finds every spelling -/

section

variable {character : Char} {rest : List Char}

/-- A blank goes on neither with digits nor with an exponent, and it is no point. -/
theorem others_of_isBlank (blank : isBlank character = true) :
    isDecimalDigit character = false ∧ Decimal.isExponentMark character = false ∧
      character ≠ '.' := by
  have unmarked : character ∉ numberMarks := by
    intro mark
    simp [isBlank_of_mem_numberMarks mark] at blank
  refine ⟨?_, ?_, ?_⟩
  · by_contra digit
    simp [isBlank_of_isDecimalDigit (by simpa using digit)] at blank
  · by_contra mark
    exact unmarked (mem_numberMarks_of_isExponentMark (by simpa using mark))
  · rintro rfl
    exact unmarked (by decide)

theorem dropWhile_append_of_class
    {isMember : Char → Bool}
    {run rest : List Char}
    (each : ∀ character ∈ run, isMember character = true)
    (stops : ∀ character ∈ rest.head?, isMember character = false) :
    (run ++ rest).dropWhile isMember = rest := by
  rw [List.dropWhile_append_of_pos each]
  cases rest with
  | nil => simp
  | cons character rest => simp [stops character rfl]

theorem dropSign_append
    (sign : Sign)
    (stops : ∀ character ∈ rest.head?, isSign character = false) :
    dropSign (sign.chars ++ rest) = rest := by
  cases sign with
  | plus => rfl
  | minus => rfl
  | absent =>
      cases rest with
      | nil => rfl
      | cons character rest =>
          have other := stops character rfl
          simp only [isSign, Bool.or_eq_false_iff, beq_eq_false_iff_ne] at other
          simp [Sign.chars, dropSign, other]

end

namespace Spelling

variable {spelling : Spelling} {rest : List Char} {text : String}

/-- The mantissa goes up to a character that is neither a digit nor the point. -/
theorem IsOver.afterMantissa?_append
    (spelled : spelling.IsOver isDecimalDigit)
    (stops : ∀ character ∈ rest.head?, isDecimalDigit character = false)
    (pointless : '.' ∉ rest.head?) :
    afterMantissa? (spelling.mantissa ++ rest) = some rest := by
  have filled := spelled.filled
  have digits := spelled.digits
  unfold Spelling.digits at filled digits
  obtain ⟨wholeDigits, fractionDigits⟩ := List.forall_mem_append.mp digits
  rw [mantissa, List.append_assoc]
  cases present : spelling.fraction with
  | none =>
      rw [present, Option.getD_none, List.append_nil] at filled
      rw [pointed, List.nil_append, afterMantissa?, takeWhile_append_of_class wholeDigits stops,
        dropWhile_append_of_class wholeDigits stops]
      cases rest with
      | nil => simp [filled]
      | cons character rest =>
          have other : character ≠ '.' := by simpa using pointless
          simp [filled, other]
  | some fraction =>
      rw [present, Option.getD_some] at filled fractionDigits
      have point : ∀ character ∈ ('.' :: (fraction ++ rest)).head?,
          isDecimalDigit character = false := by
        intro character head
        obtain rfl : '.' = character := by simpa using head
        decide +kernel
      rw [pointed, List.cons_append, afterMantissa?, takeWhile_append_of_class wholeDigits point,
        dropWhile_append_of_class wholeDigits point]
      simp only
      rw [takeWhile_append_of_class fractionDigits stops,
        dropWhile_append_of_class fractionDigits stops, if_neg]
      simpa using filled

/-- The exponent goes up to a character that is neither a digit nor a mark. -/
theorem IsOver.afterExponent?_append
    (spelled : spelling.IsOver isDecimalDigit)
    (stops : ∀ character ∈ rest.head?, isDecimalDigit character = false)
    (unmarked : ∀ character ∈ rest.head?, Decimal.isExponentMark character = false) :
    afterExponent? (spelling.power ++ rest) = some rest := by
  unfold power
  cases present : spelling.exponent with
  | none =>
      cases rest with
      | nil => rfl
      | cons character rest => simp [afterExponent?, unmarked character rfl]
  | some exponent =>
      obtain ⟨marked, filled, digits⟩ := spelled.exponent exponent present
      have signless : ∀ character ∈ (exponent.digits ++ rest).head?,
          isSign character = false := by
        intro character head
        rw [List.head?_append_of_ne_nil _ filled] at head
        exact isSign_of_isDecimalDigit (digits character (List.mem_of_mem_head? head))
      simp only [Option.elim_some, Exponent.chars, List.cons_append, List.append_assoc,
        afterExponent?]
      rw [if_pos marked, dropSign_append _ signless, takeWhile_append_of_class digits stops,
        dropWhile_append_of_class digits stops, if_neg (by simpa using filled)]

/-- Behind the mantissa of a number stands neither a digit nor a point. -/
theorem IsOver.of_mem_head?_power_append
    (spelled : spelling.IsOver isDecimalDigit)
    (blanks : ∀ character ∈ rest, isBlank character = true)
    {character : Char}
    (head : character ∈ (spelling.power ++ rest).head?) :
    isDecimalDigit character = false ∧ character ≠ '.' := by
  by_cases scaled : spelling.power = []
  · rw [scaled, List.nil_append] at head
    obtain ⟨other, _, unpointed⟩ := others_of_isBlank (blanks _ (List.mem_of_mem_head? head))
    exact ⟨other, unpointed⟩
  · rw [List.head?_append_of_ne_nil _ scaled] at head
    refine ⟨spelled.isDecimalDigit_of_mem_head?_power head, ?_⟩
    rintro rfl
    exact absurd (spelled.isExponentMark_of_mem_head?_power head) (by decide)

/-- The recogniser accepts a text with a number and blanks around it. -/
theorem IsOver.isNumeral
    (spelled : spelling.IsOver isDecimalDigit)
    (written : spelling.IsWrittenIn text) :
    isNumeral text = true := by
  obtain ⟨before, after, same, blankBefore, blankAfter⟩ := written
  have solid : ∀ character ∈ (spelling.chars ++ after).head?, isBlank character = false := by
    intro character head
    have filled : spelling.chars ≠ [] := by simp [chars, spelled.mantissa_ne_nil]
    rw [List.head?_append_of_ne_nil _ filled] at head
    exact spelled.isBlank_of_mem_chars (List.mem_of_mem_head? head)
  have unsigned : dropSign (text.toList.dropWhile isBlank) =
      spelling.mantissa ++ (spelling.power ++ after) := by
    rw [same, dropWhile_append_of_class blankBefore solid, chars, List.append_assoc,
      List.append_assoc, dropSign_append _ fun _ => spelled.isSign_of_mem_head?]
  have scaled : afterMantissa? (spelling.mantissa ++ (spelling.power ++ after)) =
      some (spelling.power ++ after) :=
    spelled.afterMantissa?_append
      (fun _ head => (spelled.of_mem_head?_power_append blankAfter head).1)
      (fun head => (spelled.of_mem_head?_power_append blankAfter head).2 rfl)
  have blank : afterExponent? (spelling.power ++ after) = some after :=
    spelled.afterExponent?_append
      (fun _ head => (others_of_isBlank (blankAfter _ (List.mem_of_mem_head? head))).1)
      (fun _ head => (others_of_isBlank (blankAfter _ (List.mem_of_mem_head? head))).2.1)
  rw [Text.isNumeral, isNumeralChars, unsigned, scaled, Option.bind_some, blank]
  exact List.all_eq_true.mpr blankAfter

end Spelling

theorem isNumeral_iff_exists_spelling (text : String) :
    isNumeral text = true ↔
      ∃ spelling : Spelling, spelling.IsOver isDecimalDigit ∧ spelling.IsWrittenIn text := by
  constructor
  · exact exists_spelling
  · rintro ⟨spelling, spelled, written⟩
    exact spelled.isNumeral written

/-! ## The grammar -/

namespace Grammar

open scoped Computability

/-- The words of one character of a class. -/
def oneOf (isMember : Char → Bool) : Language Char :=
  {word | ∃ character, isMember character = true ∧ word = [character]}

/-- A word of a language, or nothing. -/
def optional (words : Language Char) : Language Char :=
  1 + words

/-- Blanks, as many as there are. -/
def blanks : Language Char :=
  (oneOf isBlank)∗

/-- A plus or a minus sign. -/
def sign : Language Char :=
  {['+'], ['-']}

/-- Digits, of which there is at least one. -/
def digits : Language Char :=
  oneOf isDecimalDigit * (oneOf isDecimalDigit)∗

/-- Digits with perhaps a point and more digits behind them, or with a point in front. -/
def mantissa : Language Char :=
  digits * optional {['.']} * (oneOf isDecimalDigit)∗ + {['.']} * digits

/-- The mark of an exponent. -/
def mark : Language Char :=
  {['e'], ['E']}

/-- A mark, perhaps a sign, and digits. -/
def exponent : Language Char :=
  mark * optional sign * digits

/-- Numerals with blanks around them. -/
def numeral : Language Char :=
  blanks * optional sign * mantissa * optional exponent * blanks

/-! ### The words of its parts -/

variable {word : List Char}

theorem mem_kstar_oneOf {isMember : Char → Bool} :
    word ∈ (oneOf isMember)∗ ↔ ∀ character ∈ word, isMember character = true := by
  rw [Language.mem_kstar]
  constructor
  · rintro ⟨words, rfl, each⟩ character member
    obtain ⟨single, listed, found⟩ := List.mem_flatten.mp member
    obtain ⟨only, isMember, rfl⟩ := each single listed
    obtain rfl := List.mem_singleton.mp found
    exact isMember
  · intro each
    refine ⟨word.map fun character => [character], (List.flatMap_singleton' word).symm, ?_⟩
    intro single listed
    obtain ⟨character, member, rfl⟩ := List.mem_map.mp listed
    exact ⟨character, each character member, rfl⟩

theorem mem_digits :
    word ∈ digits ↔ word ≠ [] ∧ ∀ digit ∈ word, isDecimalDigit digit = true := by
  rw [digits, Language.mem_mul]
  constructor
  · rintro ⟨first, ⟨digit, isDigit, rfl⟩, rest, others, rfl⟩
    exact ⟨by simp, List.forall_mem_cons.mpr ⟨isDigit, mem_kstar_oneOf.mp others⟩⟩
  · rintro ⟨filled, each⟩
    obtain ⟨digit, rest, rfl⟩ := List.exists_cons_of_ne_nil filled
    obtain ⟨isDigit, others⟩ := List.forall_mem_cons.mp each
    exact ⟨[digit], ⟨digit, isDigit, rfl⟩, rest, mem_kstar_oneOf.mpr others, rfl⟩

theorem mem_optional {words : Language Char} : word ∈ optional words ↔ word = [] ∨ word ∈ words :=
  Iff.rfl

theorem mem_pair {first second : List Char} :
    word ∈ ({first, second} : Language Char) ↔ word = first ∨ word = second :=
  Iff.rfl

theorem mem_optional_sign : word ∈ optional sign ↔ ∃ written : Sign, written.chars = word := by
  rw [mem_optional, sign, mem_pair]
  constructor
  · rintro (rfl | rfl | rfl)
    · exact ⟨.absent, rfl⟩
    · exact ⟨.plus, rfl⟩
    · exact ⟨.minus, rfl⟩
  · rintro ⟨written, rfl⟩
    cases written <;> simp [Sign.chars]

theorem mem_mantissa :
    word ∈ mantissa ↔
      ∃ whole fraction, whole ++ Spelling.pointed fraction = word ∧
        whole ++ fraction.getD [] ≠ [] ∧
        ∀ digit ∈ whole ++ fraction.getD [], isDecimalDigit digit = true := by
  simp only [mantissa, Language.mem_add, Language.mem_mul, mem_optional, mem_digits,
    mem_kstar_oneOf]
  constructor
  · rintro (⟨_, ⟨whole, ⟨filled, wholeDigits⟩, _, rfl | rfl, rfl⟩, more, moreDigits, rfl⟩ |
      ⟨_, rfl, fraction, ⟨filled, fractionDigits⟩, rfl⟩)
    -- without a point, the further digits belong to those before it
    · exact ⟨whole ++ more, none, by simp [Spelling.pointed], by simp [filled],
        by simpa using List.forall_mem_append.mpr ⟨wholeDigits, moreDigits⟩⟩
    · exact ⟨whole, some more, by simp [Spelling.pointed], by simp [filled],
        List.forall_mem_append.mpr ⟨wholeDigits, moreDigits⟩⟩
    · exact ⟨[], some fraction, rfl, filled, fractionDigits⟩
  · rintro ⟨whole, fraction, rfl, filled, each⟩
    obtain ⟨wholeDigits, fractionDigits⟩ := List.forall_mem_append.mp each
    cases fraction with
    | none =>
        rw [Option.getD_none, List.append_nil] at filled
        exact .inl ⟨whole, ⟨whole, ⟨filled, wholeDigits⟩, [], .inl rfl, List.append_nil _⟩, [],
          by simp, rfl⟩
    | some fraction =>
        by_cases bare : whole = []
        · subst bare
          exact .inr ⟨['.'], rfl, fraction, ⟨filled, fractionDigits⟩, rfl⟩
        · exact .inl ⟨whole ++ ['.'], ⟨whole, ⟨bare, wholeDigits⟩, ['.'], .inr rfl, rfl⟩, fraction,
            fractionDigits, by simp [Spelling.pointed]⟩

theorem mem_mark :
    word ∈ mark ↔ ∃ character, Decimal.isExponentMark character = true ∧ word = [character] := by
  rw [mark, mem_pair]
  simp [Decimal.isExponentMark, or_and_right, exists_or]

theorem mem_optional_exponent :
    word ∈ optional exponent ↔
      ∃ written : Option Exponent, written.elim [] Exponent.chars = word ∧
        ∀ present ∈ written, present.IsOver isDecimalDigit := by
  rw [mem_optional]
  simp only [exponent, Language.mem_mul, mem_mark, mem_optional_sign, mem_digits]
  constructor
  · rintro (rfl | ⟨_, ⟨_, ⟨mark, isMark, rfl⟩, _, ⟨sign, rfl⟩, rfl⟩, digits, ⟨filled, each⟩, rfl⟩)
    · exact ⟨none, rfl, by simp⟩
    · refine ⟨some ⟨mark, sign, digits⟩, by simp [Exponent.chars], ?_⟩
      intro present same
      obtain rfl := Option.some.inj same
      exact ⟨isMark, filled, each⟩
  · rintro ⟨written, rfl, present⟩
    cases written with
    | none => exact .inl rfl
    | some written =>
        obtain ⟨isMark, filled, each⟩ := present written rfl
        exact .inr ⟨_, ⟨_, ⟨written.mark, isMark, rfl⟩, _, ⟨written.sign, rfl⟩, rfl⟩,
          written.digits, ⟨filled, each⟩, by simp [Exponent.chars]⟩

/-- The words of the grammar are the texts with a number and blanks around it. -/
theorem mem_numeral (text : String) :
    text.toList ∈ numeral ↔
      ∃ spelling : Spelling, spelling.IsOver isDecimalDigit ∧ spelling.IsWrittenIn text := by
  simp only [numeral, blanks, Language.mem_mul, mem_kstar_oneOf, mem_optional_sign, mem_mantissa,
    mem_optional_exponent]
  constructor
  · rintro ⟨_, ⟨_, ⟨_, ⟨before, blankBefore, _, ⟨sign, rfl⟩, rfl⟩, _,
      ⟨whole, fraction, rfl, filled, each⟩, rfl⟩, _, ⟨exponent, rfl, present⟩, rfl⟩, after,
      blankAfter, same⟩
    refine ⟨⟨sign, whole, fraction, exponent⟩, ⟨filled, each, present⟩, before, after, ?_,
      blankBefore, blankAfter⟩
    simp only [← same, Spelling.chars, Spelling.mantissa, Spelling.power, List.append_assoc]
  · rintro ⟨spelling, ⟨filled, each, present⟩, before, after, same, blankBefore, blankAfter⟩
    refine ⟨_, ⟨_, ⟨_, ⟨before, blankBefore, _, ⟨spelling.sign, rfl⟩, rfl⟩, _,
      ⟨spelling.whole, spelling.fraction, rfl, filled, each⟩, rfl⟩, _,
      ⟨spelling.exponent, rfl, present⟩, rfl⟩, after, blankAfter, ?_⟩
    simp only [same, Spelling.chars, Spelling.mantissa, Spelling.power, List.append_assoc]

end Grammar

/--
The recogniser accepts a text exactly if there is a way to split it into blanks, an optional
sign, a mantissa, an optional exponent and blanks.
-/
theorem isNumeral_iff_mem_grammar (text : String) :
    isNumeral text = true ↔ text.toList ∈ Grammar.numeral := by
  rw [isNumeral_iff_exists_spelling, Grammar.mem_numeral]

end Text
end RuleClause
