import Mathlib.Algebra.Order.Field.Rat
import Mathlib.Tactic.FieldSimp
import Mathlib.Tactic.Linarith
import Mathlib.Tactic.Positivity
import Mathlib.Tactic.Ring
import RuleClause.Number.Reader
import RuleClause.Proofs.Numeral.Spelling

/-!
# What a number stands for

The rational number that a spelling stands for, and the one that a decimal stands for.  A decimal
and its text stand for the same number, with or without zeros at the end.
-/

namespace RuleClause

namespace Number

theorem digitsValue_eq_ofDigitChars (digits : List Char) :
    digitsValue digits = Nat.ofDigitChars 10 digits 0 := by
  simp only [digitsValue, digitValue, Nat.ofDigitChars, Nat.mul_comm]

theorem digitsValue_append (first second : List Char) :
    digitsValue (first ++ second) =
      digitsValue first * 10 ^ second.length + digitsValue second := by
  simp only [digitsValue_eq_ofDigitChars, Nat.ofDigitChars_append]
  rw [Nat.ofDigitChars_eq_ofDigitChars_zero, Nat.mul_comm]

theorem digitsValue_cons (digit : Char) (rest : List Char) :
    digitsValue (digit :: rest) = digitValue digit * 10 ^ rest.length + digitsValue rest := by
  have single : digitsValue [digit] = digitValue digit := by simp [digitsValue]
  rw [← single, ← digitsValue_append, List.singleton_append]

theorem digitsValue_toDigits (number : Nat) : digitsValue (Nat.toDigits 10 number) = number := by
  rw [digitsValue_eq_ofDigitChars, Nat.ofDigitChars_ten_toDigits]

theorem digitValue_le_nine {digit : Char} (ascii : digit.isDigit = true) :
    digitValue digit ≤ 9 := by
  simp only [Char.isDigit, Bool.and_eq_true, decide_eq_true_eq] at ascii
  have upper : digit.toNat ≤ 57 := ascii.2
  have zero : '0'.toNat = 48 := rfl
  rw [digitValue, zero]
  omega

/-- The number that digits behind the point stand for. -/
def fractionValue (digits : List Char) : ℚ :=
  digitsValue digits / 10 ^ digits.length

@[simp]
theorem fractionValue_nil : fractionValue [] = 0 := by
  simp [fractionValue, digitsValue]

theorem fractionValue_cons (digit : Char) (rest : List Char) :
    fractionValue (digit :: rest) = (digitValue digit + fractionValue rest) / 10 := by
  unfold fractionValue
  rw [digitsValue_cons, List.length_cons]
  push_cast
  field_simp
  ring

theorem fractionValue_nonneg (digits : List Char) : 0 ≤ fractionValue digits := by
  unfold fractionValue
  positivity

theorem fractionValue_lt_one
    {digits : List Char}
    (each : ∀ digit ∈ digits, digit.isDigit = true) :
    fractionValue digits < 1 := by
  induction digits with
  | nil => simp
  | cons digit rest inductionHypothesis =>
      have later := inductionHypothesis fun other member =>
        each other (List.mem_cons_of_mem _ member)
      have first : (digitValue digit : ℚ) ≤ 9 := by
        exact_mod_cast digitValue_le_nine (each digit List.mem_cons_self)
      rw [fractionValue_cons]
      linarith

end Number

namespace Text

open Number

/-- The number of places that an exponent asks for. -/
def Exponent.places (exponent : Exponent) : Nat :=
  digitsValue exponent.digits

namespace Spelling

/-- The number of places by which the exponent shifts the point. -/
def places (spelling : Spelling) : Nat :=
  spelling.exponent.elim 0 Exponent.places

/-- The exponent shifts the point to the left. -/
def shiftsLeft (spelling : Spelling) : Bool :=
  spelling.exponent.any fun exponent => exponent.sign = .minus

/-- The number in front of the exponent, without its sign. -/
def base (spelling : Spelling) : ℚ :=
  digitsValue spelling.whole + fractionValue (spelling.fraction.getD [])

/-- The number without its sign. -/
def magnitude (spelling : Spelling) : ℚ :=
  if spelling.shiftsLeft then spelling.base / 10 ^ spelling.places
  else spelling.base * 10 ^ spelling.places

/-- The number that is written. -/
def value (spelling : Spelling) : ℚ :=
  if spelling.sign = .minus then -spelling.magnitude else spelling.magnitude

theorem value_withoutPlus (spelling : Spelling) : spelling.withoutPlus.value = spelling.value := by
  unfold withoutPlus
  split
  · rename_i plus
    simp only [value, plus, reduceCtorEq, if_false]
    rfl
  · rfl

theorem base_nonneg (spelling : Spelling) : 0 ≤ spelling.base :=
  add_nonneg (Nat.cast_nonneg _) (fractionValue_nonneg _)

end Spelling

/-- A text holds a number, over the digits of ASCII and between blanks, with the given value. -/
def Denotes (text : String) (value : ℚ) : Prop :=
  ∃ spelling : Spelling, spelling.IsOver Char.isDigit ∧ spelling.IsWrittenIn text ∧
    spelling.value = value

theorem Denotes.unique
    {text : String}
    {first second : ℚ}
    (denotes : Denotes text first)
    (denotesSecond : Denotes text second) :
    first = second := by
  obtain ⟨spelling, spelled, written, rfl⟩ := denotes
  obtain ⟨other, spelledOther, writtenOther, rfl⟩ := denotesSecond
  rw [spelled.decimal.eq_of_isWrittenIn spelledOther.decimal written writtenOther]

/-- The characters of a number, and nothing else, denote its value. -/
theorem Spelling.IsOver.denotes_ofList
    {spelling : Spelling}
    (spelled : spelling.IsOver Char.isDigit) :
    Denotes (String.ofList spelling.chars) spelling.value :=
  ⟨spelling, spelled, ⟨[], [], by simp, by simp, by simp⟩, rfl⟩

end Text

namespace Decimal

open Number

/-- The number that a decimal stands for, without its sign. -/
def magnitude (decimal : Decimal) : ℚ :=
  decimal.coefficient / 10 ^ decimal.scale

/-- The number that a decimal stands for. -/
def value (decimal : Decimal) : ℚ :=
  if decimal.negative then -decimal.magnitude else decimal.magnitude

/-! ## The text of a decimal -/

theorem length_fractionDigits
    {fraction scale : Nat}
    (places : scale ≠ 0)
    (below : fraction < 10 ^ scale) :
    (fractionDigits fraction scale).length = scale := by
  have fits := (Nat.length_toDigits_le_iff (by decide) (Nat.pos_of_ne_zero places)).mpr below
  simp only [fractionDigits, List.length_append, List.length_replicate]
  omega

theorem digitsValue_fractionDigits (fraction scale : Nat) :
    digitsValue (fractionDigits fraction scale) = fraction := by
  have zeros (count : Nat) : digitsValue (List.replicate count '0') = 0 := by
    rw [digitsValue_eq_ofDigitChars, Nat.ofDigitChars_replicate_zero, Nat.mul_zero]
  rw [fractionDigits, digitsValue_append, zeros, digitsValue_toDigits]
  omega

theorem base_spelling (decimal : Decimal) : decimal.spelling.base = decimal.magnitude := by
  obtain ⟨negative, coefficient, scale⟩ := decimal
  have unit : (0 : ℚ) < 10 ^ scale := by positivity
  have split : ((coefficient / 10 ^ scale : Nat) : ℚ) * 10 ^ scale +
      (coefficient % 10 ^ scale : Nat) = coefficient := by
    exact_mod_cast Nat.div_add_mod' coefficient (10 ^ scale)
  simp only [Text.Spelling.base, spelling, magnitude, digitsValue_toDigits, Nat.pow_eq]
  rw [eq_div_iff unit.ne', ← split, add_mul]
  congr 1
  by_cases whole : scale = 0
  · simp [whole, Nat.mod_one]
  · rw [if_neg whole, Option.getD_some, fractionValue, digitsValue_fractionDigits,
      length_fractionDigits whole (Nat.mod_lt _ (by positivity)), div_mul_cancel₀ _ unit.ne']

theorem value_spelling (decimal : Decimal) : decimal.spelling.value = decimal.value := by
  have positional : decimal.spelling.magnitude = decimal.magnitude := by
    rw [← base_spelling]
    simp [Text.Spelling.magnitude, Text.Spelling.shiftsLeft, Text.Spelling.places, spelling]
  rw [Text.Spelling.value, positional, value]
  cases negative : decimal.negative <;> simp [spelling, negative]

theorem trimScale_value (coefficient scale : Nat) :
    ((trimScale coefficient scale).1 : ℚ) / 10 ^ (trimScale coefficient scale).2 =
      coefficient / 10 ^ scale := by
  induction scale generalizing coefficient with
  | zero => rfl
  | succ scale inductionHypothesis =>
      rw [trimScale]
      split
      · rename_i divisible
        have tenth : (coefficient : ℚ) = (coefficient / 10 : Nat) * 10 := by
          exact_mod_cast (Nat.div_mul_cancel (Nat.dvd_of_mod_eq_zero divisible)).symm
        rw [inductionHypothesis, tenth, pow_succ]
        field_simp
      · rfl

/-- Without needless zeros a decimal stands for the same number. -/
theorem value_normalize (decimal : Decimal) : decimal.normalize.value = decimal.value := by
  obtain ⟨negative, coefficient, scale⟩ := decimal
  unfold normalize
  split
  · rename_i zero
    simp only at zero
    simp [value, magnitude, zero]
  · simp only [value, magnitude, trimScale_value]

/-- The text of a decimal without needless zeros denotes the number of the decimal alone. -/
theorem denotes_normalize_iff (decimal : Decimal) (number : ℚ) :
    Text.Denotes (String.ofList decimal.normalize.toChars) number ↔ decimal.value = number := by
  have own := decimal.normalize.isOver_spelling.denotes_ofList
  rw [chars_spelling, value_spelling, value_normalize] at own
  constructor
  · exact fun denotes => own.unique denotes
  · rintro rfl
    exact own

end Decimal
end RuleClause
