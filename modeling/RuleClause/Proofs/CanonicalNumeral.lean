import RuleClause.Proofs.NumberToken
import RuleClause.Proofs.NumeralExactness

/-!
# Canonical forms of numerals are stable

The canonical form of a numeral is its own canonical form.  If it goes through a decimal, the text
of the decimal is read back as the same decimal, since its digits fit and there are no zeros to be
dropped.  If no decimal is read, the text is kept, and so it is the second time.
-/

namespace RuleClause
namespace Decimal

open Number Text

/-- The coefficient and the scale are within their bounds. -/
structure IsBounded (decimal : Decimal) : Prop where
  /-- The coefficient stays below its bound. -/
  coefficient : decimal.coefficient < coefficientBound
  /-- The scale is one that a decimal can have. -/
  scale : decimal.scale ≤ maxScale

/-- There are no zeros at the end of the fraction, and zero has no sign. -/
structure IsNormal (decimal : Decimal) : Prop where
  /-- The last digit of a fraction is not zero. -/
  trimmed : decimal.scale ≠ 0 → decimal.coefficient % 10 ≠ 0
  /-- Zero is not negative. -/
  unsigned : decimal.coefficient = 0 → decimal.negative = false

/-! ## Decimals that are read are bounded -/

namespace Reading

/-- The coefficient and the scale read so far are within their bounds. -/
structure IsBounded (reading : Reading) : Prop where
  /-- The coefficient stays below its bound. -/
  coefficient : reading.coefficient < coefficientBound
  /-- The scale is one that a decimal can have. -/
  scale : reading.scale ≤ maxScale

variable {reading next : Reading} {digit : Nat}

theorem isBounded_start : start.IsBounded :=
  ⟨by decide, Nat.zero_le _⟩

theorem IsBounded.round?
    (bounded : reading.IsBounded)
    (rounded : reading.round? digit = some next) :
    next.IsBounded := by
  have scale := bounded.scale
  have coefficient := bounded.coefficient
  simp only [Reading.round?] at rounded
  generalize lifted : (if 5 ≤ digit then 1 else 0) = lift at rounded
  have small : lift ≤ 1 := by
    rw [← lifted]
    split <;> omega
  split_ifs at rounded with fits whole
  · obtain rfl := Option.some.inj rounded
    exact ⟨fits, scale⟩
  · obtain rfl := Option.some.inj rounded
    rw [coefficientBound_eq] at coefficient
    refine ⟨?_, Nat.le_trans (Nat.sub_le _ _) scale⟩
    simp only [coefficientBound_eq]
    omega

theorem IsBounded.digit?
    (bounded : reading.IsBounded)
    (taken : reading.digit? digit = some next) :
    next.IsBounded := by
  simp only [Reading.digit?] at taken
  split_ifs at taken with settled pointed fits fits
  · obtain rfl := Option.some.inj taken
    exact bounded
  · obtain rfl := Option.some.inj taken
    exact ⟨fits.2, fits.1⟩
  · exact bounded.round? taken
  · obtain rfl := Option.some.inj taken
    exact ⟨fits, bounded.scale⟩

theorem IsBounded.step?
    {character : Char}
    (bounded : reading.IsBounded)
    (taken : reading.step? character = some next) :
    next.IsBounded := by
  unfold Reading.step? at taken
  split_ifs at taken
  · exact bounded.digit? taken
  · obtain rfl := Option.some.inj taken
    exact ⟨bounded.coefficient, bounded.scale⟩
  · obtain rfl := Option.some.inj taken
    exact ⟨bounded.coefficient, bounded.scale⟩

theorem IsBounded.run?
    {characters : List Char}
    (bounded : reading.IsBounded)
    (ran : reading.run? characters = some next) :
    next.IsBounded := by
  induction characters generalizing reading with
  | nil =>
      obtain rfl := Option.some.inj ran
      exact bounded
  | cons character rest inductionHypothesis =>
      obtain ⟨second, first, later⟩ := Option.bind_eq_some_iff.mp ran
      exact inductionHypothesis (bounded.step? first) later

end Reading

section

variable {decimal shifted : Decimal} {characters : List Char} {places : Nat}

theorem isBounded_of_ofPlain? (read : ofPlain? characters = some decimal) : decimal.IsBounded := by
  unfold ofPlain? at read
  obtain ⟨reading, ran, started⟩ := Option.bind_eq_some_iff.mp read
  have bounded := Reading.isBounded_start.run? ran
  split_ifs at started
  obtain rfl := Option.some.inj started
  exact ⟨bounded.coefficient, bounded.scale⟩

theorem IsBounded.shiftLeft?
    (bounded : decimal.IsBounded)
    (moved : decimal.shiftLeft? places = some shifted) :
    shifted.IsBounded := by
  unfold Decimal.shiftLeft? at moved
  split_ifs at moved with far inside
  · obtain rfl := Option.some.inj moved
    exact ⟨bounded.coefficient, inside⟩
  · obtain rfl := Option.some.inj moved
    have dropped : decimal.scale - (maxScale - places) ≠ 0 := by omega
    exact ⟨Nat.lt_of_le_of_lt (dropDigits_le _ dropped) bounded.coefficient, Nat.le_refl _⟩

theorem IsBounded.shiftRight?
    (bounded : decimal.IsBounded)
    (moved : decimal.shiftRight? places = some shifted) :
    shifted.IsBounded := by
  simp only [Decimal.shiftRight?] at moved
  split_ifs at moved with far inside fits
  · obtain rfl := Option.some.inj moved
    exact ⟨bounded.coefficient, Nat.le_trans (Nat.sub_le _ _) bounded.scale⟩
  · obtain rfl := Option.some.inj moved
    exact ⟨fits, Nat.zero_le _⟩

theorem isBounded_of_ofScientific? (read : ofScientific? characters = some decimal) :
    decimal.IsBounded := by
  unfold ofScientific? at read
  split at read
  · simp at read
  · obtain ⟨base, plain, moved⟩ := Option.bind_eq_some_iff.mp read
    have bounded := isBounded_of_ofPlain? plain
    split at moved
    · obtain ⟨places, _, moved⟩ := Option.bind_eq_some_iff.mp moved
      exact bounded.shiftLeft? moved
    · obtain ⟨places, _, moved⟩ := Option.bind_eq_some_iff.mp moved
      exact bounded.shiftRight? moved

/-- Whatever is read as a decimal is within its bounds. -/
theorem isBounded_of_ofChars? (read : ofChars? characters = some decimal) :
    decimal.IsBounded := by
  rcases Option.or_eq_some_iff.mp read with plain | ⟨_, scientific⟩
  · exact isBounded_of_ofPlain? plain
  · exact isBounded_of_ofScientific? scientific

end

/-! ## Zeros at the end -/

theorem trimScale_le (coefficient scale : Nat) :
    (trimScale coefficient scale).1 ≤ coefficient ∧ (trimScale coefficient scale).2 ≤ scale := by
  induction scale generalizing coefficient with
  | zero => exact ⟨Nat.le_refl _, Nat.le_refl _⟩
  | succ scale inductionHypothesis =>
      rw [trimScale]
      split
      · obtain ⟨smaller, fewer⟩ := inductionHypothesis (coefficient / 10)
        exact ⟨Nat.le_trans smaller (Nat.div_le_self _ _), Nat.le_succ_of_le fewer⟩
      · exact ⟨Nat.le_refl _, Nat.le_refl _⟩

theorem trimScale_trimmed (coefficient scale : Nat) (some : coefficient ≠ 0) :
    (trimScale coefficient scale).1 ≠ 0 ∧
      ((trimScale coefficient scale).2 ≠ 0 → (trimScale coefficient scale).1 % 10 ≠ 0) := by
  induction scale generalizing coefficient with
  | zero => exact ⟨some, fun none => absurd rfl none⟩
  | succ scale inductionHypothesis =>
      rw [trimScale]
      split
      · rename_i divisible
        exact inductionHypothesis (coefficient / 10) (by omega)
      · rename_i last
        exact ⟨some, fun _ => last⟩

theorem trimScale_of_trimmed
    {coefficient scale : Nat}
    (trimmed : scale ≠ 0 → coefficient % 10 ≠ 0) :
    trimScale coefficient scale = (coefficient, scale) := by
  cases scale with
  | zero => rfl
  | succ scale => rw [trimScale, if_neg (trimmed (Nat.succ_ne_zero scale))]

theorem isNormal_normalize (decimal : Decimal) : decimal.normalize.IsNormal := by
  unfold normalize
  split
  · exact ⟨fun none => absurd rfl none, fun _ => rfl⟩
  · rename_i some
    obtain ⟨nonzero, trimmed⟩ := trimScale_trimmed decimal.coefficient decimal.scale some
    exact ⟨trimmed, fun zero => absurd zero nonzero⟩

/-- What is in normal form already stays as it is. -/
theorem IsNormal.normalize_eq {decimal : Decimal} (normal : decimal.IsNormal) :
    decimal.normalize = decimal := by
  obtain ⟨negative, coefficient, scale⟩ := decimal
  unfold normalize
  split
  · rename_i zero
    obtain rfl : coefficient = 0 := zero
    obtain rfl : negative = false := normal.unsigned rfl
    obtain rfl : scale = 0 := by
      by_contra places
      exact normal.trimmed places rfl
    rfl
  · rw [trimScale_of_trimmed normal.trimmed]

theorem IsBounded.normalize {decimal : Decimal} (bounded : decimal.IsBounded) :
    decimal.normalize.IsBounded := by
  obtain ⟨smaller, fewer⟩ := trimScale_le decimal.coefficient decimal.scale
  unfold Decimal.normalize
  split
  · exact ⟨by decide, Nat.zero_le _⟩
  · exact ⟨Nat.lt_of_le_of_lt smaller bounded.coefficient, Nat.le_trans fewer bounded.scale⟩

/-! ## The text of a decimal is read back -/

/-- Digits behind the point that fit are all taken up. -/
theorem Reading.run?_fraction
    {coefficient scale : Nat}
    {digits : List Char}
    (started : Bool)
    (each : ∀ digit ∈ digits, digit.isDigit = true)
    (fits : coefficient * 10 ^ digits.length + digitsValue digits < coefficientBound)
    (room : scale + digits.length ≤ maxScale) :
    run? ⟨coefficient, scale, true, started, false⟩ digits =
      some ⟨coefficient * 10 ^ digits.length + digitsValue digits, scale + digits.length, true,
        started || ! digits.isEmpty, false⟩ := by
  induction digits generalizing coefficient scale started with
  | nil => simp [run?, digitsValue]
  | cons digit rest inductionHypothesis =>
      have total : coefficient * 10 ^ (digit :: rest).length + digitsValue (digit :: rest) =
          (coefficient * 10 + digitValue digit) * 10 ^ rest.length + digitsValue rest := by
        rw [digitsValue_cons, List.length_cons]
        ring
      rw [total] at fits ⊢
      rw [List.length_cons] at room
      have grows := Nat.le_mul_of_pos_right (coefficient * 10 + digitValue digit)
        (Nat.pow_pos (n := rest.length) (by decide : 0 < 10))
      rw [run?, step?_of_isDigit (each digit List.mem_cons_self), digit?]
      simp only [Bool.false_eq_true, if_false, if_true]
      rw [if_pos ⟨by omega, by omega⟩, Option.bind_some,
        inductionHypothesis true (fun other member => each other (List.mem_cons_of_mem _ member))
          fits (by omega)]
      simp [Nat.add_comm, Nat.add_left_comm]

theorem IsBounded.run?_mantissa {decimal : Decimal} (bounded : decimal.IsBounded) :
    ∃ reading, Reading.start.run? decimal.spelling.mantissa = some reading ∧
      reading.started = true ∧ reading.coefficient = decimal.coefficient ∧
      reading.scale = decimal.scale := by
  obtain ⟨negative, coefficient, scale⟩ := decimal
  obtain ⟨small, most⟩ := bounded
  simp only at small most
  have unit : 0 < 10 ^ scale := by positivity
  have parts := Nat.div_add_mod' coefficient (10 ^ scale)
  have whole : coefficient / 10 ^ scale < coefficientBound :=
    Nat.lt_of_le_of_lt (Nat.div_le_self _ _) small
  have wholeDigits : ∀ digit ∈ Nat.toDigits 10 (coefficient / 10 ^ scale), digit.isDigit = true :=
    fun digit => Nat.isDigit_of_mem_toDigits (by decide) (by decide)
  have filled : (Nat.toDigits 10 (coefficient / 10 ^ scale)).isEmpty = false := by
    simp [Nat.toDigits_ne_nil]
  simp only [spelling, Spelling.mantissa, Nat.pow_eq]
  rw [Reading.run?_append, Reading.start, Reading.run?_whole (by decide) false wholeDigits]
  simp only [Nat.zero_mul, Nat.zero_add, digitsValue_toDigits, if_pos whole, filled,
    Option.bind_some]
  by_cases none : scale = 0
  · subst none
    exact ⟨_, rfl, rfl, by simp, rfl⟩
  · have length := length_fractionDigits none (Nat.mod_lt coefficient unit)
    have value := digitsValue_fractionDigits (coefficient % 10 ^ scale) scale
    rw [if_neg none]
    change ∃ reading, Reading.run? ⟨coefficient / 10 ^ scale, 0, true, true, false⟩
      (fractionDigits (coefficient % 10 ^ scale) scale) = some reading ∧ _
    rw [Reading.run?_fraction true (fun _ => isDigit_of_mem_fractionDigits)
      (by rw [length, value, parts]; exact small) (by rw [length]; omega)]
    refine ⟨_, rfl, rfl, ?_, ?_⟩
    · simp only [length, value, parts]
    · simp only [length, Nat.zero_add]

/-- The text of a decimal within its bounds is read as the decimal. -/
theorem IsBounded.ofPlain?_toChars {decimal : Decimal} (bounded : decimal.IsBounded) :
    ofPlain? decimal.toChars = some decimal := by
  obtain ⟨reading, ran, started, coefficient, scale⟩ := bounded.run?_mantissa
  have spelled := decimal.isOver_spelling.decimal
  have powerless : decimal.spelling.power = [] := rfl
  have minus : decide (decimal.spelling.sign = .minus) = decimal.negative := by
    cases negative : decimal.negative <;> simp [spelling, negative]
  rw [← chars_spelling, Spelling.chars, ofPlain?_signed _ fun _ => spelled.isSign_of_mem_head?,
    powerless, List.append_nil, ran, Option.bind_some, if_pos started, minus, coefficient, scale]

end Decimal

namespace Text

open Decimal

/--
A text without what a canonical form has no need of: plus signs, blanks, an exponent, and zeros at
the end of a fraction.
-/
structure IsCanonical (text : String) : Prop where
  /-- There is no plus sign. -/
  unsigned : '+' ∉ text.toList
  /-- There are no blanks. -/
  solid : ∀ character ∈ text.toList, isBlank character = false
  /-- There is no exponent. -/
  positional : ∀ character ∈ text.toList, isExponentMark character = false
  /-- Where there is a point, zero is not the last digit. -/
  trimmed : '.' ∈ text.toList → text.toList.getLast? ≠ some '0'

theorem canonicalNumeral_toChars
    {decimal : Decimal}
    (bounded : decimal.IsBounded)
    (normal : decimal.IsNormal) :
    canonicalNumeral (String.ofList decimal.toChars) = String.ofList decimal.toChars := by
  have bare : bareNumeral (String.ofList decimal.toChars).toList = decimal.toChars := by
    rw [← chars_spelling]
    exact decimal.isOver_spelling.decimal.bareNumeral_ofList decimal.sign_spelling_ne
  have read : ofChars? (bareNumeral (String.ofList decimal.toChars).toList) = some decimal := by
    rw [bare, ofChars?, bounded.ofPlain?_toChars, Option.some_or]
  rw [canonicalNumeral_of_ofChars? read, normal.normalize_eq]

/-- The last digit of a fraction in normal form is not zero. -/
theorem getLast?_fractionDigits_ne
    {coefficient scale : Nat}
    (places : scale ≠ 0)
    (trimmed : coefficient % 10 ≠ 0) :
    (fractionDigits (coefficient % 10 ^ scale) scale).getLast? ≠ some '0' := by
  intro last
  obtain ⟨front, digits⟩ := List.getLast?_eq_some_iff.mp last
  have value := digitsValue_fractionDigits (coefficient % 10 ^ scale) scale
  rw [digits, Number.digitsValue_append] at value
  have zero : Number.digitsValue ['0'] = 0 := rfl
  have tenth : coefficient % 10 ^ scale % 10 = coefficient % 10 :=
    Nat.mod_mod_of_dvd coefficient (dvd_pow_self 10 places)
  rw [zero, List.length_singleton, pow_one] at value
  omega

/-- The text of a decimal ends in the last digit of its fraction, if it has a point. -/
theorem getLast?_toChars
    {decimal : Decimal}
    (point : '.' ∈ decimal.toChars) :
    decimal.scale ≠ 0 ∧ decimal.toChars.getLast? =
      (fractionDigits (decimal.coefficient % 10 ^ decimal.scale) decimal.scale).getLast? := by
  have signless (sign : Sign) : '.' ∉ sign.chars := fun member =>
    absurd (Sign.isSign_of_mem_chars member) (by decide)
  have places : decimal.scale ≠ 0 := by
    intro none
    rw [← chars_spelling, Spelling.chars] at point
    simp only [spelling, none, Spelling.mantissa, Spelling.power, Spelling.pointed,
      Option.elim_none, if_true, List.append_nil, List.mem_append, signless, false_or] at point
    exact absurd (Nat.isDigit_of_mem_toDigits (by decide) (by decide) point) (by decide)
  have length := length_fractionDigits places
    (Nat.mod_lt decimal.coefficient (by positivity : 0 < 10 ^ decimal.scale))
  have filled : fractionDigits (decimal.coefficient % 10 ^ decimal.scale) decimal.scale ≠ [] := by
    intro empty
    rw [empty, List.length_nil] at length
    exact places length.symm
  refine ⟨places, ?_⟩
  simp only [toChars, if_neg places, Nat.pow_eq]
  rw [List.getLast?_append_of_ne_nil _ (List.cons_ne_nil _ _), List.getLast?_cons_of_ne_nil filled]

theorem isCanonical_toChars {decimal : Decimal} (normal : decimal.IsNormal) :
    IsCanonical (String.ofList decimal.toChars) := by
  have spelled := decimal.isOver_spelling
  have positional : decimal.toChars = decimal.spelling.sign.chars ++ decimal.spelling.mantissa := by
    rw [← chars_spelling, Spelling.chars, show decimal.spelling.power = [] from rfl,
      List.append_nil]
  constructor <;> rw [String.toList_ofList]
  · rw [positional]
    intro plus
    rcases List.mem_append.mp plus with signed | mantissa
    · refine decimal.sign_spelling_ne ?_
      cases sign : decimal.spelling.sign <;> simp_all [Sign.chars]
    · rcases spelled.digit_or_point mantissa with digit | point
      · exact absurd digit (by decide)
      · exact absurd point (by decide)
  · rw [← chars_spelling]
    exact fun character => spelled.decimal.isBlank_of_mem_chars
  · rw [positional]
    exact fun character => isExponentMark_of_mem_mantissa spelled
  · intro point
    obtain ⟨places, last⟩ := getLast?_toChars point
    rw [last]
    exact getLast?_fractionDigits_ne places (normal.trimmed places)

/--
The canonical form of a numeral is its own canonical form.  If it is that of a decimal, there is
nothing in it that a canonical form has no need of.
-/
theorem canonicalNumeral_canonicalNumeral
    {text : String}
    (numeral : isNumeral text = true) :
    canonicalNumeral (canonicalNumeral text) = canonicalNumeral text ∧
      ∀ decimal, ofChars? (bareNumeral text.toList) = some decimal →
        IsCanonical (canonicalNumeral text) := by
  obtain ⟨spelling, spelled, written⟩ := exists_spelling numeral
  have bare := spelled.bareNumeral_eq written
  cases read : ofChars? (bareNumeral text.toList) with
  | some decimal =>
      rw [canonicalNumeral_of_ofChars? read]
      have normal := decimal.isNormal_normalize
      refine ⟨canonicalNumeral_toChars (isBounded_of_ofChars? read).normalize normal, ?_⟩
      exact fun _ _ => isCanonical_toChars normal
  | none =>
      have again : bareNumeral (String.ofList (bareNumeral text.toList)).toList =
          bareNumeral text.toList := by
        rw [bare]
        exact spelled.withoutPlus.bareNumeral_ofList spelling.sign_withoutPlus_ne
      rw [canonicalNumeral_of_refused read]
      refine ⟨?_, by simp⟩
      rw [canonicalNumeral_of_refused (by rw [again, read]), again]

/-- A number between blanks, with a sign, a needless zero and an exponent. -/
theorem canonicalNumeral_canonicalNumeral_of_eighth :
    isNumeral "\t+12.50E-2 " = true ∧
      canonicalNumeral (canonicalNumeral "\t+12.50E-2 ") = canonicalNumeral "\t+12.50E-2 " ∧
      IsCanonical (canonicalNumeral "\t+12.50E-2 ") := by
  have numeral : isNumeral "\t+12.50E-2 " = true := by decide +kernel
  have read : ofChars? (bareNumeral "\t+12.50E-2 ".toList) = some ⟨false, 1250, 4⟩ := by
    decide +kernel
  obtain ⟨stable, canonical⟩ := canonicalNumeral_canonicalNumeral numeral
  exact ⟨numeral, stable, canonical _ read⟩

end Text
end RuleClause
