import Mathlib.Algebra.Order.AbsoluteValue.Basic
import RuleClause.Proofs.NumeralExactness
import RuleClause.Proofs.Numeral.FloatText

/-!
# When a floating-point number keeps its value

In a condition a floating-point number is written through a decimal.  The number stays the same
unless it has digits beyond the last place of decimals without being smaller than all that they
can hold.  Seventeen digits are few enough for every other number: those that are written without
an exponent fit, those that are too large or too small for decimals are kept as they are, and the
rest are whole numbers that fit.  Rounding never makes a number zero.
-/

namespace RuleClause

namespace Decimal

open Text

/-- A number is below the least unit of decimals, or a whole number of such units. -/
def AvoidsRounding (number : ℚ) : Prop :=
  |number| < 1 / 10 ^ maxScale ∨ ∃ units : ℤ, number * 10 ^ maxScale = units

theorem avoidsRounding_neg (number : ℚ) : AvoidsRounding (-number) ↔ AvoidsRounding number := by
  have whole : (∃ units : ℤ, -number * 10 ^ maxScale = units) ↔
      ∃ units : ℤ, number * 10 ^ maxScale = units := by
    constructor
    · rintro ⟨units, same⟩
      refine ⟨-units, ?_⟩
      push_cast
      linarith
    · rintro ⟨units, same⟩
      refine ⟨-units, ?_⟩
      push_cast
      linarith
  rw [AvoidsRounding, AvoidsRounding, abs_neg, whole]

/-- What decimals hold is a whole number of their least units. -/
theorem Holds.exists_units {magnitude : ℚ} (held : Holds magnitude) :
    ∃ units : ℤ, magnitude * 10 ^ maxScale = units := by
  obtain ⟨coefficient, scale, _, scaled, rfl⟩ := held
  refine ⟨(coefficient * 10 ^ (maxScale - scale) : Nat), ?_⟩
  have split : (10 : ℚ) ^ maxScale = 10 ^ scale * 10 ^ (maxScale - scale) := by
    rw [← pow_add, Nat.add_sub_cancel' scaled]
  rw [split]
  push_cast
  field_simp

/-- Decimals hold every number of least units below one. -/
theorem holds_of_units
    {magnitude : ℚ}
    {units : ℤ}
    (nonneg : 0 ≤ magnitude)
    (small : magnitude < 1)
    (same : magnitude * 10 ^ maxScale = units) :
    Holds magnitude := by
  have unit : (0 : ℚ) < 10 ^ maxScale := by positivity
  have positive : (0 : ℚ) ≤ units := by
    rw [← same]
    positivity
  obtain ⟨count, rfl⟩ := Int.eq_ofNat_of_zero_le (by exact_mod_cast positive : 0 ≤ units)
  have below : (count : ℚ) < (10 ^ maxScale : Nat) := by
    have scaled := mul_lt_mul_of_pos_right small unit
    rw [same, one_mul] at scaled
    exact_mod_cast scaled
  have few : count < 10 ^ maxScale := by exact_mod_cast below
  refine ⟨count, maxScale, few.trans (by decide), Nat.le_refl _, ?_⟩
  rw [eq_div_iff unit.ne', same]
  rfl

/-! ## What a shift leaves of a coefficient -/

/-- Shifting the point makes no coefficient zero, unless it shifts all of its digits away. -/
theorem coefficient_shiftAs?_eq_zero_iff
    {spelling : Spelling}
    {decimal shifted : Decimal}
    (large : spelling.shiftsLeft = true → 10 ^ decimal.scale ≤ decimal.coefficient)
    (moved : shiftAs? spelling decimal = some shifted) :
    shifted.coefficient = 0 ↔ decimal.coefficient = 0 := by
  unfold shiftAs? at moved
  split at moved
  · rename_i left
    unfold shiftLeft? at moved
    split_ifs at moved
    · obtain rfl := Option.some.inj moved
      rfl
    · obtain rfl := Option.some.inj moved
      have unit : 0 < 10 ^ decimal.scale := by positivity
      have some := large left
      have kept : 10 ^ (decimal.scale - (maxScale - spelling.places)) ≤ decimal.coefficient :=
        Nat.le_trans (Nat.pow_le_pow_right (by decide) (Nat.sub_le _ _)) some
      have quotient := Nat.div_pos kept (by positivity)
      simp only [rescale, dropDigits, Nat.pow_eq]
      omega
  · simp only [shiftRight?] at moved
    split_ifs at moved
    · obtain rfl := Option.some.inj moved
      rfl
    · obtain rfl := Option.some.inj moved
      simp

end Decimal

namespace Text
namespace Spelling

open Decimal

variable {spelling : Spelling}

theorem avoidsRounding_value (spelling : Spelling) :
    AvoidsRounding spelling.value ↔ AvoidsRounding spelling.magnitude := by
  unfold value
  split
  · exact avoidsRounding_neg _
  · rfl

theorem magnitude_nonneg (spelling : Spelling) : 0 ≤ spelling.magnitude := by
  have base := spelling.base_nonneg
  unfold magnitude
  split <;> positivity

theorem value_eq_zero_iff (spelling : Spelling) : spelling.value = 0 ↔ spelling.base = 0 := by
  have magnitude : spelling.magnitude = 0 ↔ spelling.base = 0 := by
    unfold magnitude
    split <;> simp
  rw [← magnitude, value]
  split
  · exact neg_eq_zero
  · rfl

/-- A small number survives if it is too small for decimals, or if they hold it. -/
theorem survives_iff_of_small
    (held : Holds spelling.base)
    (left : spelling.shiftsLeft = true)
    (least : 1 ≤ spelling.base)
    (most : spelling.base < 10)
    (far : 5 < spelling.places) :
    spelling.Survives ↔ AvoidsRounding spelling.magnitude := by
  have unit : (0 : ℚ) < 10 ^ spelling.places := by positivity
  have same : spelling.magnitude = spelling.base / 10 ^ spelling.places := if_pos left
  have fraction : spelling.magnitude < 1 := by
    have tens : (10 : ℚ) ^ 1 ≤ 10 ^ spelling.places :=
      pow_le_pow_right₀ (by norm_num) (by omega)
    rw [same, div_lt_one unit]
    linarith
  have tiny : |spelling.magnitude| < 1 / 10 ^ maxScale ↔ maxScale < spelling.places := by
    rw [abs_of_nonneg spelling.magnitude_nonneg, same, div_lt_div_iff₀ unit (by positivity),
      one_mul]
    constructor
    · intro below
      by_contra near
      have powers : (10 : ℚ) ^ spelling.places ≤ 10 ^ maxScale :=
        pow_le_pow_right₀ (by norm_num) (by omega)
      nlinarith
    · intro beyond
      have powers : (10 : ℚ) ^ (maxScale + 1) ≤ 10 ^ spelling.places :=
        pow_le_pow_right₀ (by norm_num) beyond
      rw [pow_succ] at powers
      have scale : (0 : ℚ) < 10 ^ maxScale := by positivity
      nlinarith
  have fits : ∀ {number : ℚ}, number < 10 → ¬Overflows number := by
    intro number below overflows
    rw [Overflows, coefficientBound_eq] at overflows
    push_cast at overflows
    linarith
  rw [Survives, or_iff_right (fits most), or_iff_right (fits (by linarith)), and_iff_right held,
    AvoidsRounding, tiny]
  refine or_congr_right ⟨Holds.exists_units, ?_⟩
  rintro ⟨units, whole⟩
  exact holds_of_units spelling.magnitude_nonneg fraction whole

/-- A number as floating-point numbers are written survives exactly if it avoids rounding. -/
theorem Printed.survives_iff (printed : spelling.Printed) :
    spelling.Survives ↔ AvoidsRounding spelling.value := by
  rw [avoidsRounding_value]
  cases printed with
  | positional held unscaled =>
      have same : spelling.magnitude = spelling.base := by
        simp [magnitude, shiftsLeft, places, unscaled]
      rw [Survives, same]
      exact iff_of_true (.inr (.inr (.inr ⟨held, held⟩))) (.inr held.exists_units)
  | large held right whole =>
      obtain ⟨number, same⟩ := whole
      refine iff_of_true ?_ (.inr ⟨(number * 10 ^ maxScale : Nat), by rw [same]; push_cast; rfl⟩)
      by_cases fits : number < coefficientBound
      · exact .inr (.inr (.inr ⟨held, number, 0, fits, Nat.zero_le _, by rw [same]; simp⟩))
      · refine .inr (.inr (.inl ?_))
        have beyond : (coefficientBound : ℚ) ≤ number := by exact_mod_cast Nat.not_lt.mp fits
        rw [Overflows, same]
        linarith
  | small held left least most far => exact survives_iff_of_small held left least most far

/-- What is read of a number as floating-point numbers are written is zero only for zero. -/
theorem Printed.value_eq_zero_iff_of_ofChars?
    {decimal : Decimal}
    (printed : spelling.Printed)
    (spelled : spelling.IsOver Char.isDigit)
    (read : ofChars? spelling.chars = some decimal) :
    decimal.value = 0 ↔ spelling.value = 0 := by
  have plain := readsAs_ofPlain? spelled
  rw [ofChars?_chars spelled] at read
  obtain ⟨base, plainly, moved⟩ := Option.bind_eq_some_iff.mp read
  rw [plainly] at plain
  cases plain with
  | @rounded coefficient scale rounds =>
      have held : Holds spelling.base := by
        cases printed with
        | positional held _ | large held _ _ | small held _ _ _ _ => exact held
      have exactly := rounds.exact_iff_holds.mpr held
      have large : spelling.shiftsLeft = true → 10 ^ scale ≤ coefficient := by
        intro left
        cases printed with
        | positional _ unscaled => simp [shiftsLeft, unscaled] at left
        | large _ right _ => simp [right] at left
        | small _ _ least _ _ =>
            have unit : (0 : ℚ) < 10 ^ scale := by positivity
            have cast : ((10 ^ scale : Nat) : ℚ) ≤ coefficient := by
              rw [← exactly]
              push_cast
              nlinarith
            exact_mod_cast cast
      have unchanged := coefficient_shiftAs?_eq_zero_iff large moved
      have zero : decimal.value = 0 ↔ decimal.coefficient = 0 := by
        rw [Decimal.value]
        split <;> simp [Decimal.magnitude]
      have number : spelling.base = 0 ↔ coefficient = 0 := by
        rw [← Nat.cast_eq_zero (R := ℚ), ← exactly]
        simp
      rw [zero, unchanged, value_eq_zero_iff, number]

/-- What the canonical form stands for, if a number is written as floating-point numbers are. -/
theorem Printed.exists_denotes_canonicalNumeral
    (printed : spelling.Printed)
    (spelled : spelling.IsOver Char.isDigit)
    (unsigned : spelling.sign ≠ .plus) :
    ∃ number, Denotes (canonicalNumeral (String.ofList spelling.chars)) number ∧
      (number = spelling.value ↔ AvoidsRounding spelling.value) ∧
      (number = 0 ↔ spelling.value = 0) := by
  have bare := spelled.decimal.bareNumeral_ofList unsigned
  rw [← printed.survives_iff, ← spelled.survives_iff]
  cases read : ofChars? spelling.chars with
  | none =>
      rw [canonicalNumeral_of_refused (by rw [bare, read]), bare]
      exact ⟨spelling.value, spelled.denotes_ofList, by simp, Iff.rfl⟩
  | some decimal =>
      rw [canonicalNumeral_of_ofChars? (by rw [bare, read])]
      refine ⟨decimal.value, (denotes_normalize_iff decimal _).mpr rfl, by simp, ?_⟩
      exact printed.value_eq_zero_iff_of_ofChars? spelled read

end Spelling
end Text

namespace Number

open Decimal Text

/--
The text of a floating-point number in a condition stands for the number of its shortest decimal
if and only if that number avoids rounding, and it stands for zero only if the number is zero.
-/
theorem canonicalText_float_keeps_iff (value : Float) :
    ∃ number written, Denotes (Number.float value).text number ∧
      Denotes (Number.float value).canonicalText written ∧
      (written = number ↔ AvoidsRounding number) ∧
      (written = 0 ↔ number = 0) ∧
      (number = 0 ↔ value.toBits.toNat % signBit = 0) := by
  have spelled := isOver_floatSpelling value.toBits.toNat
  obtain ⟨written, denotes, kept, zero⟩ :=
    (printed_floatSpelling value.toBits.toNat).exists_denotes_canonicalNumeral spelled
      (sign_floatSpelling_ne _)
  have shown := spelled.denotes_ofList
  rw [chars_floatSpelling] at denotes shown
  exact ⟨_, written, shown, denotes, kept, zero, value_floatSpelling_eq_zero_iff _⟩

/-- The double-precision number next to `2.5e-28` is written as another number. -/
theorem canonicalNumeral_rounds_small_float :
    ¬∃ number, Denotes (String.ofList (floatText 4193922839754193936)) number ∧
      Denotes (canonicalNumeral (String.ofList (floatText 4193922839754193936))) number := by
  have shortest : String.ofList (floatText 4193922839754193936) = "2.5e-28" := by decide +kernel
  have rounded : canonicalNumeral "2.5e-28" = "0.0000000000000000000000000003" := by decide +kernel
  have before : Denotes "2.5e-28" (5 / 2 / 10 ^ 28) := by
    refine ⟨⟨.absent, ['2'], some ['5'], some ⟨'e', .minus, ['2', '8']⟩⟩, by decide +kernel,
      ⟨[], [], rfl, by simp, by simp⟩, by decide +kernel⟩
  have after : Denotes "0.0000000000000000000000000003" (3 / 10 ^ 28) :=
    ⟨⟨.absent, ['0'], some "0000000000000000000000000003".toList, none⟩, by decide +kernel,
      ⟨[], [], rfl, by simp, by simp⟩, by decide +kernel⟩
  rintro ⟨number, denotes, denotesRounded⟩
  rw [shortest] at denotes denotesRounded
  rw [rounded] at denotesRounded
  have same := (before.unique denotes).trans (denotesRounded.unique after)
  exact absurd same (by decide +kernel)

end Number
end RuleClause
