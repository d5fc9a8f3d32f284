import Mathlib.Algebra.Order.Field.Power
import RuleClause.Decimal.Shortest
import RuleClause.Proofs.Numeral.Value

/-!
# Seventeen digits are enough

The shortest decimal of a floating-point number has at most seventeen digits.  On the grid of the
decimals with seventeen digits, the nearer one of the two neighbours of a number lies inside the
interval of the reals that round to it, since the ends of the interval are further away than half
a step of the grid.
-/

namespace RuleClause
namespace Decimal

/-- The number that a positive decimal stands for. -/
def Scaled.value (decimal : Scaled) : ℚ :=
  decimal.coefficient * 10 ^ decimal.exponent

/-! ## The leading power of ten -/

theorem pow_le_of_length_toDigits {number : Nat} (positive : 0 < number) :
    10 ^ ((Nat.toDigits 10 number).length - 1) ≤ number := by
  by_contra below
  by_cases single : (Nat.toDigits 10 number).length - 1 = 0
  · rw [single, pow_zero] at below
    omega
  · have shorter := (Nat.length_toDigits_le_iff (by decide) (Nat.pos_of_ne_zero single)).mpr
      (Nat.not_le.mp below)
    omega

theorem lt_pow_length_toDigits (number : Nat) : number < 10 ^ (Nat.toDigits 10 number).length :=
  (Nat.length_toDigits_le_iff (by decide) (List.length_pos_iff.mpr Nat.toDigits_ne_nil)).mp
    (Nat.le_refl _)

/-- The digits in front of the point tell the leading power of a fraction that is at least one. -/
theorem leading_of_quotient
    {numerator denominator : Nat}
    (positive : 0 < denominator)
    (large : denominator ≤ numerator) :
    (10 : ℚ) ^ (((Nat.toDigits 10 (numerator / denominator)).length : Int) - 1) ≤
        numerator / denominator ∧
      (numerator / denominator : ℚ) <
        10 ^ ((Nat.toDigits 10 (numerator / denominator)).length : Int) := by
  have divided : (0 : ℚ) < denominator := by exact_mod_cast positive
  have some : 0 < numerator / denominator := Nat.div_pos large positive
  have length : 0 < (Nat.toDigits 10 (numerator / denominator)).length :=
    List.length_pos_iff.mpr Nat.toDigits_ne_nil
  have lower : numerator / denominator * denominator ≤ numerator := Nat.div_mul_le_self _ _
  have upper : numerator < (numerator / denominator + 1) * denominator := by
    rw [Nat.add_one_mul]
    exact Nat.lt_div_mul_add positive
  have least := pow_le_of_length_toDigits some
  have most : numerator / denominator + 1 ≤ _ := lt_pow_length_toDigits (numerator / denominator)
  rw [le_div_iff₀ divided, div_lt_iff₀ divided]
  constructor
  · rw [show ((Nat.toDigits 10 (numerator / denominator)).length : Int) - 1 =
      (((Nat.toDigits 10 (numerator / denominator)).length - 1 : Nat) : Int) by omega, zpow_natCast]
    exact_mod_cast Nat.le_trans (Nat.mul_le_mul_right denominator least) lower
  · rw [zpow_natCast]
    exact_mod_cast Nat.lt_of_lt_of_le upper (Nat.mul_le_mul_right denominator most)

theorem leadingExponent_spec
    {numerator denominator : Nat}
    (some : 0 < numerator)
    (positive : 0 < denominator) :
    (10 : ℚ) ^ leadingExponent numerator denominator ≤ numerator / denominator ∧
      (numerator / denominator : ℚ) < 10 ^ (leadingExponent numerator denominator + 1) := by
  simp only [leadingExponent, Nat.pow_eq]
  split
  · rename_i large
    rw [sub_add_cancel]
    exact leading_of_quotient positive large
  · -- the fraction is shifted so far to the left that it is at least one
    generalize shift : (Nat.toDigits 10 (denominator / numerator)).length = places
    have large : denominator ≤ numerator * 10 ^ places := by
      have below := lt_pow_length_toDigits (denominator / numerator)
      rw [shift] at below
      exact Nat.le_of_lt ((Nat.div_lt_iff_lt_mul some).mp below |>.trans_eq (Nat.mul_comm _ _))
    obtain ⟨lower, upper⟩ := leading_of_quotient positive large
    generalize ((Nat.toDigits 10 (numerator * 10 ^ places / denominator)).length : Int) = length
      at lower upper
    have unit : (0 : ℚ) < 10 ^ places := by positivity
    have split : ((numerator * 10 ^ places : Nat) : ℚ) / denominator =
        numerator / denominator * 10 ^ places := by
      push_cast
      ring
    rw [split] at lower upper
    constructor
    · rw [zpow_sub₀ (by norm_num), zpow_natCast, div_le_iff₀ unit]
      exact lower
    · rw [sub_right_comm, sub_add_cancel, zpow_sub₀ (by norm_num), zpow_natCast, lt_div_iff₀ unit]
      exact upper

/-! ## The interval around a number -/

namespace RoundingInterval

/-- The number that an interval belongs to. -/
def number (interval : RoundingInterval) : ℚ :=
  interval.middle / interval.denominator

/-- The ends of an interval are at least a `2 ^ 54`th of the number away from it. -/
structure IsWide (interval : RoundingInterval) : Prop where
  /-- The number is positive. -/
  positive : 0 < interval.middle
  /-- The denominator is one. -/
  divided : 0 < interval.denominator
  /-- The lower end is far enough away. -/
  low : interval.low * 2 ^ 54 + interval.middle ≤ interval.middle * 2 ^ 54
  /-- The upper end is far enough away. -/
  high : interval.middle * 2 ^ 54 + interval.middle ≤ interval.high * 2 ^ 54

variable {interval : RoundingInterval} {exponent : Int}

theorem isWide_ofBinary
    {significand : Nat}
    {leastOfBinade : Bool}
    (positive : 0 < significand)
    (bounded : significand < 2 ^ 53)
    (least : leastOfBinade = true → significand = 2 ^ 52) :
    (ofBinary significand exponent leastOfBinade).IsWide := by
  have filled : 0 < 2 ^ (exponent - 2).toNat := by positivity
  simp only [ofBinary, Nat.pow_eq]
  generalize 2 ^ (exponent - 2).toNat = quarter at filled
  refine ⟨by positivity, by positivity, ?_, ?_⟩
  · have scaled : (4 * significand - if leastOfBinade = true then 1 else 2) * 2 ^ 54 +
        4 * significand ≤ 4 * significand * 2 ^ 54 := by
      split
      · rename_i chosen
        have same := least chosen
        omega
      · omega
    calc (4 * significand - if leastOfBinade = true then 1 else 2) * quarter * 2 ^ 54 +
          4 * significand * quarter
        = ((4 * significand - if leastOfBinade = true then 1 else 2) * 2 ^ 54 +
          4 * significand) * quarter := by ring
      _ ≤ 4 * significand * 2 ^ 54 * quarter := Nat.mul_le_mul_right quarter scaled
      _ = 4 * significand * quarter * 2 ^ 54 := by ring
  · have scaled : 4 * significand * 2 ^ 54 + 4 * significand ≤ (4 * significand + 2) * 2 ^ 54 := by
      omega
    calc 4 * significand * quarter * 2 ^ 54 + 4 * significand * quarter
        = (4 * significand * 2 ^ 54 + 4 * significand) * quarter := by ring
      _ ≤ (4 * significand + 2) * 2 ^ 54 * quarter := Nat.mul_le_mul_right quarter scaled
      _ = (4 * significand + 2) * quarter * 2 ^ 54 := by ring

/-- The numerator and the denominator of a decimal make up its value. -/
theorem fraction_value (coefficient : Nat) (exponent : Int) :
    0 < (fraction coefficient exponent).2 ∧
      ((fraction coefficient exponent).1 : ℚ) / (fraction coefficient exponent).2 =
        coefficient * 10 ^ exponent := by
  have unit : (0 : ℚ) < 10 ^ (-exponent).toNat := by positivity
  refine ⟨Nat.pow_pos (by decide), ?_⟩
  simp only [fraction, Nat.pow_eq]
  push_cast
  rw [div_eq_iff unit.ne', mul_assoc, ← zpow_natCast, ← zpow_natCast, ← zpow_add₀ (by norm_num)]
  congr 2
  omega

/-- A decimal strictly inside the interval reads back. -/
theorem readsBack_of_between
    {decimal : Scaled}
    (divided : 0 < interval.denominator)
    (low : interval.low / interval.denominator < decimal.value)
    (high : decimal.value < interval.high / interval.denominator) :
    interval.readsBack decimal = true := by
  obtain ⟨unit, same⟩ := fraction_value decimal.coefficient decimal.exponent
  rw [Scaled.value, ← same] at low high
  have positive : (0 : ℚ) < interval.denominator := by exact_mod_cast divided
  have unitPositive : (0 : ℚ) < (fraction decimal.coefficient decimal.exponent).2 := by
    exact_mod_cast unit
  rw [div_lt_div_iff₀ positive unitPositive] at low
  rw [div_lt_div_iff₀ unitPositive positive] at high
  have below : interval.low * (fraction decimal.coefficient decimal.exponent).2 <
      (fraction decimal.coefficient decimal.exponent).1 * interval.denominator := by
    exact_mod_cast low
  have above : (fraction decimal.coefficient decimal.exponent).1 * interval.denominator <
      interval.high * (fraction decimal.coefficient decimal.exponent).2 := by
    exact_mod_cast high
  simp only [readsBack, holds]
  split
  · simp [below.le, above.le]
  · simp [below, above]

/-- The quotient is the number of whole steps below the number. -/
theorem quotient_spec (divided : 0 < interval.denominator) (exponent : Int) :
    ((interval.quotient exponent).1 : ℚ) * 10 ^ exponent ≤ interval.number ∧
      interval.number < ((interval.quotient exponent).1 + 1) * 10 ^ exponent := by
  obtain ⟨_, same⟩ := fraction_value 1 exponent
  have step : (0 : ℚ) < 10 ^ exponent := by positivity
  have unit : 0 < interval.denominator * 10 ^ exponent.toNat := by positivity
  have positive : (0 : ℚ) < interval.denominator := by exact_mod_cast divided
  have scaled : interval.number / 10 ^ exponent =
      (interval.middle * 10 ^ (-exponent).toNat : Nat) /
        (interval.denominator * 10 ^ exponent.toNat : Nat) := by
    simp only [fraction, Nat.pow_eq, Nat.cast_one, one_mul] at same
    rw [number, ← same]
    push_cast
    field_simp
  have unitPositive : (0 : ℚ) < (interval.denominator * 10 ^ exponent.toNat : Nat) := by
    exact_mod_cast unit
  rw [← le_div_iff₀ step, ← div_lt_iff₀ step, scaled, le_div_iff₀ unitPositive,
    div_lt_iff₀ unitPositive]
  simp only [quotient, Nat.pow_eq]
  constructor
  · exact_mod_cast Nat.div_mul_le_self _ _
  · rw [add_one_mul]
    exact_mod_cast Nat.lt_div_mul_add unit

/-- What is found on a grid is one of the two neighbours of the number. -/
theorem of_onGrid_eq_some
    {decimal : Scaled}
    (found : interval.onGrid exponent = some decimal) :
    decimal.exponent = exponent ∧
      (decimal.coefficient = (interval.quotient exponent).1 ∨
        decimal.coefficient = (interval.quotient exponent).1 + 1) := by
  simp only [onGrid] at found
  split at found
  · split at found
    · cases found
      exact ⟨rfl, .inl rfl⟩
    · cases found
      exact ⟨rfl, .inr rfl⟩
    · cases found
      split
      · exact ⟨rfl, .inl rfl⟩
      · exact ⟨rfl, .inr rfl⟩
  · cases found
    exact ⟨rfl, .inl rfl⟩
  · cases found
    exact ⟨rfl, .inr rfl⟩
  · simp at found

/-- Something is found on a grid if one of the two neighbours of the number reads back. -/
theorem onGrid_ne_none
    (inside : interval.readsBack ⟨(interval.quotient exponent).1, exponent⟩ = true ∨
      interval.readsBack ⟨(interval.quotient exponent).1 + 1, exponent⟩ = true) :
    interval.onGrid exponent ≠ none := by
  intro missing
  simp only [onGrid] at missing
  split at missing
  · split at missing <;> simp at missing
  · simp at missing
  · simp at missing
  · simp_all

/-- A grid of seventeen digits is so fine that the nearer neighbour of the number reads back. -/
theorem IsWide.onGrid_ne_none
    (wide : interval.IsWide)
    (fine : (10 : ℚ) ^ exponent * 10 ^ 16 ≤ interval.number) :
    interval.onGrid exponent ≠ none := by
  have positive : (0 : ℚ) < interval.denominator := by exact_mod_cast wide.divided
  have low : (interval.low : ℚ) * 2 ^ 54 + interval.middle ≤ interval.middle * 2 ^ 54 := by
    exact_mod_cast wide.low
  have high : (interval.middle : ℚ) * 2 ^ 54 + interval.middle ≤ interval.high * 2 ^ 54 := by
    exact_mod_cast wide.high
  have lowEnd : interval.low / interval.denominator * 2 ^ 54 + interval.number ≤
      interval.number * 2 ^ 54 := by
    rw [number, div_mul_eq_mul_div, div_mul_eq_mul_div, ← add_div]
    exact div_le_div_of_nonneg_right low positive.le
  have highEnd : interval.number * 2 ^ 54 + interval.number ≤
      interval.high / interval.denominator * 2 ^ 54 := by
    rw [number, div_mul_eq_mul_div, div_mul_eq_mul_div, ← add_div]
    exact div_le_div_of_nonneg_right high positive.le
  obtain ⟨below, above⟩ := quotient_spec wide.divided exponent
  have step : (0 : ℚ) < 10 ^ exponent := by positivity
  refine RoundingInterval.onGrid_ne_none ?_
  by_cases nearer : interval.number - (interval.quotient exponent).1 * 10 ^ exponent ≤
      10 ^ exponent / 2
  · refine .inl (readsBack_of_between wide.divided ?_ ?_)
    · simp only [Scaled.value]
      linarith
    · simp only [Scaled.value]
      linarith
  · refine .inr (readsBack_of_between wide.divided ?_ ?_)
    · simp only [Scaled.value]
      push_cast
      linarith
    · simp only [Scaled.value]
      push_cast
      linarith

/-! ## The search -/

/-- The search ends on one of the grids that it tries if something is to be found on one. -/
theorem exists_onGrid_of_search
    {count steps : Nat}
    (inside : steps < count)
    (found : interval.onGrid (exponent - steps) ≠ none) :
    ∃ finer < count, interval.onGrid (exponent - finer) =
      some (interval.search exponent count) := by
  induction count generalizing exponent steps with
  | zero => omega
  | succ count inductionHypothesis =>
      rw [search]
      cases here : interval.onGrid exponent with
      | some decimal => exact ⟨0, Nat.succ_pos count, by simpa using here⟩
      | none =>
          cases steps with
          | zero => simp [here] at found
          | succ steps =>
              have shift (places : Nat) :
                  exponent - (places + 1 : Nat) = exponent - 1 - places := by
                push_cast
                ring
              rw [shift] at found
              obtain ⟨finer, fewer, same⟩ := inductionHypothesis (by omega) found
              exact ⟨finer + 1, by omega, by rw [shift]; exact same⟩

end RoundingInterval

/-- The shortest decimal of a number has a positive coefficient of at most seventeen digits. -/
theorem shortest_coefficient
    {interval : RoundingInterval}
    (wide : interval.IsWide) :
    0 < (shortest interval).coefficient ∧ (shortest interval).coefficient ≤ 10 ^ 17 := by
  obtain ⟨least, most⟩ := leadingExponent_spec wide.positive wide.divided
  change _ ≤ interval.number at least
  change interval.number < _ at most
  unfold shortest
  generalize leadingExponent interval.middle interval.denominator = leading at least most
  have fine : (10 : ℚ) ^ (leading - (16 : Nat)) * 10 ^ 16 ≤ interval.number := by
    rwa [← zpow_natCast, ← zpow_add₀ (by norm_num), sub_add_cancel]
  obtain ⟨finer, fewer, found⟩ := RoundingInterval.exists_onGrid_of_search
    (by decide : 16 < enoughDigits) (wide.onGrid_ne_none fine)
  generalize interval.search leading enoughDigits = decimal at found
  obtain ⟨_, neighbour⟩ := RoundingInterval.of_onGrid_eq_some found
  obtain ⟨below, above⟩ := RoundingInterval.quotient_spec wide.divided (leading - finer)
  generalize (interval.quotient (leading - finer)).1 = steps at below above neighbour
  have unit : (0 : ℚ) < 10 ^ (leading - finer) := by positivity
  have start : (10 : ℚ) ^ leading = 10 ^ finer * 10 ^ (leading - finer) := by
    rw [← zpow_natCast, ← zpow_add₀ (by norm_num), add_sub_cancel]
  have beyond : (10 : ℚ) ^ (leading + 1) = 10 ^ (finer + 1) * 10 ^ (leading - finer) := by
    rw [zpow_add_one₀ (by norm_num), start]
    ring
  have many : 10 ^ finer < steps + 1 := by
    have cast : (10 : ℚ) ^ finer < steps + 1 := by
      refine lt_of_mul_lt_mul_right ?_ unit.le
      rw [← start]
      exact lt_of_le_of_lt least above
    exact_mod_cast cast
  have few : steps < 10 ^ (finer + 1) := by
    have cast : (steps : ℚ) < 10 ^ (finer + 1) := by
      refine lt_of_mul_lt_mul_right ?_ unit.le
      rw [← beyond]
      exact lt_of_le_of_lt below most
    exact_mod_cast cast
  have one : 0 < 10 ^ finer := by positivity
  have bound : 10 ^ (finer + 1) ≤ 10 ^ 17 :=
    Nat.pow_le_pow_right (by decide) fewer
  omega

/-- The decimal of a double-precision number has at most seventeen digits, not all of them zero. -/
theorem ofMagnitudeBits_coefficient
    {bits : Nat}
    (some : bits ≠ 0)
    (bounded : bits < 2 ^ 63) :
    0 < (ofMagnitudeBits bits).coefficient ∧ (ofMagnitudeBits bits).coefficient ≤ 10 ^ 17 := by
  have leading : leadingBit = 2 ^ 52 := rfl
  have count : exponentCount = 2 ^ 11 := rfl
  have fraction := Nat.mod_lt bits (by decide : 0 < 2 ^ 52)
  simp only [ofMagnitudeBits, leading, count]
  split
  · rename_i subnormal
    refine shortest_coefficient (RoundingInterval.isWide_ofBinary ?_ (by omega) (by simp))
    omega
  · refine shortest_coefficient (RoundingInterval.isWide_ofBinary (by omega) (by omega) ?_)
    intro least
    simp only [Bool.and_eq_true, beq_iff_eq] at least
    omega

end Decimal
end RuleClause
