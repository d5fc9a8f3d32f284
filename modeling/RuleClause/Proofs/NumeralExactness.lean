import RuleClause.Proofs.Numeral.Rounding
import Mathlib.Data.List.TakeDrop

/-!
# When the canonical form of a numeral keeps its number

The canonical form of a numeral goes through a decimal.  It denotes the same number as the numeral
if the decimal is refused, since the numeral is then kept as it is, and otherwise exactly if
decimals hold both the number in front of the exponent and the number itself.  A number that no
decimal holds is therefore kept if it is too large, and rounded if it is too fine.
-/

namespace RuleClause
namespace Decimal

open Number Text

variable {magnitude : ℚ} {coefficient scale places : Nat} {negative : Bool}

/-! ## What rounding keeps -/

theorem Overflows.of_le
    (nonneg : 0 ≤ magnitude)
    (overflows : Overflows (magnitude * 10 ^ places))
    (most : places ≤ scale) :
    Overflows (magnitude * 10 ^ scale) := by
  refine le_trans overflows (mul_le_mul_of_nonneg_left ?_ nonneg)
  exact pow_le_pow_right₀ (by norm_num) most

theorem Rounds.not_overflows
    (rounds : Rounds magnitude coefficient scale)
    (nonneg : 0 ≤ magnitude)
    (most : places ≤ scale) :
    ¬Overflows (magnitude * 10 ^ places) := by
  intro overflows
  have beyond := overflows.of_le nonneg most
  have below : (coefficient : ℚ) + 1 ≤ coefficientBound := by exact_mod_cast rounds.bounded
  have upper := rounds.upper
  rw [Overflows] at beyond
  linarith

/-- A natural number is rounded to itself. -/
theorem Rounds.eq_of_natural
    {number : Nat}
    (rounds : Rounds magnitude coefficient scale)
    (natural : magnitude * 10 ^ scale = number) :
    coefficient = number := by
  have lower := rounds.lower
  have upper := rounds.upper
  rw [natural] at lower upper
  have above : coefficient < number + 1 := by
    exact_mod_cast (by linarith : (coefficient : ℚ) < number + 1)
  have below : number < coefficient + 1 := by
    exact_mod_cast (by linarith : (number : ℚ) < coefficient + 1)
  omega

/-- Rounding changes nothing exactly if a decimal holds the number. -/
theorem Rounds.exact_iff_holds (rounds : Rounds magnitude coefficient scale) :
    magnitude * 10 ^ scale = coefficient ↔ Holds magnitude := by
  constructor
  · intro exactly
    refine ⟨coefficient, scale, rounds.bounded, rounds.scaled, ?_⟩
    rw [← exactly]
    field_simp
  · rintro ⟨numerator, digits, bounded, scaled, rfl⟩
    -- with no more digits than the scale has room for, the number is natural at the scale
    have kept : digits ≤ scale → (numerator : ℚ) / 10 ^ digits * 10 ^ scale = coefficient := by
      intro fewer
      obtain ⟨rest, rfl⟩ := Nat.exists_eq_add_of_le fewer
      have natural : (numerator : ℚ) / 10 ^ digits * 10 ^ (digits + rest) =
          (numerator * 10 ^ rest : Nat) := by
        push_cast
        rw [pow_add]
        field_simp
      rw [natural, rounds.eq_of_natural natural]
    rcases rounds.full with exactly | greatest | overflows
    · exact exactly
    · exact kept (greatest ▸ scaled)
    · refine kept ?_
      by_contra more
      have within : numerator + 1 ≤ coefficientBound := bounded
      have cast : (numerator : ℚ) + 1 ≤ coefficientBound := by exact_mod_cast within
      have beyond := overflows.of_le (by positivity) (by omega : scale + 1 ≤ digits)
      rw [Overflows, div_mul_cancel₀ _ (by positivity)] at beyond
      linarith

/-! ## Shifting the point -/

/--
How a shift of the point may end, for a number that has been rounded before: it is refused, or it
gives the shifted number exactly if decimals hold both.
-/
inductive Shifts (negative : Bool) (base magnitude : ℚ) (places : Nat) : Option Decimal → Prop
  /-- The shift is refused. -/
  | refused (beyond : maxScale < places ∨ Overflows magnitude) :
      Shifts negative base magnitude places none
  /-- The point is shifted. -/
  | shifted {decimal : Decimal}
      (within : ¬(maxScale < places ∨ Overflows magnitude))
      (sign : decimal.negative = negative)
      (exactly : decimal.magnitude = magnitude ↔ Holds base ∧ Holds magnitude) :
      Shifts negative base magnitude places (some decimal)

/-- Ten times a coefficient that was rounded for want of room does not fit. -/
theorem Rounds.bound_le_of_overflows
    (rounds : Rounds magnitude coefficient scale)
    (overflows : Overflows (magnitude * 10 ^ (scale + 1))) :
    coefficientBound ≤ coefficient * 10 := by
  have upper := rounds.upper
  rw [Overflows, pow_succ, ← mul_assoc, coefficientBound_eq] at overflows
  push_cast at overflows
  have least : (7922816251426433759354395033 : ℚ) < coefficient := by linarith
  have natural : 7922816251426433759354395033 < coefficient := by exact_mod_cast least
  rw [coefficientBound_eq]
  omega

/-- Shifting the point inside the digits moves the scale alone. -/
theorem Rounds.shifts_within
    {digits : Nat}
    (rounds : Rounds magnitude coefficient scale)
    {shifted : ℚ}
    (within : ¬(maxScale < places ∨ Overflows shifted))
    (scaled : digits ≤ maxScale)
    (same : shifted * 10 ^ digits = magnitude * 10 ^ scale) :
    Shifts negative magnitude shifted places (some ⟨negative, coefficient, digits⟩) := by
  have exactly : Decimal.magnitude ⟨negative, coefficient, digits⟩ = shifted ↔
      magnitude * 10 ^ scale = coefficient := by
    rw [Decimal.magnitude, div_eq_iff (by positivity), same, eq_comm]
  refine .shifted within rfl ?_
  rw [exactly, rounds.exact_iff_holds]
  refine (and_iff_left_of_imp fun holds => ?_).symm
  refine ⟨coefficient, digits, rounds.bounded, scaled, ?_⟩
  rw [← rounds.exact_iff_holds.mpr holds, ← same]
  field_simp

theorem Rounds.shifts_right
    (rounds : Rounds magnitude coefficient scale)
    (nonneg : 0 ≤ magnitude)
    (negative : Bool)
    (places : Nat) :
    Shifts negative magnitude (magnitude * 10 ^ places) places
      (shiftRight? ⟨negative, coefficient, scale⟩ places) := by
  have scaled := rounds.scaled
  by_cases far : maxScale < places
  · rw [shiftRight?, if_pos far]
    exact .refused (.inl far)
  rw [shiftRight?, if_neg far]
  by_cases inside : places ≤ scale
  · rw [if_pos inside]
    refine rounds.shifts_within ?_ (Nat.le_trans (Nat.sub_le _ _) scaled) ?_
    · rintro (more | overflows)
      · exact far more
      · exact rounds.not_overflows nonneg inside overflows
    · rw [mul_assoc, ← pow_add, Nat.add_sub_cancel' inside]
  · -- zeros are appended; a coefficient that was rounded for want of room has none for them
    obtain ⟨rest, rfl⟩ := Nat.exists_eq_add_of_lt (Nat.not_le.mp inside)
    have beyond : scale + rest + 1 - scale = rest + 1 := by omega
    have natural : magnitude * 10 ^ scale = coefficient →
        magnitude * 10 ^ (scale + rest + 1) = (coefficient * 10 ^ (rest + 1) : Nat) := by
      intro exactly
      push_cast
      rw [← exactly, add_assoc, pow_add, mul_assoc]
    rw [if_neg inside]
    simp only [beyond, Nat.pow_eq]
    split_ifs with fits
    · have exactly : magnitude * 10 ^ scale = coefficient := by
        rcases rounds.full with exactly | greatest | overflows
        · exact exactly
        · omega
        · have tenfold := rounds.bound_le_of_overflows overflows
          have grows : coefficient * 10 ≤ coefficient * 10 ^ (rest + 1) :=
            Nat.mul_le_mul_left coefficient (Nat.le_self_pow (Nat.succ_ne_zero rest) 10)
          omega
      have below : ((coefficient * 10 ^ (rest + 1) : Nat) : ℚ) + 1 ≤ coefficientBound := by
        exact_mod_cast fits
      refine .shifted ?_ rfl (iff_of_true ?_ ⟨rounds.exact_iff_holds.mp exactly, ?_⟩)
      · rintro (more | overflows)
        · exact far more
        · rw [Overflows, natural exactly] at overflows
          linarith
      · rw [natural exactly, Decimal.magnitude, pow_zero, div_one]
      · exact ⟨_, 0, fits, Nat.zero_le _, by rw [natural exactly, pow_zero, div_one]⟩
    · refine .refused (.inr ?_)
      rcases rounds.full with exactly | greatest | overflows
      · have above : (coefficientBound : ℚ) ≤ (coefficient * 10 ^ (rest + 1) : Nat) := by
          exact_mod_cast Nat.not_lt.mp fits
        rw [Overflows, natural exactly]
        linarith
      · omega
      · exact overflows.of_le nonneg (by omega)

theorem dropDigits_mul (number count : Nat) : dropDigits (number * 10 ^ count) count = number := by
  have unit : 0 < 10 ^ count := by positivity
  simp [dropDigits, Nat.mul_div_cancel _ unit]

theorem dropDigits_le (coefficient : Nat) {count : Nat} (some : count ≠ 0) :
    dropDigits coefficient count ≤ coefficient := by
  have unit : 10 ≤ 10 ^ count := Nat.le_self_pow some 10
  have split := Nat.div_add_mod coefficient (10 ^ count)
  have grows := Nat.le_mul_of_pos_left (coefficient / 10 ^ count) (by omega : 0 < 10 ^ count)
  simp only [dropDigits, Nat.pow_eq]
  split_ifs <;> omega

/-- Shifting the point beyond the greatest scale gives up digits. -/
theorem Rounds.shifts_beyond
    {count : Nat}
    (rounds : Rounds magnitude coefficient scale)
    (within : ¬(maxScale < places ∨ Overflows (magnitude / 10 ^ places)))
    (more : count ≠ 0)
    (same : scale + places = maxScale + count) :
    Shifts negative magnitude (magnitude / 10 ^ places) places
      (some ⟨negative, dropDigits coefficient count, maxScale⟩) := by
  have bounded := Nat.lt_of_le_of_lt (dropDigits_le coefficient more) rounds.bounded
  refine .shifted within rfl ?_
  constructor
  · intro exactly
    have near : places ≤ maxScale := by
      by_contra far
      exact within (.inl (by omega))
    refine ⟨⟨_, maxScale - places, bounded, Nat.sub_le _ _, ?_⟩,
      ⟨_, maxScale, bounded, Nat.le_refl _, exactly.symm⟩⟩
    have split : (10 : ℚ) ^ maxScale = 10 ^ (maxScale - places) * 10 ^ places := by
      rw [← pow_add, Nat.sub_add_cancel near]
    rw [Decimal.magnitude, split] at exactly
    field_simp at exactly ⊢
    linarith
  · -- the digits that are given up are zeros
    rintro ⟨holds, numerator, digits, small, fits, shifted⟩
    have exactly := rounds.exact_iff_holds.mpr holds
    have split : (10 : ℚ) ^ maxScale = 10 ^ digits * 10 ^ (maxScale - digits) := by
      rw [← pow_add, Nat.add_sub_cancel' fits]
    have cast : (coefficient : ℚ) = numerator * 10 ^ (maxScale - digits) * 10 ^ count :=
      calc (coefficient : ℚ) = magnitude * 10 ^ scale := exactly.symm
        _ = numerator / 10 ^ digits * (10 ^ scale * 10 ^ places) := by
          rw [(div_eq_iff (by positivity)).mp shifted]
          ring
        _ = numerator / 10 ^ digits * (10 ^ digits * 10 ^ (maxScale - digits) * 10 ^ count) := by
          rw [← pow_add 10 scale, same, pow_add, split]
        _ = numerator * 10 ^ (maxScale - digits) * 10 ^ count := by
          field_simp
    have multiple : coefficient = numerator * 10 ^ (maxScale - digits) * 10 ^ count := by
      exact_mod_cast cast
    rw [Decimal.magnitude, multiple, dropDigits_mul, shifted, split]
    push_cast
    field_simp

theorem Rounds.shifts_left
    (rounds : Rounds magnitude coefficient scale)
    (nonneg : 0 ≤ magnitude)
    (negative : Bool)
    (places : Nat) :
    Shifts negative magnitude (magnitude / 10 ^ places) places
      (shiftLeft? ⟨negative, coefficient, scale⟩ places) := by
  by_cases far : maxScale < places
  · rw [shiftLeft?, if_pos far]
    exact .refused (.inl far)
  have within : ¬(maxScale < places ∨ Overflows (magnitude / 10 ^ places)) := by
    rintro (more | overflows)
    · exact far more
    · refine rounds.not_overflows nonneg (Nat.zero_le _) (le_trans overflows ?_)
      rw [pow_zero, mul_one]
      exact div_le_self nonneg (one_le_pow₀ (by norm_num))
  rw [shiftLeft?, if_neg far]
  split_ifs with inside
  · refine rounds.shifts_within within inside ?_
    simp only
    rw [pow_add]
    field_simp
  · have beyond : maxScale < scale + places := Nat.not_le.mp inside
    have count : scale + places = maxScale + (scale - (maxScale - places)) := by omega
    exact rounds.shifts_beyond within (by omega) count

/-! ## Numbers with an exponent -/

/-- The shift of the point that the exponent of a number asks for. -/
def shiftAs? (spelling : Spelling) (decimal : Decimal) : Option Decimal :=
  if spelling.shiftsLeft then decimal.shiftLeft? spelling.places
  else decimal.shiftRight? spelling.places

theorem Rounds.shifts_as
    {spelling : Spelling}
    (rounds : Rounds spelling.base coefficient scale) :
    Shifts negative spelling.base spelling.magnitude spelling.places
      (shiftAs? spelling ⟨negative, coefficient, scale⟩) := by
  unfold shiftAs? Spelling.magnitude
  split
  · exact rounds.shifts_left spelling.base_nonneg negative spelling.places
  · exact rounds.shifts_right spelling.base_nonneg negative spelling.places

section

variable {spelling : Spelling} {digits : List Char}

theorem exponentPlaces?_of_isDigit
    (filled : digits ≠ [])
    (each : ∀ digit ∈ digits, digit.isDigit = true) :
    exponentPlaces? digits = some (digitsValue digits) ∧
      exponentPlaces? ('+' :: digits) = some (digitsValue digits) := by
  have allowed : ¬(digits.isEmpty = true ∨ (! digits.all Char.isDigit) = true) := by
    simpa [filled] using each
  have signed : exponentPlaces? ('+' :: digits) = some (digitsValue digits) := by
    simp only [exponentPlaces?, if_neg allowed]
    rfl
  refine ⟨?_, signed⟩
  simp only [exponentPlaces?]
  split
  · exact absurd (each '+' List.mem_cons_self) (by decide)
  · exact if_neg allowed

/-- No character in front of the exponent is a mark of one. -/
theorem isExponentMark_of_mem_mantissa
    (spelled : spelling.IsOver Char.isDigit)
    {character : Char}
    (member : character ∈ spelling.sign.chars ++ spelling.mantissa) :
    isExponentMark character = false := by
  rcases List.mem_append.mp member with sign | mantissa
  · have signs := Sign.isSign_of_mem_chars sign
    rcases (Bool.or_eq_true _ _).mp signs with plus | minus
    · rw [eq_of_beq plus]
      rfl
    · rw [eq_of_beq minus]
      rfl
  · rcases spelled.digit_or_point mantissa with digit | rfl
    · by_contra mark
      exact not_mem_numberMarks_of_isDecimalDigit (isDecimalDigit_of_isDigit digit)
        (mem_numberMarks_of_isExponentMark (by simpa using mark))
    · rfl

theorem ofPlain?_of_exponent
    {exponent : Exponent}
    (spelled : spelling.IsOver Char.isDigit)
    (present : spelling.exponent = some exponent) :
    ofPlain? spelling.chars = none := by
  have mark : exponent.mark = 'e' ∨ exponent.mark = 'E' := by
    simpa [isExponentMark] using (spelled.exponent exponent present).marked
  have stops (reading : Reading) : reading.run? spelling.power = none := by
    rw [Spelling.power, present, Option.elim_some, Exponent.chars, Reading.run?]
    rcases mark with lower | upper
    · rw [lower]
      rfl
    · rw [upper]
      rfl
  rw [Spelling.chars, ofPlain?_signed _ fun _ => spelled.decimal.isSign_of_mem_head?,
    Reading.run?_append]
  simp only [stops, Option.bind_none, Option.bind_fun_none]

theorem ofScientific?_of_exponent
    {exponent : Exponent}
    (spelled : spelling.IsOver Char.isDigit)
    (present : spelling.exponent = some exponent) :
    ofScientific? spelling.chars =
      (ofPlain? (spelling.sign.chars ++ spelling.mantissa)).bind (shiftAs? spelling) := by
  have written := spelled.exponent exponent present
  have unmarked : ∀ character ∈ spelling.sign.chars ++ spelling.mantissa,
      (! isExponentMark character) = true := fun character member => by
    rw [isExponentMark_of_mem_mantissa spelled member]
    rfl
  have divided : spelling.chars.span (! isExponentMark ·) =
      (spelling.sign.chars ++ spelling.mantissa,
        exponent.mark :: (exponent.sign.chars ++ exponent.digits)) := by
    have power : spelling.power = exponent.mark :: (exponent.sign.chars ++ exponent.digits) := by
      rw [Spelling.power, present]
      rfl
    rw [List.span_eq_takeWhile_dropWhile, Spelling.chars, ← List.append_assoc,
      List.takeWhile_append_of_pos unmarked, List.dropWhile_append_of_pos unmarked, power]
    simp [written.marked]
  unfold ofScientific?
  rw [divided]
  refine congrArg (Option.bind _) (funext fun decimal => ?_)
  have asked : shiftAs? spelling decimal =
      if exponent.sign = .minus then decimal.shiftLeft? exponent.places
      else decimal.shiftRight? exponent.places := by
    simp [shiftAs?, Spelling.shiftsLeft, Spelling.places, present]
  obtain ⟨bare, signed⟩ := exponentPlaces?_of_isDigit written.filled written.digits
  rw [asked]
  cases sign : exponent.sign with
  | minus =>
      change (exponentPlaces? exponent.digits).bind decimal.shiftLeft? = _
      rw [bare]
      rfl
  | plus =>
      change (exponentPlaces? ('+' :: exponent.digits)).bind decimal.shiftRight? = _
      rw [signed]
      rfl
  | absent =>
      rw [Sign.chars, List.nil_append]
      split
      · rename_i minus
        exact absurd (written.digits '-' (by simp [minus])) (by decide)
      · rw [bare]
        rfl

/-- A number is read without its exponent, and then the point is shifted. -/
theorem ofChars?_chars (spelled : spelling.IsOver Char.isDigit) :
    ofChars? spelling.chars =
      (ofPlain? (spelling.sign.chars ++ spelling.mantissa)).bind (shiftAs? spelling) := by
  cases present : spelling.exponent with
  | none =>
      have plain : spelling.chars = spelling.sign.chars ++ spelling.mantissa := by
        simp [Spelling.chars, Spelling.power, present]
      have kept : shiftAs? spelling = some := by
        funext decimal
        simp [shiftAs?, Spelling.shiftsLeft, Spelling.places, present, shiftRight?]
      have unmarked : (spelling.sign.chars ++ spelling.mantissa).dropWhile (! isExponentMark ·) =
          [] := by
        refine List.dropWhile_eq_nil_iff.mpr fun character member => ?_
        rw [isExponentMark_of_mem_mantissa spelled member]
        rfl
      have refused : ofScientific? (spelling.sign.chars ++ spelling.mantissa) = none := by
        rw [ofScientific?, List.span_eq_takeWhile_dropWhile, unmarked]
      rw [plain, kept, ofChars?, refused, Option.or_none, Option.bind_fun_some]
  | some exponent =>
      rw [ofChars?, ofPlain?_of_exponent spelled present, Option.none_or,
        ofScientific?_of_exponent spelled present]

/-- With the same sign, the numbers are the same if they are without it. -/
theorem value_eq_iff
    {decimal : Decimal}
    (sign : decimal.negative = decide (spelling.sign = .minus)) :
    decimal.value = spelling.value ↔ decimal.magnitude = spelling.magnitude := by
  rw [value, Spelling.value, sign]
  by_cases minus : spelling.sign = .minus
  · simp [minus]
  · simp [minus]

end

end Decimal

namespace Text

open Decimal

/--
A number survives being read into a decimal: it is refused, since the point is shifted too far or
the digits do not fit, or decimals hold it both before and after the point is shifted.
-/
def Spelling.Survives (spelling : Spelling) : Prop :=
  maxScale < spelling.places ∨ Overflows spelling.base ∨ Overflows spelling.magnitude ∨
    Holds spelling.base ∧ Holds spelling.magnitude

theorem Spelling.survives_withoutPlus (spelling : Spelling) :
    spelling.withoutPlus.Survives ↔ spelling.Survives := by
  unfold withoutPlus
  split <;> rfl

/-- Reading a number gives the number itself, or nothing, exactly if it survives. -/
theorem Spelling.IsOver.survives_iff
    {spelling : Spelling}
    (spelled : spelling.IsOver Char.isDigit) :
    (∀ decimal, ofChars? spelling.chars = some decimal → decimal.value = spelling.value) ↔
      spelling.Survives := by
  have plain := readsAs_ofPlain? spelled
  rw [ofChars?_chars spelled]
  generalize ofPlain? (spelling.sign.chars ++ spelling.mantissa) = plainly at plain ⊢
  cases plain with
  | refused overflows => exact iff_of_true (by simp) (.inr (.inl overflows))
  | @rounded coefficient scale rounds =>
      have fits : ¬Overflows spelling.base := by
        simpa using rounds.not_overflows spelling.base_nonneg (Nat.zero_le scale)
      have shifts : Shifts (decide (spelling.sign = .minus)) spelling.base spelling.magnitude
          spelling.places (shiftAs? spelling ⟨_, coefficient, scale⟩) := rounds.shifts_as
      rw [Option.bind_some]
      generalize shiftAs? spelling ⟨decide (spelling.sign = .minus), coefficient, scale⟩ =
        shift at shifts ⊢
      cases shifts with
      | refused beyond =>
          refine iff_of_true (by simp) ?_
          rcases beyond with far | overflows
          · exact .inl far
          · exact .inr (.inr (.inl overflows))
      | shifted within sign exactly =>
          obtain ⟨near, bounded⟩ := not_or.mp within
          simp only [Option.some.injEq, forall_eq']
          rw [value_eq_iff sign, exactly, Survives, or_iff_right near, or_iff_right fits,
            or_iff_right bounded]

/--
The canonical form of a numeral over the digits of ASCII denotes the same number as the numeral if
and only if the number survives being read into a decimal.
-/
theorem canonicalNumeral_denotes_iff
    {text : String}
    (ascii : HasAsciiDigits text.toList)
    (numeral : isNumeral text = true) :
    ∃ spelling : Spelling, spelling.IsOver Char.isDigit ∧ spelling.IsWrittenIn text ∧
      (Denotes (canonicalNumeral text) spelling.value ↔ spelling.Survives) := by
  obtain ⟨spelling, spelled, written⟩ := exists_ascii_spelling numeral ascii
  refine ⟨spelling, spelled, written, ?_⟩
  have bare := spelled.decimal.bareNumeral_eq written
  rw [← spelling.survives_withoutPlus, ← spelled.withoutPlus.survives_iff, ← bare,
    ← spelling.value_withoutPlus]
  cases read : ofChars? (bareNumeral text.toList) with
  | none =>
      rw [canonicalNumeral_of_refused read, bare]
      exact iff_of_true spelled.withoutPlus.denotes_ofList (by simp)
  | some decimal =>
      rw [canonicalNumeral_of_ofChars? read, denotes_normalize_iff]
      simp only [Option.some.injEq, forall_eq']

/-- The parts of `+1.50e3`. -/
def fifteenHundred : Spelling :=
  ⟨.plus, ['1'], some ['5', '0'], some ⟨'e', .absent, ['3']⟩⟩

/-- Between blanks, with a sign, a needless zero and an exponent, a number is kept. -/
theorem canonicalNumeral_denotes_iff_of_fifteenHundred :
    isNumeral " +1.50e3 " = true ∧
      ∃ value, Denotes " +1.50e3 " value ∧ Denotes (canonicalNumeral " +1.50e3 ") value := by
  have numeral : isNumeral " +1.50e3 " = true := by decide +kernel
  have ascii : HasAsciiDigits " +1.50e3 ".toList := by decide +kernel
  have own : fifteenHundred.IsOver Char.isDigit := by decide +kernel
  have blank : ∀ character ∈ [' '], isBlank character = true := List.forall_mem_singleton.mpr rfl
  have inside : fifteenHundred.IsWrittenIn " +1.50e3 " := ⟨[' '], [' '], rfl, blank, blank⟩
  obtain ⟨spelling, spelled, written, same⟩ := canonicalNumeral_denotes_iff ascii numeral
  obtain rfl := spelled.decimal.eq_of_isWrittenIn own.decimal written inside
  refine ⟨numeral, fifteenHundred.value, ⟨_, own, inside, rfl⟩, same.mpr ?_⟩
  have before : Holds fifteenHundred.base := ⟨150, 2, by decide, by decide, by decide +kernel⟩
  have after : Holds fifteenHundred.magnitude :=
    ⟨1500, 0, by decide, by decide, by decide +kernel⟩
  exact .inr (.inr (.inr ⟨before, after⟩))

/-- A fraction, the digits of which are the given ones. -/
def longFraction (digits : String) : Spelling :=
  ⟨.absent, ['0'], some digits.toList, none⟩

/-- A fraction with more digits than a decimal has room for is rounded. -/
theorem canonicalNumeral_rounds_long_fraction :
    ¬∃ value, Denotes "0.12345678901234567890123456785" value ∧
      Denotes (canonicalNumeral "0.12345678901234567890123456785") value := by
  have rounded : canonicalNumeral "0.12345678901234567890123456785" =
      "0.1234567890123456789012345679" := by decide +kernel
  have before : Denotes "0.12345678901234567890123456785"
      (longFraction "12345678901234567890123456785").value :=
    ⟨_, by decide +kernel, ⟨[], [], rfl, by simp, by simp⟩, rfl⟩
  have after : Denotes "0.1234567890123456789012345679"
      (longFraction "1234567890123456789012345679").value :=
    ⟨_, by decide +kernel, ⟨[], [], rfl, by simp, by simp⟩, rfl⟩
  rintro ⟨value, denotes, denotesRounded⟩
  rw [rounded] at denotesRounded
  have same := (before.unique denotes).trans (denotesRounded.unique after)
  exact absurd same (by decide +kernel)

end Text
end RuleClause
