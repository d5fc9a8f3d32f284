import RuleClause.Proofs.Numeral.Rounding
import RuleClause.Proofs.Numeral.Shortest
import RuleClause.Sql.Literal

/-!
# The text of a floating-point number

A floating-point number is written with the digits of its shortest decimal, without zeros at the
end.  The parts of the text are those of a spelling, which stands for the decimal.  There are three
ways to write it: without an exponent, with one that makes the number a whole one, and with one
that makes it small.
-/

namespace RuleClause
namespace Number

open Decimal Text

/-- The number that digits stand for if the first of them stands for a power of ten. -/
def digitsAt (digits : List Char) (leading : Int) : ℚ :=
  digitsValue digits * 10 ^ (leading + 1 - digits.length)

/-- At most seventeen digits, of which the first is not zero. -/
structure IsSignificant (digits : List Char) : Prop where
  /-- Each is a digit of ASCII. -/
  each : ∀ digit ∈ digits, digit.isDigit = true
  /-- There are at most seventeen. -/
  few : digits.length ≤ 17
  /-- The first is not zero. -/
  leads : 10 ^ (digits.length - 1) ≤ digitsValue digits

/-! ## Significant digits -/

theorem digitsValue_zeros (count : Nat) : digitsValue (zeros count) = 0 := by
  rw [digitsValue_eq_ofDigitChars, zeros, Nat.ofDigitChars_replicate_zero, Nat.mul_zero]

theorem digitsValue_lt
    {digits : List Char}
    (each : ∀ digit ∈ digits, digit.isDigit = true) :
    digitsValue digits < 10 ^ digits.length := by
  have below := fractionValue_lt_one each
  rw [fractionValue, div_lt_one (by positivity)] at below
  exact_mod_cast below

theorem isDigit_of_mem_zeros {count : Nat} {digit : Char} (member : digit ∈ zeros count) :
    digit.isDigit = true := by
  rw [zeros, List.mem_replicate] at member
  rw [member.2]
  rfl

/-- The digits of a coefficient are its significant digits and zeros. -/
theorem toDigits_eq_significantDigits_append (coefficient : Nat) :
    ∃ count, Nat.toDigits 10 coefficient = significantDigits coefficient ++ zeros count := by
  have divided := List.takeWhile_append_dropWhile (p := (· == '0'))
    (l := (Nat.toDigits 10 coefficient).reverse)
  have same := List.eq_replicate_of_mem (a := '0')
    (l := (Nat.toDigits 10 coefficient).reverse.takeWhile (· == '0'))
    fun digit member => by simpa using List.mem_takeWhile_imp member
  refine ⟨((Nat.toDigits 10 coefficient).reverse.takeWhile (· == '0')).length, ?_⟩
  rw [zeros, ← same, significantDigits]
  have reversed := congrArg List.reverse divided
  rw [List.reverse_append, List.reverse_reverse, same, List.reverse_replicate, ← same] at reversed
  exact reversed.symm

theorem isSignificant_significantDigits
    {coefficient : Nat}
    (positive : 0 < coefficient)
    (bounded : coefficient ≤ 10 ^ 17) :
    IsSignificant (significantDigits coefficient) := by
  obtain ⟨count, same⟩ := toDigits_eq_significantDigits_append coefficient
  have value := digitsValue_toDigits coefficient
  have least := pow_le_of_length_toDigits positive
  rw [same, digitsValue_append, digitsValue_zeros, Nat.add_zero] at value
  rw [same, List.length_append] at least
  have length : (zeros count).length = count := List.length_replicate
  rw [length] at value least
  have filled : significantDigits coefficient ≠ [] := by
    intro empty
    rw [empty, show digitsValue [] = 0 from rfl, Nat.zero_mul] at value
    omega
  have some := List.length_pos_iff.mpr filled
  refine ⟨fun digit member => ?_, ?_, ?_⟩
  · have inside : digit ∈ Nat.toDigits 10 coefficient := by
      rw [same]
      exact List.mem_append_left _ member
    exact Nat.isDigit_of_mem_toDigits (by decide) (by decide) inside
  · rcases Nat.lt_or_eq_of_le bounded with below | rfl
    · have few := (Nat.length_toDigits_le_iff (by decide) (by decide)).mpr below
      rw [same, List.length_append] at few
      omega
    · decide +kernel
  · rw [show (significantDigits coefficient).length + count - 1 =
      (significantDigits coefficient).length - 1 + count by omega, pow_add] at least
    exact Nat.le_of_mul_le_mul_right (least.trans_eq value.symm) (by positivity)

/-- The significant digits stand for the decimal at the place of its first digit. -/
theorem digitsAt_significantDigits (decimal : Scaled) :
    digitsAt (significantDigits decimal.coefficient)
      (decimal.exponent + (Nat.toDigits 10 decimal.coefficient).length - 1) = decimal.value := by
  obtain ⟨count, same⟩ := toDigits_eq_significantDigits_append decimal.coefficient
  have value := digitsValue_toDigits decimal.coefficient
  have length : (zeros count).length = count := List.length_replicate
  have places : decimal.exponent + (Nat.toDigits 10 decimal.coefficient).length - 1 + 1 -
      (significantDigits decimal.coefficient).length = count + decimal.exponent := by
    rw [same, List.length_append, length]
    push_cast
    ring
  rw [same, digitsValue_append, digitsValue_zeros, Nat.add_zero, length] at value
  have cast : ((digitsValue (significantDigits decimal.coefficient) * 10 ^ count : Nat) : ℚ) =
      decimal.coefficient := by
    exact_mod_cast value
  rw [digitsAt, places, zpow_add₀ (by norm_num), zpow_natCast, Scaled.value, ← cast]
  push_cast
  ring

/-! ## Digits around a point -/

section

variable {digits : List Char} {leading : Int}

/-- Where the point stands among the digits does not matter for their value. -/
theorem digitsValue_take_add_fractionValue_drop
    {whole : Nat}
    (most : whole ≤ digits.length) :
    (digitsValue (digits.take whole) : ℚ) + fractionValue (digits.drop whole) =
      digitsAt digits (whole - 1) := by
  have split := digitsValue_append (digits.take whole) (digits.drop whole)
  have places :
      ((whole : Int) - 1) + 1 - digits.length = -((digits.length - whole : Nat) : Int) := by
    omega
  rw [List.take_append_drop, List.length_drop] at split
  rw [digitsAt, places, zpow_neg, zpow_natCast, split, fractionValue, List.length_drop]
  push_cast
  field_simp

/-- Digits with zeros behind them. -/
theorem digitsValue_append_zeros
    {count : Nat}
    (places : leading + 1 = digits.length + count) :
    (digitsValue (digits ++ zeros count) : ℚ) = digitsAt digits leading := by
  have length : (zeros count).length = count := List.length_replicate
  rw [digitsValue_append, digitsValue_zeros, length, digitsAt, places, add_sub_cancel_left,
    zpow_natCast]
  push_cast
  ring

/-- Digits behind a point, with zeros in front of them. -/
theorem fractionValue_zeros_append
    {count : Nat}
    (places : leading + 1 = -count) :
    fractionValue (zeros count ++ digits) = digitsAt digits leading := by
  have length : (zeros count).length = count := List.length_replicate
  have exponent : leading + 1 - digits.length = -((count + digits.length : Nat) : Int) := by
    push_cast
    omega
  rw [fractionValue, digitsValue_append, digitsValue_zeros, List.length_append, length, digitsAt,
    exponent, zpow_neg, zpow_natCast]
  push_cast
  ring

/-! ## The parts of a text -/

/-- The digits in front of the point and behind it, in positional notation. -/
def positionalSpelling (digits : List Char) (leading : Int) : Spelling :=
  if leading < 0 then ⟨.absent, ['0'], some (zeros (-leading - 1).toNat ++ digits), none⟩
  else
    let whole := leading.toNat + 1
    let fraction := digits.drop whole
    ⟨.absent, digits.take whole ++ zeros (whole - digits.length),
      some (if fraction.isEmpty then ['0'] else fraction), none⟩

theorem chars_positionalSpelling (digits : List Char) (leading : Int) :
    (positionalSpelling digits leading).chars = positional digits leading := by
  unfold positionalSpelling positional
  split <;>
    simp [Spelling.chars, Spelling.mantissa, Spelling.power, Spelling.pointed, Sign.chars]

/-- The parts in scientific notation. -/
def scientificSpelling (digits : List Char) (leading : Int) : Spelling :=
  let fraction := digits.drop 1
  ⟨.absent, digits.take 1, if fraction.isEmpty then none else some fraction,
    some ⟨'e', if leading < 0 then .minus else .plus, Nat.toDigits 10 leading.natAbs⟩⟩

theorem chars_scientificSpelling (digits : List Char) (leading : Int) :
    (scientificSpelling digits leading).chars = scientific digits leading := by
  simp only [scientificSpelling, scientific, Spelling.chars, Spelling.mantissa, Spelling.power,
    Option.elim_some, Exponent.chars, List.append_assoc]
  split <;> split <;> simp [Spelling.pointed, Sign.chars]

theorem base_positionalSpelling (digits : List Char) (leading : Int) :
    (positionalSpelling digits leading).base = digitsAt digits leading := by
  unfold positionalSpelling
  split
  · have none : digitsValue ['0'] = 0 := rfl
    simp only [Spelling.base, Option.getD_some, none, Nat.cast_zero, zero_add]
    exact fractionValue_zeros_append (by omega)
  · rename_i positive
    obtain ⟨whole, rfl⟩ := Int.eq_ofNat_of_zero_le (Int.not_lt.mp positive)
    simp only [Spelling.base, Option.getD_some, Int.toNat_natCast, List.isEmpty_iff,
      List.drop_eq_nil_iff]
    split
    · rename_i short
      have zero : fractionValue ['0'] = 0 := by
        simp [fractionValue, digitsValue, digitValue]
      rw [zero, add_zero, List.take_of_length_le short]
      exact digitsValue_append_zeros (by omega)
    · rename_i long
      have inside : whole + 1 ≤ digits.length := by omega
      have none : zeros (whole + 1 - digits.length) = [] := by
        rw [Nat.sub_eq_zero_of_le inside]
        rfl
      rw [none, List.append_nil, digitsValue_take_add_fractionValue_drop inside]
      push_cast
      rw [add_sub_cancel_right]

theorem base_scientificSpelling (filled : digits ≠ []) (leading : Int) :
    (scientificSpelling digits leading).base = digitsAt digits 0 := by
  have fraction : (if (digits.drop 1).isEmpty then none else some (digits.drop 1)).getD [] =
      digits.drop 1 := by
    split
    · rename_i empty
      exact (List.isEmpty_iff.mp empty).symm
    · rfl
  simp only [Spelling.base, scientificSpelling, fraction]
  exact digitsValue_take_add_fractionValue_drop (List.length_pos_iff.mpr filled)

theorem digitsAt_eq_mul (digits : List Char) (leading : Int) :
    digitsAt digits leading = digitsAt digits 0 * 10 ^ leading := by
  rw [digitsAt, digitsAt, mul_assoc, ← zpow_add₀ (by norm_num)]
  congr 2
  ring

theorem magnitude_scientificSpelling (filled : digits ≠ []) (leading : Int) :
    (scientificSpelling digits leading).magnitude = digitsAt digits leading := by
  have places : (scientificSpelling digits leading).places = leading.natAbs :=
    digitsValue_toDigits leading.natAbs
  rw [Spelling.magnitude, base_scientificSpelling filled, places, digitsAt_eq_mul digits leading]
  by_cases negative : leading < 0
  · have left : (scientificSpelling digits leading).shiftsLeft = true := by
      simp [Spelling.shiftsLeft, scientificSpelling, negative]
    rw [if_pos left, div_eq_mul_inv, ← zpow_natCast, ← zpow_neg,
      show -(leading.natAbs : Int) = leading by omega]
  · have right : (scientificSpelling digits leading).shiftsLeft = false := by
      simp [Spelling.shiftsLeft, scientificSpelling, negative]
    rw [right, if_neg (by simp), ← zpow_natCast, show (leading.natAbs : Int) = leading by omega]

end

end Number

/-! ## The three ways to write a number -/

namespace Text

open Decimal Number

/--
A number as floating-point numbers are written.  In each case decimals hold what stands in front of
the exponent.
-/
inductive Spelling.Printed (spelling : Spelling) : Prop
  /-- There is no exponent. -/
  | positional
      (held : Holds spelling.base)
      (unscaled : spelling.exponent = none)
  /-- The exponent shifts the point to the right, and makes the number a whole one. -/
  | large
      (held : Holds spelling.base)
      (right : spelling.shiftsLeft = false)
      (whole : ∃ number : Nat, spelling.magnitude = number)
  /-- The exponent shifts the point to the left, from behind the first digit. -/
  | small
      (held : Holds spelling.base)
      (left : spelling.shiftsLeft = true)
      (least : 1 ≤ spelling.base)
      (most : spelling.base < 10)
      (far : 5 < spelling.places)

theorem Spelling.Printed.withSign
    {spelling : Spelling}
    (printed : spelling.Printed)
    (sign : Sign) :
    ({ spelling with sign := sign } : Spelling).Printed := by
  cases printed with
  | positional held unscaled => exact .positional held unscaled
  | large held right whole => exact .large held right whole
  | small held left least most far => exact .small held left least most far

end Text

namespace Number

open Decimal Text

namespace IsSignificant

variable {digits : List Char} {leading : Int}

theorem filled (significant : IsSignificant digits) : digits ≠ [] := by
  rintro rfl
  exact absurd significant.leads (by decide)

/-- Places that only zeros fill make a whole number. -/
theorem exists_digitsAt_eq_natCast (long : (digits.length : Int) ≤ leading + 1) :
    ∃ count : Nat, leading + 1 = digits.length + count ∧
      digitsAt digits leading = (digitsValue digits * 10 ^ count : Nat) := by
  obtain ⟨count, same⟩ := Int.eq_ofNat_of_zero_le (Int.sub_nonneg.mpr long)
  refine ⟨count, by omega, ?_⟩
  rw [digitsAt, same]
  push_cast
  rw [zpow_natCast]

/-- Decimals hold the numbers that are written without an exponent. -/
theorem holds_digitsAt
    (significant : IsSignificant digits)
    (least : leastPositional ≤ leading)
    (most : leading ≤ greatestPositional) :
    Holds (digitsAt digits leading) := by
  have below := digitsValue_lt significant.each
  have few := significant.few
  unfold leastPositional at least
  unfold greatestPositional at most
  by_cases long : (digits.length : Int) ≤ leading + 1
  · obtain ⟨count, places, same⟩ := exists_digitsAt_eq_natCast long
    refine ⟨digitsValue digits * 10 ^ count, 0, ?_, Nat.zero_le _, by rw [same, pow_zero, div_one]⟩
    calc digitsValue digits * 10 ^ count
        < 10 ^ digits.length * 10 ^ count := Nat.mul_lt_mul_of_pos_right below (by positivity)
      _ = 10 ^ (digits.length + count) := (pow_add ..).symm
      _ ≤ 10 ^ 16 := Nat.pow_le_pow_right (by decide) (by omega)
      _ < coefficientBound := by decide
  · refine ⟨digitsValue digits, (digits.length - (leading + 1)).toNat, ?_, ?_, ?_⟩
    · calc digitsValue digits
          < 10 ^ digits.length := below
        _ ≤ 10 ^ 17 := Nat.pow_le_pow_right (by decide) few
        _ < coefficientBound := by decide
    · unfold maxScale
      omega
    · rw [digitsAt, show leading + 1 - digits.length =
        -((digits.length - (leading + 1)).toNat : Int) by omega, zpow_neg, zpow_natCast,
        div_eq_mul_inv]

/-- With the point behind the first digit, a number lies between one and ten. -/
theorem digitsAt_zero (significant : IsSignificant digits) :
    1 ≤ digitsAt digits 0 ∧ digitsAt digits 0 < 10 := by
  have some := List.length_pos_iff.mpr significant.filled
  have places : (0 : Int) + 1 - digits.length = -((digits.length - 1 : Nat) : Int) := by omega
  have unit : (0 : ℚ) < 10 ^ (digits.length - 1) := by positivity
  have least : ((10 ^ (digits.length - 1) : Nat) : ℚ) ≤ digitsValue digits := by
    exact_mod_cast significant.leads
  have most : (digitsValue digits : ℚ) < (10 ^ digits.length : Nat) := by
    exact_mod_cast digitsValue_lt significant.each
  have split : (10 : ℚ) ^ digits.length = 10 * 10 ^ (digits.length - 1) := by
    rw [← pow_succ', Nat.sub_add_cancel some]
  push_cast at least most
  rw [digitsAt, places, zpow_neg, zpow_natCast, ← div_eq_mul_inv, le_div_iff₀ unit,
    div_lt_iff₀ unit, ← split, one_mul]
  exact ⟨least, most⟩

theorem isOver_positionalSpelling (significant : IsSignificant digits) (leading : Int) :
    (positionalSpelling digits leading).IsOver Char.isDigit := by
  have zero : ∀ digit ∈ ['0'], digit.isDigit = true := List.forall_mem_singleton.mpr rfl
  have filled := significant.filled
  unfold positionalSpelling
  split
  · refine ⟨by simp [Spelling.digits], ?_, by simp⟩
    simp only [Spelling.digits, Option.getD_some, List.forall_mem_append]
    exact ⟨zero, fun digit => isDigit_of_mem_zeros, significant.each⟩
  · refine ⟨by simp [Spelling.digits, filled], ?_, by simp⟩
    simp only [Spelling.digits, Option.getD_some, List.forall_mem_append]
    refine ⟨⟨fun digit member => significant.each digit (List.mem_of_mem_take member),
      fun digit => isDigit_of_mem_zeros⟩, ?_⟩
    split
    · exact zero
    · exact fun digit member => significant.each digit (List.mem_of_mem_drop member)

theorem isOver_scientificSpelling (significant : IsSignificant digits) (leading : Int) :
    (scientificSpelling digits leading).IsOver Char.isDigit := by
  have filled := significant.filled
  refine ⟨by simp [Spelling.digits, scientificSpelling, filled], ?_, ?_⟩
  · simp only [Spelling.digits, scientificSpelling, List.forall_mem_append]
    refine ⟨fun digit member => significant.each digit (List.mem_of_mem_take member), ?_⟩
    split
    · simp
    · exact fun digit member => significant.each digit (List.mem_of_mem_drop member)
  · intro exponent present
    obtain rfl := Option.some.inj present
    exact ⟨rfl, Nat.toDigits_ne_nil,
      fun digit => Nat.isDigit_of_mem_toDigits (by decide) (by decide)⟩

/-- A number that is too large or too small for positional notation. -/
theorem printed_scientificSpelling
    (significant : IsSignificant digits)
    (outside : ¬(leastPositional ≤ leading ∧ leading ≤ greatestPositional)) :
    (scientificSpelling digits leading).Printed := by
  have base := base_scientificSpelling significant.filled leading
  have held : Holds (scientificSpelling digits leading).base := by
    rw [base]
    exact significant.holds_digitsAt (by decide) (by decide)
  have few := significant.few
  unfold leastPositional greatestPositional at outside
  by_cases negative : leading < 0
  · obtain ⟨least, most⟩ := significant.digitsAt_zero
    have places : (scientificSpelling digits leading).places = leading.natAbs :=
      digitsValue_toDigits leading.natAbs
    refine .small held ?_ (base ▸ least) (base ▸ most) (by omega)
    simp [Spelling.shiftsLeft, scientificSpelling, negative]
  · obtain ⟨count, _, same⟩ :=
      exists_digitsAt_eq_natCast (by omega : (digits.length : Int) ≤ leading + 1)
    refine .large held ?_ ⟨_, (magnitude_scientificSpelling significant.filled leading).trans same⟩
    simp [Spelling.shiftsLeft, scientificSpelling, negative]

end IsSignificant

/-! ## The parts of the text of a floating-point number -/

/-- The parts of the text of a positive decimal. -/
def scaledSpelling (decimal : Scaled) : Spelling :=
  let leading := decimal.exponent + (Nat.toDigits 10 decimal.coefficient).length - 1
  let digits := significantDigits decimal.coefficient
  if leastPositional ≤ leading ∧ leading ≤ greatestPositional then positionalSpelling digits leading
  else scientificSpelling digits leading

theorem sign_positionalSpelling (digits : List Char) (leading : Int) :
    (positionalSpelling digits leading).sign = .absent := by
  unfold positionalSpelling
  split <;> rfl

theorem magnitude_positionalSpelling (digits : List Char) (leading : Int) :
    (positionalSpelling digits leading).magnitude = digitsAt digits leading := by
  have unscaled : (positionalSpelling digits leading).exponent = none := by
    unfold positionalSpelling
    split <;> rfl
  rw [← base_positionalSpelling]
  simp [Spelling.magnitude, Spelling.shiftsLeft, Spelling.places, unscaled]

section

variable {decimal : Scaled}

theorem sign_scaledSpelling (decimal : Scaled) : (scaledSpelling decimal).sign = .absent := by
  simp only [scaledSpelling]
  split
  · exact sign_positionalSpelling _ _
  · rfl

theorem chars_scaledSpelling (decimal : Scaled) :
    (scaledSpelling decimal).chars = scaledText decimal := by
  simp only [scaledSpelling, scaledText]
  split
  · exact chars_positionalSpelling _ _
  · exact chars_scientificSpelling _ _

theorem isOver_scaledSpelling
    (significant : IsSignificant (significantDigits decimal.coefficient)) :
    (scaledSpelling decimal).IsOver Char.isDigit := by
  simp only [scaledSpelling]
  split
  · exact significant.isOver_positionalSpelling _
  · exact significant.isOver_scientificSpelling _

theorem printed_scaledSpelling
    (significant : IsSignificant (significantDigits decimal.coefficient)) :
    (scaledSpelling decimal).Printed := by
  simp only [scaledSpelling]
  split
  · rename_i inside
    refine .positional ?_ ?_
    · rw [base_positionalSpelling]
      exact significant.holds_digitsAt inside.1 inside.2
    · unfold positionalSpelling
      split <;> rfl
  · rename_i outside
    exact significant.printed_scientificSpelling outside

/-- The text of a decimal stands for the decimal. -/
theorem magnitude_scaledSpelling
    (significant : IsSignificant (significantDigits decimal.coefficient)) :
    (scaledSpelling decimal).magnitude = decimal.value := by
  rw [← digitsAt_significantDigits decimal]
  simp only [scaledSpelling]
  split
  · exact magnitude_positionalSpelling _ _
  · exact magnitude_scientificSpelling significant.filled _

end

/-- The parts of the text of a floating-point number, given by its bits. -/
def floatSpelling (bits : Nat) : Spelling :=
  let magnitude := bits % signBit
  let spelling :=
    if magnitude = 0 then positionalSpelling ['0'] 0
    else scaledSpelling (Decimal.ofMagnitudeBits magnitude)
  { spelling with sign := if bits < signBit then .absent else .minus }

theorem chars_floatSpelling (bits : Nat) : (floatSpelling bits).chars = floatText bits := by
  have signed (sign : Sign) {spelling : Spelling} (absent : spelling.sign = .absent) :
      ({ spelling with sign := sign } : Spelling).chars = sign.chars ++ spelling.chars := by
    rw [Spelling.chars, Spelling.chars, absent]
    rfl
  simp only [floatSpelling, floatText]
  rw [signed]
  · split_ifs <;>
      simp only [chars_positionalSpelling, chars_scaledSpelling, Sign.chars, List.nil_append,
        List.singleton_append]
  · split
    · exact sign_positionalSpelling _ _
    · exact sign_scaledSpelling _

theorem isSignificant_ofMagnitudeBits
    {magnitude : Nat}
    (some : magnitude ≠ 0)
    (bounded : magnitude < signBit) :
    IsSignificant (significantDigits (Decimal.ofMagnitudeBits magnitude).coefficient) := by
  obtain ⟨positive, few⟩ := ofMagnitudeBits_coefficient some bounded
  exact isSignificant_significantDigits positive few

theorem isOver_floatSpelling (bits : Nat) : (floatSpelling bits).IsOver Char.isDigit := by
  have signed (sign : Sign) {spelling : Spelling} (spelled : spelling.IsOver Char.isDigit) :
      ({ spelling with sign := sign } : Spelling).IsOver Char.isDigit :=
    ⟨spelled.filled, spelled.digits, spelled.exponent⟩
  refine signed _ ?_
  split
  · decide
  · rename_i some
    exact isOver_scaledSpelling
      (isSignificant_ofMagnitudeBits some (Nat.mod_lt _ (by decide)))

theorem printed_floatSpelling (bits : Nat) : (floatSpelling bits).Printed := by
  refine Spelling.Printed.withSign ?_ _
  split
  · refine .positional ⟨0, 0, by decide, by decide, ?_⟩ rfl
    rw [base_positionalSpelling]
    simp [digitsAt, digitsValue, digitValue]
  · rename_i some
    exact printed_scaledSpelling
      (isSignificant_ofMagnitudeBits some (Nat.mod_lt _ (by decide)))

/-- The text of a floating-point number stands for zero if no bit but that of the sign is set. -/
theorem value_floatSpelling_eq_zero_iff (bits : Nat) :
    (floatSpelling bits).value = 0 ↔ bits % signBit = 0 := by
  have signless : (floatSpelling bits).value = 0 ↔ (floatSpelling bits).magnitude = 0 := by
    rw [Spelling.value]
    split
    · exact neg_eq_zero
    · exact Iff.rfl
  rw [signless]
  by_cases zero : bits % signBit = 0
  · refine iff_of_true ?_ zero
    have same : (floatSpelling bits).magnitude = (positionalSpelling ['0'] 0).magnitude := by
      simp only [floatSpelling, if_pos zero]
      rfl
    rw [same, magnitude_positionalSpelling]
    simp [digitsAt, digitsValue, digitValue]
  · refine iff_of_false ?_ zero
    have bounded := Nat.mod_lt bits (by decide : 0 < signBit)
    have same : (floatSpelling bits).magnitude =
        (scaledSpelling (Decimal.ofMagnitudeBits (bits % signBit))).magnitude := by
      simp only [floatSpelling, if_neg zero]
      rfl
    rw [same, magnitude_scaledSpelling (isSignificant_ofMagnitudeBits zero bounded), Scaled.value]
    have positive := (ofMagnitudeBits_coefficient zero bounded).1
    positivity

/-! ## Numbers in conditions -/

/-- The canonical form of a number over the digits of ASCII is one, too. -/
theorem exists_spelling_canonicalNumeral
    {spelling : Spelling}
    (spelled : spelling.IsOver Char.isDigit)
    (unsigned : spelling.sign ≠ .plus) :
    ∃ canonical : Spelling, canonical.IsOver Char.isDigit ∧
      canonicalNumeral (String.ofList spelling.chars) = String.ofList canonical.chars := by
  have bare := spelled.decimal.bareNumeral_ofList unsigned
  cases read : Decimal.ofChars? spelling.chars with
  | none =>
      refine ⟨spelling, spelled, ?_⟩
      rw [canonicalNumeral_of_refused (by rw [bare, read]), bare]
  | some decimal =>
      refine ⟨decimal.normalize.spelling, decimal.normalize.isOver_spelling, ?_⟩
      rw [canonicalNumeral_of_ofChars? (by rw [bare, read]), chars_spelling]

theorem sign_floatSpelling_ne (bits : Nat) : (floatSpelling bits).sign ≠ .plus := by
  simp only [floatSpelling]
  split <;> simp

/-- The text of a number is one over the digits of ASCII, without a plus sign in front. -/
theorem exists_spelling_text (number : Number) :
    ∃ spelling : Spelling, spelling.IsOver Char.isDigit ∧ spelling.sign ≠ .plus ∧
      number.text = String.ofList spelling.chars := by
  cases number with
  | integer value =>
      refine ⟨⟨if value < 0 then .minus else .absent, Nat.toDigits 10 value.natAbs, none, none⟩,
        ⟨?_, ?_, by simp⟩, ?_, ?_⟩
      · simp [Spelling.digits]
      · intro digit member
        have listed : digit ∈ Nat.toDigits 10 value.natAbs := by
          simpa [Spelling.digits] using member
        exact Nat.isDigit_of_mem_toDigits (by decide) (by decide) listed
      · simp only
        split <;> simp
      · simp only [text, integerText]
        split <;> simp [Spelling.chars, Spelling.mantissa, Spelling.pointed, Spelling.power,
          Sign.chars]
  | float value =>
      refine ⟨_, isOver_floatSpelling value.toBits.toNat, sign_floatSpelling_ne _, ?_⟩
      rw [text, chars_floatSpelling]

/-- A number is written in a condition as one over the digits of ASCII. -/
theorem exists_spelling_canonicalText (number : Number) :
    ∃ spelling : Spelling, spelling.IsOver Char.isDigit ∧
      number.canonicalText = String.ofList spelling.chars := by
  obtain ⟨spelling, spelled, unsigned, same⟩ := number.exists_spelling_text
  cases number with
  | integer value => exact ⟨spelling, spelled, same⟩
  | float value =>
      rw [canonicalText, same]
      exact exists_spelling_canonicalNumeral spelled unsigned

end Number
end RuleClause
