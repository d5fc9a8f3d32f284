import RuleClause.Proofs.Numeral.Value

/-!
# Reading rounds to a decimal

A number without an exponent is read into the nearest decimal, half upwards, at the greatest scale
that its coefficient leaves room for.  It is refused exactly if it rounds to the bound of the
coefficients or beyond.
-/

namespace RuleClause
namespace Decimal

open Number Text

/-- A number rounds to the bound of the coefficients or beyond. -/
def Overflows (magnitude : ℚ) : Prop :=
  (coefficientBound : ℚ) - 1 / 2 ≤ magnitude

/-- A number is that of a decimal. -/
def Holds (magnitude : ℚ) : Prop :=
  ∃ coefficient scale : Nat, coefficient < coefficientBound ∧ scale ≤ maxScale ∧
    magnitude = coefficient / 10 ^ scale

/--
The coefficient is the number at a scale, rounded to the nearest and half upwards.  If it is not the
number itself, there is no room for one more digit.
-/
structure Rounds (magnitude : ℚ) (coefficient scale : Nat) : Prop where
  /-- The coefficient stays below its bound. -/
  bounded : coefficient < coefficientBound
  /-- The scale is one that a decimal can have. -/
  scaled : scale ≤ maxScale
  /-- The coefficient is at most half above the number. -/
  lower : (coefficient : ℚ) ≤ magnitude * 10 ^ scale + 1 / 2
  /-- The coefficient is less than half below the number. -/
  upper : magnitude * 10 ^ scale + 1 / 2 < coefficient + 1
  /-- Digits are given up only if they do not fit. -/
  full : magnitude * 10 ^ scale = coefficient ∨ scale = maxScale ∨
    Overflows (magnitude * 10 ^ (scale + 1))

theorem Rounds.of_exact
    {magnitude : ℚ}
    {coefficient scale : Nat}
    (bounded : coefficient < coefficientBound)
    (scaled : scale ≤ maxScale)
    (exactly : magnitude * 10 ^ scale = coefficient) :
    Rounds magnitude coefficient scale where
  bounded := bounded
  scaled := scaled
  lower := by linarith
  upper := by linarith
  full := .inl exactly

theorem coefficientBound_eq : coefficientBound = 79228162514264337593543950336 :=
  rfl

/-- A coefficient that rounding lifts to the bound is rounded right with one digit less. -/
theorem rounds_lifted
    {magnitude part : ℚ}
    {scale : Nat}
    (scaled : scale ≤ maxScale)
    (half : 1 / 2 ≤ part)
    (below : part < 1)
    (same : magnitude * 10 ^ (scale + 1) = coefficientBound - 1 + part) :
    Rounds magnitude ((coefficientBound + 4) / 10) scale := by
  have lifted : (coefficientBound + 4) / 10 = 7922816251426433759354395034 := rfl
  have bound : (coefficientBound : ℚ) = 79228162514264337593543950336 := by
    exact_mod_cast coefficientBound_eq
  have tenth : magnitude * 10 ^ scale * 10 = coefficientBound - 1 + part := by
    rw [← same, pow_succ, mul_assoc]
  have overflows : Overflows (magnitude * 10 ^ (scale + 1)) := by
    rw [Overflows, same]
    linarith
  rw [bound] at tenth
  rw [lifted]
  refine ⟨by decide, scaled, ?_, ?_, .inr (.inr overflows)⟩
  · push_cast
    linarith
  · push_cast
    linarith

namespace Reading

/-- How a reading may end that takes up a number. -/
inductive Takes (magnitude : ℚ) : Option Reading → Prop
  /-- The number is refused. -/
  | refused (overflows : Overflows magnitude) : Takes magnitude none
  /-- The number is rounded. -/
  | rounded {reading : Reading}
      (rounds : Rounds magnitude reading.coefficient reading.scale)
      (started : reading.started = true) : Takes magnitude (some reading)

variable {reading : Reading} {digits : List Char} {magnitude : ℚ}

theorem step?_of_isDigit {digit : Char} (ascii : digit.isDigit = true) :
    reading.step? digit = reading.digit? (digitValue digit) := by
  rw [step?, if_pos ascii]
  rfl

theorem run?_append (reading : Reading) (first second : List Char) :
    reading.run? (first ++ second) = (reading.run? first).bind (·.run? second) := by
  induction first generalizing reading with
  | nil => rfl
  | cons character rest inductionHypothesis =>
      simp only [List.cons_append, run?, Option.bind_assoc, inductionHypothesis]

theorem run?_of_settled
    (settled : reading.settled = true)
    (each : ∀ digit ∈ digits, digit.isDigit = true) :
    reading.run? digits = some reading := by
  induction digits with
  | nil => rfl
  | cons digit rest inductionHypothesis =>
      have kept : reading.step? digit = some reading := by
        rw [step?_of_isDigit (each digit List.mem_cons_self), digit?]
        simp [settled]
      rw [run?, kept]
      exact inductionHypothesis fun other member => each other (List.mem_cons_of_mem _ member)

/-- The first digit that does not fit decides, with those behind it, how a number is rounded. -/
theorem takes_round?
    {digit : Nat}
    {rest : ℚ}
    (started : reading.started = true)
    (bounded : reading.coefficient < coefficientBound)
    (scaled : reading.scale ≤ maxScale)
    (small : digit ≤ 9)
    (nonneg : 0 ≤ rest)
    (below : rest < 1)
    (full : reading.scale = maxScale ∨ coefficientBound ≤ reading.coefficient * 10 + digit)
    (same : magnitude * 10 ^ reading.scale = reading.coefficient + (digit + rest) / 10) :
    Takes magnitude (reading.round? digit) := by
  have last : (digit : ℚ) ≤ 9 := by exact_mod_cast small
  have room : reading.scale = maxScale ∨ Overflows (magnitude * 10 ^ (reading.scale + 1)) := by
    refine full.imp_right fun beyond => ?_
    have cast : (coefficientBound : ℚ) ≤ reading.coefficient * 10 + digit := by
      exact_mod_cast beyond
    rw [Overflows, pow_succ, ← mul_assoc, same]
    linarith
  by_cases half : 5 ≤ digit
  · have up : (5 : ℚ) ≤ digit := by exact_mod_cast half
    simp only [round?, if_pos half]
    split_ifs with fits whole
    · refine .rounded ⟨fits, scaled, ?_, ?_, .inr room⟩ started
      · push_cast
        linarith
      · push_cast
        linarith
    · have greatest : (coefficientBound : ℚ) = reading.coefficient + 1 := by
        exact_mod_cast (by omega : coefficientBound = reading.coefficient + 1)
      rw [whole, pow_zero, mul_one] at same
      refine .refused ?_
      rw [Overflows, greatest]
      linarith
    · have greatest : coefficientBound = reading.coefficient + 1 := by omega
      have above : reading.scale - 1 + 1 = reading.scale := by omega
      have nearly : magnitude * 10 ^ (reading.scale - 1 + 1) =
          coefficientBound - 1 + (digit + rest) / 10 := by
        rw [above, same, greatest]
        push_cast
        ring
      have lifted := rounds_lifted (by omega) (by linarith) (by linarith) nearly
      rw [greatest] at lifted
      exact .rounded lifted started
  · have down : (digit : ℚ) ≤ 4 := by exact_mod_cast (by omega : digit ≤ 4)
    simp only [round?, if_neg half, Nat.add_zero, if_pos bounded]
    refine .rounded ⟨bounded, scaled, ?_, ?_, .inr room⟩ started
    · linarith
    · linarith

/-- Behind the digit that is rounded by, digits are dropped. -/
theorem bind_round?
    {digit : Nat}
    (each : ∀ other ∈ digits, other.isDigit = true) :
    (reading.round? digit).bind (·.run? digits) = reading.round? digit := by
  have settled : ∀ next, reading.round? digit = some next → next.settled = true := by
    intro next rounded
    simp only [round?] at rounded
    split_ifs at rounded
    all_goals
      obtain rfl := Option.some.inj rounded
      rfl
  cases rounded : reading.round? digit with
  | none => rfl
  | some next => exact run?_of_settled (settled next rounded) each

/-- Digits behind the point are taken up as long as they fit, and then rounded. -/
theorem takes_fraction
    (pointed : reading.point = true)
    (unsettled : reading.settled = false)
    (bounded : reading.coefficient < coefficientBound)
    (scaled : reading.scale ≤ maxScale)
    (begun : reading.started = true ∨ digits ≠ [] ∧ reading.coefficient = 0 ∧ reading.scale = 0)
    (each : ∀ digit ∈ digits, digit.isDigit = true)
    (same : magnitude * 10 ^ reading.scale = reading.coefficient + fractionValue digits) :
    Takes magnitude (reading.run? digits) := by
  -- what has been read and what is left make up the number, and it stays the same along the run
  induction digits generalizing reading with
  | nil =>
      have started : reading.started = true := by simpa using begun
      exact .rounded (.of_exact bounded scaled (by simpa using same)) started
  | cons digit rest inductionHypothesis =>
      have ascii := each digit List.mem_cons_self
      have later : ∀ other ∈ rest, other.isDigit = true :=
        fun other member => each other (List.mem_cons_of_mem _ member)
      rw [fractionValue_cons] at same
      rw [run?, step?_of_isDigit ascii, digit?]
      simp only [unsettled, pointed, Bool.false_eq_true, if_false, if_true]
      split_ifs with fits
      · refine inductionHypothesis ?_ ?_ ?_ ?_ ?_ later ?_
        · rfl
        · rfl
        · exact fits.2
        · exact fits.1
        · exact .inl rfl
        · push_cast
          rw [pow_succ, ← mul_assoc, same]
          ring
      · rw [bind_round? later]
        have small := digitValue_le_nine ascii
        have started : reading.started = true := by
          rcases begun with started | ⟨_, empty, whole⟩
          · exact started
          · refine absurd ⟨?_, ?_⟩ fits
            · rw [whole]
              decide
            · rw [empty, coefficientBound_eq]
              omega
        exact takes_round? started bounded scaled small (fractionValue_nonneg rest)
          (fractionValue_lt_one later) (by omega) same

/-- Digits before the point are all taken up, or else they are refused. -/
theorem run?_whole
    {coefficient : Nat}
    (bounded : coefficient < coefficientBound)
    (started : Bool)
    (each : ∀ digit ∈ digits, digit.isDigit = true) :
    run? ⟨coefficient, 0, false, started, false⟩ digits =
      if coefficient * 10 ^ digits.length + digitsValue digits < coefficientBound then
        some ⟨coefficient * 10 ^ digits.length + digitsValue digits, 0, false,
          started || ! digits.isEmpty, false⟩
      else none := by
  induction digits generalizing coefficient started with
  | nil => simp [run?, digitsValue, bounded]
  | cons digit rest inductionHypothesis =>
      have later : ∀ other ∈ rest, other.isDigit = true :=
        fun other member => each other (List.mem_cons_of_mem _ member)
      have total : coefficient * 10 ^ (digit :: rest).length + digitsValue (digit :: rest) =
          (coefficient * 10 + digitValue digit) * 10 ^ rest.length + digitsValue rest := by
        rw [digitsValue_cons, List.length_cons]
        ring
      rw [total, run?, step?_of_isDigit (each digit List.mem_cons_self), digit?]
      simp only [Bool.false_eq_true, if_false]
      by_cases fits : coefficient * 10 + digitValue digit < coefficientBound
      · rw [if_pos fits, Option.bind_some, inductionHypothesis fits true later]
        simp
      · have grows := Nat.le_mul_of_pos_right (coefficient * 10 + digitValue digit)
          (Nat.pow_pos (n := rest.length) (by decide : 0 < 10))
        rw [if_neg fits, if_neg (by omega)]
        rfl

/-- A number without a sign and an exponent is refused or rounded. -/
theorem takes_mantissa {spelling : Spelling} (spelled : spelling.IsOver Char.isDigit) :
    Takes spelling.base (start.run? spelling.mantissa) := by
  have filled := spelled.filled
  have wholeDigits : ∀ digit ∈ spelling.whole, digit.isDigit = true :=
    fun digit member => spelled.digits digit (List.mem_append_left _ member)
  unfold Spelling.digits at filled
  rw [Spelling.mantissa, run?_append, start, run?_whole (by decide) false wholeDigits]
  simp only [Nat.zero_mul, Nat.zero_add, Bool.false_or]
  split_ifs with fits
  · rw [Option.bind_some]
    cases present : spelling.fraction with
    | none =>
        have base : spelling.base * 10 ^ 0 = digitsValue spelling.whole := by
          simp [Spelling.base, present]
        have started : (! spelling.whole.isEmpty) = true := by simpa [present] using filled
        exact .rounded (.of_exact fits (Nat.zero_le _) base) started
    | some fraction =>
        have fractionDigits : ∀ digit ∈ fraction, digit.isDigit = true := fun digit member =>
          spelled.digits digit (List.mem_append_right _ (by simpa [present] using member))
        change Takes _ (run? ⟨digitsValue spelling.whole, 0, true, ! spelling.whole.isEmpty, false⟩
          fraction)
        refine takes_fraction rfl rfl fits (Nat.zero_le _) ?_ fractionDigits ?_
        · cases leading : spelling.whole with
          | cons first rest => exact .inl rfl
          | nil => exact .inr ⟨by simpa [leading, present] using filled, rfl, rfl⟩
        · simp [Spelling.base, present]
  · have beyond : (coefficientBound : ℚ) ≤ digitsValue spelling.whole := by
      exact_mod_cast Nat.not_lt.mp fits
    have rest := fractionValue_nonneg (spelling.fraction.getD [])
    refine .refused ?_
    rw [Overflows, Spelling.base]
    linarith

end Reading

/-- How the reading of a number with a sign may end. -/
inductive ReadsAs (negative : Bool) (magnitude : ℚ) : Option Decimal → Prop
  /-- The number is refused. -/
  | refused (overflows : Overflows magnitude) : ReadsAs negative magnitude none
  /-- The number is rounded. -/
  | rounded {coefficient scale : Nat} (rounds : Rounds magnitude coefficient scale) :
      ReadsAs negative magnitude (some ⟨negative, coefficient, scale⟩)

theorem ofPlain?_signed
    (sign : Sign)
    {characters : List Char}
    (unsigned : ∀ character ∈ characters.head?, isSign character = false) :
    ofPlain? (sign.chars ++ characters) =
      (Reading.start.run? characters).bind fun reading =>
        if reading.started then some ⟨decide (sign = .minus), reading.coefficient, reading.scale⟩
        else none := by
  cases sign with
  | plus => rfl
  | minus => rfl
  | absent =>
      simp only [Sign.chars, List.nil_append, ofPlain?]
      split
      · exact absurd (unsigned '-' rfl) (by decide)
      · exact absurd (unsigned '+' rfl) (by decide)
      · rfl

/-- A number without an exponent is refused if it overflows, and rounded otherwise. -/
theorem readsAs_ofPlain? {spelling : Spelling} (spelled : spelling.IsOver Char.isDigit) :
    ReadsAs (decide (spelling.sign = .minus)) spelling.base
      (ofPlain? (spelling.sign.chars ++ spelling.mantissa)) := by
  have unsigned : ∀ character ∈ spelling.mantissa.head?, isSign character = false := by
    intro character head
    rw [← List.append_nil spelling.mantissa] at head
    exact spelled.decimal.isSign_of_mem_head? head
  rw [ofPlain?_signed _ unsigned]
  have taken := Reading.takes_mantissa spelled
  generalize Reading.start.run? spelling.mantissa = ran at taken ⊢
  cases taken with
  | refused overflows => exact .refused overflows
  | rounded rounds started =>
      rw [Option.bind_some, if_pos started]
      exact .rounded rounds

end Decimal
end RuleClause
