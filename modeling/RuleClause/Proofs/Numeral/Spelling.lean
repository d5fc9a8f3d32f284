import RuleClause.Text.Numeral
import Mathlib.Data.List.Basic
import Mathlib.Data.List.TakeWhile
import Mathlib.Tactic.MkIffOfInductiveProp

/-!
# How a number is spelled

A text that reads as a number is a spelling between blanks.  A spelling is a sign, digits with at
most one point among them, and an exponent; the characters determine the parts.  The digits may be
those of any script, so that statements on spellings say which digits they are over.
-/

namespace RuleClause
namespace Text

/-- The sign in front of digits, if there is one. -/
inductive Sign where
  /-- No sign. -/
  | absent
  /-- A plus sign. -/
  | plus
  /-- A minus sign. -/
  | minus
deriving DecidableEq, Repr

/-- The characters of a sign. -/
def Sign.chars : Sign → List Char
  | .absent => []
  | .plus => ['+']
  | .minus => ['-']

/-- An exponent as it is written. -/
structure Exponent where
  /-- The mark in front. -/
  mark : Char
  /-- The sign behind the mark. -/
  sign : Sign
  /-- The digits. -/
  digits : List Char
deriving DecidableEq, Repr

/-- The characters of an exponent. -/
def Exponent.chars (exponent : Exponent) : List Char :=
  exponent.mark :: (exponent.sign.chars ++ exponent.digits)

/-- An exponent has a mark and digits of the given class. -/
@[mk_iff isOver_iff]
structure Exponent.IsOver (isDigit : Char → Bool) (exponent : Exponent) : Prop where
  /-- The mark is one of exponents. -/
  marked : Decimal.isExponentMark exponent.mark = true
  /-- There are digits. -/
  filled : exponent.digits ≠ []
  /-- Each of them is in the class. -/
  digits : ∀ digit ∈ exponent.digits, isDigit digit = true

instance (isDigit : Char → Bool) (exponent : Exponent) :
    Decidable (exponent.IsOver isDigit) :=
  decidable_of_iff
    (Decimal.isExponentMark exponent.mark = true ∧ exponent.digits ≠ [] ∧
      exponent.digits.all isDigit = true)
    (by rw [Exponent.isOver_iff, List.all_eq_true])

/-- A number as it is written. -/
structure Spelling where
  /-- The sign in front. -/
  sign : Sign
  /-- The digits before the point. -/
  whole : List Char
  /-- The digits after the point, if there is one. -/
  fraction : Option (List Char)
  /-- The exponent, if there is one. -/
  exponent : Option Exponent
deriving DecidableEq, Repr

namespace Spelling

/-- The digits of a fraction behind their point. -/
def pointed : Option (List Char) → List Char
  | none => []
  | some digits => '.' :: digits

/-- The digits on both sides of the point. -/
def digits (spelling : Spelling) : List Char :=
  spelling.whole ++ spelling.fraction.getD []

/-- The digits with the point among them. -/
def mantissa (spelling : Spelling) : List Char :=
  spelling.whole ++ pointed spelling.fraction

/-- The characters behind the mantissa. -/
def power (spelling : Spelling) : List Char :=
  spelling.exponent.elim [] Exponent.chars

/-- The characters of a number. -/
def chars (spelling : Spelling) : List Char :=
  spelling.sign.chars ++ (spelling.mantissa ++ spelling.power)

/-- A number has digits, and all its digits are of the given class. -/
@[mk_iff isOver_iff]
structure IsOver (isDigit : Char → Bool) (spelling : Spelling) : Prop where
  /-- There are digits around the point. -/
  filled : spelling.digits ≠ []
  /-- Each of them is in the class. -/
  digits : ∀ digit ∈ spelling.digits, isDigit digit = true
  /-- The exponent is over the class, too. -/
  exponent : ∀ exponent ∈ spelling.exponent, exponent.IsOver isDigit

instance (isDigit : Char → Bool) (spelling : Spelling) : Decidable (spelling.IsOver isDigit) :=
  decidable_of_iff
    (spelling.digits ≠ [] ∧ spelling.digits.all isDigit = true ∧
      ∀ exponent ∈ spelling.exponent, exponent.IsOver isDigit)
    (by rw [isOver_iff, List.all_eq_true])

/-- A text holds a number and nothing but blanks around it. -/
def IsWrittenIn (spelling : Spelling) (text : String) : Prop :=
  ∃ before after, text.toList = before ++ (spelling.chars ++ after) ∧
    (∀ character ∈ before, isBlank character = true) ∧
    ∀ character ∈ after, isBlank character = true

end Spelling

/-! ## Classes of characters -/

/-- The characters of a number that are not digits. -/
def numberMarks : List Char :=
  ['+', '-', '.', 'e', 'E']

/-- No digit is blank: the runs of the digits lie apart from the ranges of the blanks. -/
theorem isBlank_of_isDecimalDigit {character : Char} (digit : isDecimalDigit character = true) :
    isBlank character = false := by
  have apart : (decimalZeros.all fun start => blankRanges.all fun range =>
      decide (range.2 < start) || decide (start + 10 ≤ range.1)) = true := by
    decide +kernel
  obtain ⟨start, run, inside⟩ := List.any_eq_true.mp digit
  refine List.any_eq_false.mpr fun range member => ?_
  have separate := List.all_eq_true.mp (List.all_eq_true.mp apart start run) range member
  simp only [Bool.or_eq_true, Bool.and_eq_true, decide_eq_true_eq] at separate inside ⊢
  omega

theorem isDecimalDigit_of_isDigit {character : Char} (digit : character.isDigit = true) :
    isDecimalDigit character = true := by
  refine List.any_eq_true.mpr ⟨0x0030, List.mem_cons_self, ?_⟩
  simp only [Char.isDigit, Bool.and_eq_true, decide_eq_true_eq, ge_iff_le] at digit ⊢
  have lower : 48 ≤ character.toNat := digit.1
  have upper : character.toNat ≤ 57 := digit.2
  omega

theorem not_mem_numberMarks_of_isDecimalDigit
    {character : Char}
    (digit : isDecimalDigit character = true) :
    character ∉ numberMarks := by
  have apart : numberMarks.any isDecimalDigit = false := by decide +kernel
  exact fun mark => List.any_eq_false.mp apart character mark digit

theorem isBlank_of_mem_numberMarks {character : Char} (mark : character ∈ numberMarks) :
    isBlank character = false := by
  have apart : numberMarks.any isBlank = false := by decide +kernel
  simpa using List.any_eq_false.mp apart character mark

theorem mem_numberMarks_of_isExponentMark
    {character : Char}
    (mark : Decimal.isExponentMark character = true) :
    character ∈ numberMarks := by
  rcases (Bool.or_eq_true _ _).mp mark with lower | upper
  · obtain rfl := eq_of_beq lower
    simp [numberMarks]
  · obtain rfl := eq_of_beq upper
    simp [numberMarks]

namespace Spelling

variable {spelling : Spelling} {isDigit isOther : Char → Bool} {character : Char} {text : String}

/-- A character between the sign and the exponent is a digit or the point. -/
theorem IsOver.digit_or_point
    (spelled : spelling.IsOver isDigit)
    (member : character ∈ spelling.mantissa) :
    isDigit character = true ∨ character = '.' := by
  rcases List.mem_append.mp member with whole | fraction
  · exact .inl (spelled.digits character (List.mem_append_left _ whole))
  · cases present : spelling.fraction with
    | none => simp [present, pointed] at fraction
    | some digits =>
        rw [present, pointed] at fraction
        rcases List.mem_cons.mp fraction with point | digit
        · exact .inr point
        · refine .inl (spelled.digits character (List.mem_append_right _ ?_))
          simpa [present] using digit

theorem IsOver.mantissa_ne_nil (spelled : spelling.IsOver isDigit) : spelling.mantissa ≠ [] := by
  have filled := spelled.filled
  unfold Spelling.digits at filled
  cases present : spelling.fraction with
  | none => simpa [mantissa, pointed, present] using filled
  | some digits => simp [mantissa, pointed, present]

/-- A character of a number is a digit or one of the marks. -/
theorem IsOver.digit_or_mark
    (spelled : spelling.IsOver isDigit)
    (member : character ∈ spelling.chars) :
    isDigit character = true ∨ character ∈ numberMarks := by
  have signs : ∀ sign : Sign, character ∈ sign.chars → character ∈ numberMarks := by
    intro sign member
    cases sign <;> simp_all [Sign.chars, numberMarks]
  rcases List.mem_append.mp member with sign | rest
  · exact .inr (signs _ sign)
  rcases List.mem_append.mp rest with mantissa | scaled
  · refine (spelled.digit_or_point mantissa).imp_right ?_
    rintro rfl
    simp [numberMarks]
  · cases present : spelling.exponent with
    | none => simp [power, present] at scaled
    | some exponent =>
        have written := spelled.exponent exponent present
        simp only [power, present, Option.elim, Exponent.chars, List.mem_cons,
          List.mem_append] at scaled
        rcases scaled with rfl | sign | digit
        · exact .inr (mem_numberMarks_of_isExponentMark written.marked)
        · exact .inr (signs _ sign)
        · exact .inl (written.digits character digit)

theorem mem_chars_of_mem_digits (member : character ∈ spelling.digits) :
    character ∈ spelling.chars := by
  refine List.mem_append_right _ (List.mem_append_left _ ?_)
  rcases List.mem_append.mp member with whole | fraction
  · exact List.mem_append_left _ whole
  · refine List.mem_append_right _ ?_
    cases present : spelling.fraction with
    | none => simp [present] at fraction
    | some digits => exact List.mem_cons_of_mem _ (by simpa [present] using fraction)

/-- A number is over another class if its own digits are. -/
theorem IsOver.of_mem
    (spelled : spelling.IsOver isDigit)
    (each : ∀ digit ∈ spelling.chars, isDigit digit = true → isOther digit = true) :
    spelling.IsOver isOther where
  filled := spelled.filled
  digits digit member := each digit (mem_chars_of_mem_digits member) (spelled.digits digit member)
  exponent exponent present := by
    have written := spelled.exponent exponent present
    refine ⟨written.marked, written.filled, fun digit member => ?_⟩
    refine each digit ?_ (written.digits digit member)
    refine List.mem_append_right _ (List.mem_append_right _ ?_)
    rw [Spelling.power, present]
    exact List.mem_cons_of_mem _ (List.mem_append_right _ member)

/-- A number over the digits of ASCII is one over the digits of all scripts. -/
theorem IsOver.decimal (spelled : spelling.IsOver Char.isDigit) :
    spelling.IsOver isDecimalDigit :=
  spelled.of_mem fun _ _ => isDecimalDigit_of_isDigit

end Spelling

/-! ## The recogniser reads spellings -/

section

variable {characters rest : List Char}

theorem exists_sign (characters : List Char) :
    ∃ sign : Sign, characters = sign.chars ++ dropSign characters := by
  unfold dropSign
  split
  · exact ⟨.minus, rfl⟩
  · exact ⟨.plus, rfl⟩
  · exact ⟨.absent, rfl⟩

/-- What the recogniser takes for a mantissa. -/
theorem exists_of_afterMantissa? (read : afterMantissa? characters = some rest) :
    ∃ whole fraction, characters = whole ++ Spelling.pointed fraction ++ rest ∧
      whole ++ fraction.getD [] ≠ [] ∧
      ∀ digit ∈ whole ++ fraction.getD [], isDecimalDigit digit = true := by
  have split := List.takeWhile_append_dropWhile (p := isDecimalDigit) (l := characters)
  have digits : ∀ list : List Char, ∀ digit ∈ list.takeWhile isDecimalDigit,
      isDecimalDigit digit = true := fun list digit member => List.mem_takeWhile_imp member
  simp only [afterMantissa?] at read
  split at read
  · rename_i fraction point
    split at read
    · simp at read
    · rename_i filled
      obtain rfl : fraction.dropWhile isDecimalDigit = rest := by simpa using read
      have part := List.takeWhile_append_dropWhile (p := isDecimalDigit) (l := fraction)
      refine ⟨characters.takeWhile isDecimalDigit, some (fraction.takeWhile isDecimalDigit),
        ?_, ?_, ?_⟩
      · rw [List.append_assoc, Spelling.pointed, List.cons_append, part, ← point, split]
      · simpa [imp_iff_not_or] using filled
      · intro digit member
        rcases List.mem_append.mp member with whole | fraction
        · exact digits _ digit whole
        · exact digits _ digit fraction
  · split at read
    · simp at read
    · rename_i filled
      obtain rfl : characters.dropWhile isDecimalDigit = rest := by simpa using read
      refine ⟨characters.takeWhile isDecimalDigit, none, ?_, ?_, ?_⟩
      · rw [Spelling.pointed, List.append_nil, split]
      · simpa using filled
      · intro digit member
        exact digits _ digit (by simpa using member)

/-- What the recogniser takes for an exponent. -/
theorem exists_of_afterExponent? (read : afterExponent? characters = some rest) :
    ∃ exponent : Option Exponent, characters = exponent.elim [] Exponent.chars ++ rest ∧
      ∀ written ∈ exponent, written.IsOver isDecimalDigit := by
  unfold afterExponent? at read
  split at read
  · obtain rfl : [] = rest := by simpa using read
    exact ⟨none, rfl, by simp⟩
  · rename_i mark tail
    split at read
    · rename_i marked
      dsimp only at read
      split at read
      · simp at read
      · rename_i filled
        obtain rfl : (dropSign tail).dropWhile isDecimalDigit = rest := by simpa using read
        obtain ⟨sign, same⟩ := exists_sign tail
        have split := List.takeWhile_append_dropWhile (p := isDecimalDigit) (l := dropSign tail)
        refine ⟨some ⟨mark, sign, (dropSign tail).takeWhile isDecimalDigit⟩, ?_, ?_⟩
        · rw [Option.elim_some, Exponent.chars, List.cons_append, List.append_assoc, split, ← same]
        · intro written same
          obtain rfl := Option.some.inj same
          exact ⟨marked, by simpa using filled, fun digit member => List.mem_takeWhile_imp member⟩
    · obtain rfl : mark :: tail = rest := by simpa using read
      exact ⟨none, rfl, by simp⟩

/-- A text that reads as a number is a number between blanks. -/
theorem exists_spelling {text : String} (numeral : isNumeral text = true) :
    ∃ spelling : Spelling, spelling.IsOver isDecimalDigit ∧ spelling.IsWrittenIn text := by
  simp only [isNumeral, isNumeralChars] at numeral
  split at numeral
  · rename_i rest read
    obtain ⟨afterMantissa, mantissaRead, exponentRead⟩ := Option.bind_eq_some_iff.mp read
    obtain ⟨sign, signed⟩ := exists_sign (text.toList.dropWhile isBlank)
    obtain ⟨whole, fraction, unsigned, filled, digits⟩ := exists_of_afterMantissa? mantissaRead
    obtain ⟨exponent, scaled, powered⟩ := exists_of_afterExponent? exponentRead
    have number : text.toList.dropWhile isBlank =
        Spelling.chars ⟨sign, whole, fraction, exponent⟩ ++ rest := by
      rw [signed, unsigned, scaled]
      simp only [Spelling.chars, Spelling.mantissa, Spelling.power, List.append_assoc]
    refine ⟨⟨sign, whole, fraction, exponent⟩, ⟨filled, digits, powered⟩,
      text.toList.takeWhile isBlank, rest, ?_, ?_, ?_⟩
    · rw [← number, List.takeWhile_append_dropWhile]
    · exact fun character member => List.mem_takeWhile_imp member
    · exact List.all_eq_true.mp numeral
  · simp at numeral

end

/-! ## The characters determine the parts -/

/-- A run of a class of characters goes up to the first character that is not in the class. -/
theorem takeWhile_append_of_class
    {isMember : Char → Bool}
    {run rest : List Char}
    (each : ∀ character ∈ run, isMember character = true)
    (stops : ∀ character ∈ rest.head?, isMember character = false) :
    (run ++ rest).takeWhile isMember = run := by
  rw [List.takeWhile_append_of_pos each]
  cases rest with
  | nil => simp
  | cons character rest => simp [stops character rfl]

/-- Where a run of a class of characters ends, the class says. -/
theorem append_inj_of_class
    {isMember : Char → Bool}
    {first second afterFirst afterSecond : List Char}
    (each : ∀ character ∈ first, isMember character = true)
    (eachSecond : ∀ character ∈ second, isMember character = true)
    (stops : ∀ character ∈ afterFirst.head?, isMember character = false)
    (stopsSecond : ∀ character ∈ afterSecond.head?, isMember character = false)
    (same : first ++ afterFirst = second ++ afterSecond) :
    first = second ∧ afterFirst = afterSecond := by
  obtain rfl : first = second := by
    rw [← takeWhile_append_of_class each stops, same,
      takeWhile_append_of_class eachSecond stopsSecond]
  exact ⟨rfl, List.append_cancel_left same⟩

/-- A character that can stand as a sign. -/
def isSign (character : Char) : Bool :=
  character == '+' || character == '-'

theorem Sign.isSign_of_mem_chars
    {sign : Sign}
    {character : Char}
    (member : character ∈ sign.chars) :
    isSign character = true := by
  cases sign <;> simp_all [Sign.chars, isSign]

theorem Sign.chars_injective {first second : Sign} (same : first.chars = second.chars) :
    first = second := by
  cases first <;> cases second <;> simp_all [Sign.chars]

theorem isSign_of_isDecimalDigit {character : Char} (digit : isDecimalDigit character = true) :
    isSign character = false := by
  have other := not_mem_numberMarks_of_isDecimalDigit digit
  simp only [numberMarks, List.mem_cons, not_or] at other
  simp [isSign, other]

/-- A sign and what follows it determine each other if no second sign follows. -/
theorem Sign.chars_append_inj
    {first second : Sign}
    {afterFirst afterSecond : List Char}
    (stops : ∀ character ∈ afterFirst.head?, isSign character = false)
    (stopsSecond : ∀ character ∈ afterSecond.head?, isSign character = false)
    (same : first.chars ++ afterFirst = second.chars ++ afterSecond) :
    first = second ∧ afterFirst = afterSecond := by
  obtain ⟨signs, rest⟩ := append_inj_of_class (fun _ => isSign_of_mem_chars)
    (fun _ => isSign_of_mem_chars) stops stopsSecond same
  exact ⟨chars_injective signs, rest⟩

theorem Exponent.IsOver.eq_of_chars
    {first second : Exponent}
    (written : first.IsOver isDecimalDigit)
    (writtenSecond : second.IsOver isDecimalDigit)
    (same : first.chars = second.chars) :
    first = second := by
  obtain ⟨mark, sign, digits⟩ := first
  obtain ⟨markSecond, signSecond, digitsSecond⟩ := second
  obtain ⟨rfl, rest⟩ := List.cons.inj same
  obtain ⟨rfl, rfl⟩ := Sign.chars_append_inj
    (fun character head => isSign_of_isDecimalDigit (written.digits _ (List.mem_of_mem_head? head)))
    (fun character head =>
      isSign_of_isDecimalDigit (writtenSecond.digits _ (List.mem_of_mem_head? head))) rest
  rfl

namespace Spelling

variable {spelling other : Spelling} {text : String}

/-- Behind the mantissa stands a mark or nothing. -/
theorem IsOver.isExponentMark_of_mem_head?_power
    {isDigit : Char → Bool}
    {character : Char}
    (spelled : spelling.IsOver isDigit)
    (head : character ∈ spelling.power.head?) :
    Decimal.isExponentMark character = true := by
  cases present : spelling.exponent with
  | none => simp [power, present] at head
  | some exponent =>
      obtain rfl : exponent.mark = character := by simpa [power, present, Exponent.chars] using head
      exact (spelled.exponent exponent present).marked

theorem IsOver.isDecimalDigit_of_mem_head?_power
    {character : Char}
    (spelled : spelling.IsOver isDecimalDigit)
    (head : character ∈ spelling.power.head?) :
    isDecimalDigit character = false := by
  by_contra digit
  have marked := mem_numberMarks_of_isExponentMark (spelled.isExponentMark_of_mem_head?_power head)
  exact not_mem_numberMarks_of_isDecimalDigit (by simpa using digit) marked

/-- Behind the sign stands no second one. -/
theorem IsOver.isSign_of_mem_head?
    {character : Char}
    {rest : List Char}
    (spelled : spelling.IsOver isDecimalDigit)
    (head : character ∈ (spelling.mantissa ++ rest).head?) :
    isSign character = false := by
  rw [List.head?_append_of_ne_nil _ spelled.mantissa_ne_nil] at head
  rcases spelled.digit_or_point (List.mem_of_mem_head? head) with digit | rfl
  · exact isSign_of_isDecimalDigit digit
  · rfl

theorem IsOver.isDecimalDigit_of_mem_head?_pointed
    {character : Char}
    (spelled : spelling.IsOver isDecimalDigit)
    (head : character ∈ (pointed spelling.fraction ++ spelling.power).head?) :
    isDecimalDigit character = false := by
  cases present : spelling.fraction with
  | none =>
      rw [present] at head
      exact spelled.isDecimalDigit_of_mem_head?_power head
  | some fraction =>
      obtain rfl : '.' = character := by simpa [present, pointed] using head
      decide +kernel

theorem IsOver.power_ne_point
    {isDigit : Char → Bool}
    (spelled : spelling.IsOver isDigit)
    (rest : List Char) :
    spelling.power ≠ '.' :: rest := by
  intro same
  have head : '.' ∈ spelling.power.head? := by simp [same]
  exact absurd (spelled.isExponentMark_of_mem_head?_power head) (by decide)

theorem IsOver.exponent_eq_of_power
    (spelled : spelling.IsOver isDecimalDigit)
    (spelledOther : other.IsOver isDecimalDigit)
    (same : spelling.power = other.power) :
    spelling.exponent = other.exponent := by
  unfold power at same
  cases present : spelling.exponent with
  | none =>
      cases presentOther : other.exponent with
      | none => rfl
      | some exponent => simp [present, presentOther, Exponent.chars] at same
  | some exponent =>
      cases presentOther : other.exponent with
      | none => simp [present, presentOther, Exponent.chars] at same
      | some exponentOther =>
          rw [present, presentOther] at same
          rw [(spelled.exponent _ present).eq_of_chars (spelledOther.exponent _ presentOther) same]

theorem IsOver.fraction_eq_of_pointed
    (spelled : spelling.IsOver isDecimalDigit)
    (spelledOther : other.IsOver isDecimalDigit)
    (same : pointed spelling.fraction ++ spelling.power =
      pointed other.fraction ++ other.power) :
    spelling.fraction = other.fraction ∧ spelling.power = other.power := by
  have digits : ∀ {number : Spelling}, number.IsOver isDecimalDigit →
      ∀ {fraction : List Char}, number.fraction = some fraction →
      ∀ digit ∈ fraction, isDecimalDigit digit = true := by
    intro number written fraction present digit member
    exact written.digits digit (List.mem_append_right _ (by simpa [present] using member))
  cases present : spelling.fraction with
  | none =>
      cases presentOther : other.fraction with
      | none => exact ⟨rfl, by simpa [present, presentOther, pointed] using same⟩
      | some fraction =>
          rw [present, presentOther] at same
          exact absurd same (spelled.power_ne_point _)
  | some fraction =>
      cases presentOther : other.fraction with
      | none =>
          rw [present, presentOther] at same
          exact absurd same.symm (spelledOther.power_ne_point _)
      | some fractionOther =>
          rw [present, presentOther] at same
          obtain ⟨rfl, rest⟩ := append_inj_of_class (digits spelled present)
            (digits spelledOther presentOther)
            (fun _ => spelled.isDecimalDigit_of_mem_head?_power)
            (fun _ => spelledOther.isDecimalDigit_of_mem_head?_power) (List.cons.inj same).2
          exact ⟨rfl, rest⟩

/-- The characters of a number determine its parts. -/
theorem IsOver.eq_of_chars
    (spelled : spelling.IsOver isDecimalDigit)
    (spelledOther : other.IsOver isDecimalDigit)
    (same : spelling.chars = other.chars) :
    spelling = other := by
  obtain ⟨signs, unsigned⟩ := Sign.chars_append_inj (fun _ => spelled.isSign_of_mem_head?)
    (fun _ => spelledOther.isSign_of_mem_head?) same
  rw [mantissa, mantissa, List.append_assoc, List.append_assoc] at unsigned
  obtain ⟨wholes, pointed⟩ := append_inj_of_class
    (fun digit member => spelled.digits digit (List.mem_append_left _ member))
    (fun digit member => spelledOther.digits digit (List.mem_append_left _ member))
    (fun _ => spelled.isDecimalDigit_of_mem_head?_pointed)
    (fun _ => spelledOther.isDecimalDigit_of_mem_head?_pointed) unsigned
  obtain ⟨fractions, powers⟩ := spelled.fraction_eq_of_pointed spelledOther pointed
  have exponents := spelled.exponent_eq_of_power spelledOther powers
  cases spelling
  cases other
  simp_all

/-! ## Blanks and plus signs around a number -/

/-- No character of a number is blank. -/
theorem IsOver.isBlank_of_mem_chars
    {character : Char}
    (spelled : spelling.IsOver isDecimalDigit)
    (member : character ∈ spelling.chars) :
    isBlank character = false := by
  rcases spelled.digit_or_mark member with digit | mark
  · exact isBlank_of_isDecimalDigit digit
  · exact isBlank_of_mem_numberMarks mark

end Spelling

/-- Blanks around characters of which none is blank are dropped. -/
theorem trimBlanks_append
    {before inner after : List Char}
    (blankBefore : ∀ character ∈ before, isBlank character = true)
    (solid : ∀ character ∈ inner, isBlank character = false)
    (blankAfter : ∀ character ∈ after, isBlank character = true) :
    trimBlanks (before ++ (inner ++ after)) = inner := by
  have kept : ∀ {part rest : List Char}, (∀ character ∈ part, isBlank character = false) →
      part ≠ [] → (part ++ rest).dropWhile isBlank = part ++ rest := by
    intro part rest each filled
    cases part with
    | nil => exact absurd rfl filled
    | cons character part => simp [each character List.mem_cons_self]
  rw [trimBlanks, List.dropWhile_append_of_pos blankBefore]
  rcases inner.eq_nil_or_concat with rfl | ⟨_, _, filled⟩
  · have none : after.dropWhile isBlank = [] := List.dropWhile_eq_nil_iff.mpr blankAfter
    simp [none]
  · have present : inner ≠ [] := by simp [filled]
    have reversed : ∀ character ∈ inner.reverse, isBlank character = false := by simpa using solid
    have blankReversed : ∀ character ∈ after.reverse, isBlank character = true := by
      simpa using blankAfter
    have back : (inner.reverse ++ []).dropWhile isBlank = inner.reverse ++ [] :=
      kept reversed (by simpa using present)
    rw [List.append_nil] at back
    rw [kept solid present, List.reverse_append, List.dropWhile_append_of_pos blankReversed, back,
      List.reverse_reverse]

namespace Spelling

variable {spelling other : Spelling} {text : String}

theorem IsOver.trimBlanks_eq
    (spelled : spelling.IsOver isDecimalDigit)
    (written : spelling.IsWrittenIn text) :
    trimBlanks text.toList = spelling.chars := by
  obtain ⟨before, after, same, blankBefore, blankAfter⟩ := written
  rw [same, trimBlanks_append blankBefore (fun _ => spelled.isBlank_of_mem_chars) blankAfter]

/-- A text holds one number at most. -/
theorem IsOver.eq_of_isWrittenIn
    (spelled : spelling.IsOver isDecimalDigit)
    (spelledOther : other.IsOver isDecimalDigit)
    (written : spelling.IsWrittenIn text)
    (writtenOther : other.IsWrittenIn text) :
    spelling = other :=
  spelled.eq_of_chars spelledOther
    ((spelled.trimBlanks_eq written).symm.trans (spelledOther.trimBlanks_eq writtenOther))

/-- A number without a plus sign in front. -/
def withoutPlus (spelling : Spelling) : Spelling :=
  if spelling.sign = .plus then { spelling with sign := .absent } else spelling

theorem sign_withoutPlus_ne (spelling : Spelling) : spelling.withoutPlus.sign ≠ .plus := by
  unfold withoutPlus
  split <;> simp_all

theorem IsOver.withoutPlus
    {isDigit : Char → Bool}
    (spelled : spelling.IsOver isDigit) :
    spelling.withoutPlus.IsOver isDigit := by
  unfold Spelling.withoutPlus
  split
  · exact ⟨spelled.filled, spelled.digits, spelled.exponent⟩
  · exact spelled

/-- Without the blanks and the plus sign, the rest of a number is left. -/
theorem IsOver.bareNumeral_eq
    (spelled : spelling.IsOver isDecimalDigit)
    (written : spelling.IsWrittenIn text) :
    bareNumeral text.toList = spelling.withoutPlus.chars := by
  have unsigned : (spelling.mantissa ++ spelling.power).dropWhile (· == '+') =
      spelling.mantissa ++ spelling.power := by
    cases rest : spelling.mantissa ++ spelling.power with
    | nil => rfl
    | cons character tail =>
        have head : character ∈ (spelling.mantissa ++ spelling.power).head? := by simp [rest]
        have other := spelled.isSign_of_mem_head? head
        simp only [isSign, Bool.or_eq_false_iff] at other
        simp [other.1]
  rw [bareNumeral, spelled.trimBlanks_eq written, chars]
  unfold Spelling.withoutPlus
  cases signed : spelling.sign with
  | plus =>
      rw [if_pos rfl, Sign.chars, List.singleton_append,
        List.dropWhile_cons_of_pos (by decide), unsigned]
      rfl
  | minus =>
      rw [if_neg (by decide), chars, signed, Sign.chars, List.singleton_append,
        List.dropWhile_cons_of_neg (by decide)]
  | absent =>
      rw [if_neg (by decide), chars, signed, Sign.chars, List.nil_append, unsigned]

/-- A number without a plus sign and blanks around it stays as it is. -/
theorem IsOver.bareNumeral_ofList
    (spelled : spelling.IsOver isDecimalDigit)
    (unsigned : spelling.sign ≠ .plus) :
    bareNumeral (String.ofList spelling.chars).toList = spelling.chars := by
  have written : spelling.IsWrittenIn (String.ofList spelling.chars) :=
    ⟨[], [], by simp, by simp, by simp⟩
  rw [spelled.bareNumeral_eq written, Spelling.withoutPlus, if_neg unsigned]

end Spelling

/-! ## Digits of ASCII -/

/-- No digit among the characters belongs to a script of its own. -/
def HasAsciiDigits (characters : List Char) : Prop :=
  ∀ character ∈ characters, isDecimalDigit character = true → character.isDigit = true

instance (characters : List Char) : Decidable (HasAsciiDigits characters) :=
  decidable_of_iff
    (characters.all (fun character => ! isDecimalDigit character || character.isDigit) = true)
    (by simp [HasAsciiDigits, imp_iff_not_or])

section

variable {character : Char} {characters first second : List Char}

theorem hasAsciiDigits_nil : HasAsciiDigits [] := by
  simp [HasAsciiDigits]

theorem hasAsciiDigits_cons :
    HasAsciiDigits (character :: characters) ↔
      (isDecimalDigit character = true → character.isDigit = true) ∧
        HasAsciiDigits characters :=
  List.forall_mem_cons

theorem hasAsciiDigits_append :
    HasAsciiDigits (first ++ second) ↔ HasAsciiDigits first ∧ HasAsciiDigits second :=
  List.forall_mem_append

theorem HasAsciiDigits.cons_other
    (other : isDecimalDigit character = false)
    (rest : HasAsciiDigits characters) :
    HasAsciiDigits (character :: characters) :=
  hasAsciiDigits_cons.mpr ⟨fun digit => by simp [other] at digit, rest⟩

theorem hasAsciiDigits_of_isDigit (each : ∀ digit ∈ characters, digit.isDigit = true) :
    HasAsciiDigits characters :=
  fun digit member _ => each digit member

theorem hasAsciiDigits_of_isBlank (each : ∀ blank ∈ characters, isBlank blank = true) :
    HasAsciiDigits characters := by
  intro blank member digit
  have none := isBlank_of_isDecimalDigit digit
  simp [each blank member] at none

end

/-- A number over the digits of ASCII holds no others. -/
theorem Spelling.IsOver.hasAsciiDigits
    {spelling : Spelling}
    (spelled : spelling.IsOver Char.isDigit) :
    HasAsciiDigits spelling.chars := by
  intro character member digit
  rcases spelled.digit_or_mark member with ascii | mark
  · exact ascii
  · exact absurd mark (not_mem_numberMarks_of_isDecimalDigit digit)

/-- The digits of a text are those of the number in it. -/
theorem Spelling.IsWrittenIn.hasAsciiDigits_iff
    {spelling : Spelling}
    {text : String}
    (written : spelling.IsWrittenIn text) :
    HasAsciiDigits text.toList ↔ HasAsciiDigits spelling.withoutPlus.chars := by
  obtain ⟨before, after, same, blankBefore, blankAfter⟩ := written
  rw [same, hasAsciiDigits_append, hasAsciiDigits_append,
    and_iff_right (hasAsciiDigits_of_isBlank blankBefore),
    and_iff_left (hasAsciiDigits_of_isBlank blankAfter)]
  unfold Spelling.withoutPlus
  split
  · rename_i plus
    have unsigned : isDecimalDigit '+' = false := by decide +kernel
    simp only [Spelling.chars, plus, Sign.chars, List.singleton_append, List.nil_append,
      hasAsciiDigits_cons, unsigned, Bool.false_eq_true, false_implies, true_and]
    rfl
  · rfl

/-- A text that reads as a number with digits of ASCII is a number over them. -/
theorem exists_ascii_spelling
    {text : String}
    (numeral : isNumeral text = true)
    (ascii : HasAsciiDigits text.toList) :
    ∃ spelling : Spelling, spelling.IsOver Char.isDigit ∧ spelling.IsWrittenIn text := by
  obtain ⟨spelling, spelled, before, after, same, blanks⟩ := exists_spelling numeral
  refine ⟨spelling, spelled.of_mem fun digit member => ascii digit ?_, before, after, same, blanks⟩
  rw [same]
  exact List.mem_append_right _ (List.mem_append_left _ member)

theorem canonicalNumeral_of_ofChars?
    {text : String}
    {decimal : Decimal}
    (read : Decimal.ofChars? (bareNumeral text.toList) = some decimal) :
    canonicalNumeral text = String.ofList decimal.normalize.toChars := by
  simp only [canonicalNumeral, read]

theorem canonicalNumeral_of_refused
    {text : String}
    (refused : Decimal.ofChars? (bareNumeral text.toList) = none) :
    canonicalNumeral text = String.ofList (bareNumeral text.toList) := by
  simp only [canonicalNumeral, refused]

end Text

/-! ## The text of a decimal -/

namespace Decimal

open Text

/-- The parts of the text of a decimal. -/
def spelling (decimal : Decimal) : Spelling where
  sign := if decimal.negative then .minus else .absent
  whole := Nat.toDigits 10 (decimal.coefficient / Nat.pow 10 decimal.scale)
  fraction :=
    if decimal.scale = 0 then none
    else some (fractionDigits (decimal.coefficient % Nat.pow 10 decimal.scale) decimal.scale)
  exponent := none

theorem chars_spelling (decimal : Decimal) : decimal.spelling.chars = decimal.toChars := by
  obtain ⟨negative, coefficient, scale⟩ := decimal
  simp only [Spelling.chars, Spelling.mantissa, Spelling.power, spelling, toChars, Option.elim,
    List.append_nil, List.append_assoc]
  cases negative <;> by_cases none : scale = 0 <;> simp [none, Sign.chars, Spelling.pointed]

theorem isDigit_of_mem_fractionDigits
    {fraction scale : Nat}
    {digit : Char}
    (member : digit ∈ fractionDigits fraction scale) :
    digit.isDigit = true := by
  simp only [fractionDigits, List.mem_append, List.mem_replicate] at member
  rcases member with ⟨_, rfl⟩ | digit
  · rfl
  · exact Nat.isDigit_of_mem_toDigits (by decide) (by decide) digit

theorem isOver_spelling (decimal : Decimal) : decimal.spelling.IsOver Char.isDigit where
  filled := by simp [Spelling.digits, spelling, Nat.toDigits_ne_nil]
  digits digit member := by
    rcases List.mem_append.mp member with whole | fraction
    · exact Nat.isDigit_of_mem_toDigits (by decide) (by decide) whole
    · simp only [spelling] at fraction
      split at fraction
      · simp at fraction
      · exact isDigit_of_mem_fractionDigits fraction
  exponent := by simp [spelling]

end Decimal
end RuleClause
