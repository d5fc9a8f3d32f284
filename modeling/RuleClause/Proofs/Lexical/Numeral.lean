import RuleClause.Plan.Arithmetic
import RuleClause.Proofs.Lexical.Fragment
import RuleClause.Proofs.Numeral.Spelling

/-!
# Written numbers are inert

Whatever is written as a number holds digits, blanks, points, exponent marks and
signs, and never two minus signs in a row.  This covers integers, floating-point
numbers, decimals, and texts that read as numbers and cannot be brought into
canonical form.
-/

namespace RuleClause

open Lexeme

/-- A character means nothing special wherever it stands outside of a literal. -/
def IsCalm (character : Char) : Prop :=
  character ∉ ['\'', '(', ')', '[', ']', '-', '/', '*']

instance (character : Char) : Decidable (IsCalm character) :=
  inferInstanceAs (Decidable (_ ∉ _))

/-- A class of characters is calm when it holds none of the special ones. -/
theorem isCalm_of_class
    {isMember : Char → Bool}
    (apart : ['\'', '(', ')', '[', ']', '-', '/', '*'].any isMember = false)
    {character : Char}
    (member : isMember character = true) :
    IsCalm character := by
  intro special
  exact List.any_eq_false.mp apart character special member

theorem isCalm_of_isDigit {character : Char} (digit : character.isDigit = true) :
    IsCalm character :=
  isCalm_of_class (by decide) digit

theorem isCalm_of_isDecimalDigit
    {character : Char}
    (digit : Text.isDecimalDigit character = true) :
    IsCalm character :=
  isCalm_of_class (by decide) digit

theorem isCalm_of_isBlank {character : Char} (blank : Text.isBlank character = true) :
    IsCalm character :=
  isCalm_of_class (by decide) blank

theorem isCalm_of_isExponentMark
    {character : Char}
    (mark : Decimal.isExponentMark character = true) :
    IsCalm character :=
  isCalm_of_class (by decide) mark

namespace Inert

theorem append
    {first second : List Char}
    (inertFirst : Inert first)
    (inertSecond : Inert second)
    (apart : ∀ last ∈ first.getLast?, ∀ next ∈ second.head?,
      opensComment (.symbol last) (.symbol next) = false) :
    Inert (first ++ second) where
  plain := by
    intro character member
    rcases List.mem_append.mp member with early | late
    · exact inertFirst.plain character early
    · exact inertSecond.plain character late
  uncommented := by
    rw [List.map_append]
    refine inertFirst.uncommented.append inertSecond.uncommented ?_
    intro left ending right starting
    rw [List.getLast?_map, Option.mem_def, Option.map_eq_some_iff] at ending
    rw [List.head?_map, Option.mem_def, Option.map_eq_some_iff] at starting
    obtain ⟨last, found, rfl⟩ := ending
    obtain ⟨next, follows, rfl⟩ := starting
    exact apart last found next follows

/-- Calm characters may stand in front of an inert text. -/
theorem calm_append
    {calm text : List Char}
    (each : ∀ character ∈ calm, IsCalm character)
    (inert : Inert text) :
    Inert (calm ++ text) := by
  induction calm with
  | nil => exact inert
  | cons character calm inductionHypothesis =>
      have first : IsCalm character := each character List.mem_cons_self
      have others := inductionHypothesis fun other member =>
        each other (List.mem_cons_of_mem _ member)
      have single : Inert [character] := by
        refine ⟨?_, List.isChain_singleton _⟩
        intro other member
        obtain rfl := List.mem_singleton.mp member
        intro special
        exact first (by revert special; simp; tauto)
      refine single.append others ?_
      intro last ending next _
      obtain rfl : character = last := by simpa using ending
      refine opensComment_symbol_left _ ⟨?_, ?_⟩
      · rintro rfl
        exact first (by decide)
      · rintro rfl
        exact first (by decide)

theorem nil : Inert [] :=
  ⟨by simp, .nil⟩

theorem of_calm
    {text : List Char}
    (each : ∀ character ∈ text, IsCalm character) :
    Inert text := by
  simpa using calm_append each nil

/-- A part of an inert text is inert. -/
theorem of_infix
    {text part : List Char}
    (inert : Inert text)
    (inside : part <:+: text) :
    Inert part where
  plain character member := inert.plain character (inside.subset member)
  uncommented := inert.uncommented.infix (inside.map _)

end Inert

/-- A text of which the first characters are calm does not start with a minus sign. -/
theorem head?_calm_append_ne
    {calm : List Char}
    (each : ∀ character ∈ calm, IsCalm character)
    (filled : calm ≠ [])
    (text : List Char) :
    (calm ++ text).head? ≠ some '-' := by
  cases calm with
  | nil => exact absurd rfl filled
  | cons character calm =>
      have first := each character List.mem_cons_self
      intro starts
      obtain rfl : character = '-' := by simpa using starts
      exact first (by decide)

theorem head?_calm_ne
    {calm : List Char}
    (each : ∀ character ∈ calm, IsCalm character) :
    calm.head? ≠ some '-' := by
  intro starts
  exact each '-' (List.mem_of_mem_head? starts) (by decide)

/-! ## Digits -/

theorem isCalm_of_mem_toDigits
    {number : Nat}
    {character : Char}
    (member : character ∈ Nat.toDigits 10 number) :
    IsCalm character :=
  isCalm_of_isDigit (Nat.isDigit_of_mem_toDigits (by decide) (by decide) member)

theorem inert_repr (number : Nat) : Inert (Nat.repr number).toList := by
  refine .of_calm fun character member => ?_
  exact isCalm_of_mem_toDigits (by simpa [Nat.repr] using member)

/-- Digits with a minus sign or without are inert. -/
theorem inert_signed
    {text : List Char}
    (each : ∀ character ∈ text, IsCalm character)
    (negative : Bool) :
    Inert ((if negative then ['-'] else []) ++ text) := by
  cases negative with
  | false => exact .of_calm each
  | true => exact Inert.minus (.of_calm each) (head?_calm_ne each)

theorem inert_integer (value : Int) :
    ∃ text, Sql.integer value = .number text ∧ Inert text.toList := by
  cases value with
  | ofNat value => exact ⟨_, rfl, inert_repr value⟩
  | negSucc value =>
      refine ⟨_, rfl, ?_⟩
      have digits : ∀ character ∈ Nat.toDigits 10 (value + 1), IsCalm character :=
        fun _ member => isCalm_of_mem_toDigits member
      simpa [Nat.repr] using inert_signed digits true

/-! ## Texts that read as numbers -/

/-- A sign may stand in front of an inert text that does not start with a minus sign. -/
theorem inert_sign_append
    {text : List Char}
    (inert : Inert text)
    (unsigned : text.head? ≠ some '-')
    (sign : Text.Sign) :
    Inert (sign.chars ++ text) := by
  cases sign with
  | absent => exact inert
  | plus =>
      have plus : ∀ character ∈ ['+'], IsCalm character :=
        List.forall_mem_singleton.mpr (by decide)
      exact .calm_append plus inert
  | minus => exact inert.minus unsigned

/-- A number is inert together with the calm characters that follow it. -/
theorem inert_spelling_append
    {spelling : Text.Spelling}
    (spelled : spelling.IsOver Text.isDecimalDigit)
    {after : List Char}
    (calm : ∀ character ∈ after, IsCalm character) :
    Inert (spelling.chars ++ after) := by
  have mantissa : ∀ character ∈ spelling.mantissa, IsCalm character := by
    intro character member
    rcases spelled.digit_or_point member with digit | rfl
    · exact isCalm_of_isDecimalDigit digit
    · decide
  have power : Inert (spelling.power ++ after) := by
    cases present : spelling.exponent with
    | none => simpa [Text.Spelling.power, present] using Inert.of_calm calm
    | some exponent =>
        have written := spelled.exponent exponent present
        have first : ∀ character ∈ [exponent.mark], IsCalm character :=
          List.forall_mem_singleton.mpr (isCalm_of_isExponentMark written.marked)
        have digits : ∀ character ∈ exponent.digits ++ after, IsCalm character := by
          intro character member
          rcases List.mem_append.mp member with digit | later
          · exact isCalm_of_isDecimalDigit (written.digits character digit)
          · exact calm character later
        have signed := inert_sign_append (.of_calm digits) (head?_calm_ne digits) exponent.sign
        simpa [Text.Spelling.power, present, Text.Exponent.chars] using
          Inert.calm_append first signed
  rw [Text.Spelling.chars, List.append_assoc, List.append_assoc]
  exact inert_sign_append (.calm_append mantissa power)
    (head?_calm_append_ne mantissa spelled.mantissa_ne_nil _) spelling.sign

/-- A text that reads as a number is inert. -/
theorem inert_of_isNumeral
    {text : String}
    (numeral : Text.isNumeral text = true) :
    Inert text.toList := by
  obtain ⟨spelling, spelled, before, after, same, blankBefore, blankAfter⟩ :=
    Text.exists_spelling numeral
  rw [same]
  exact .calm_append (fun character member => isCalm_of_isBlank (blankBefore character member))
    (inert_spelling_append spelled fun character member =>
      isCalm_of_isBlank (blankAfter character member))

/-! ## Decimals -/

theorem inert_toChars (decimal : Decimal) : Inert decimal.toChars := by
  have alone := inert_spelling_append decimal.isOver_spelling.decimal (List.forall_mem_nil IsCalm)
  rwa [List.append_nil, decimal.chars_spelling] at alone

theorem trimBlanks_isInfix (characters : List Char) :
    Text.trimBlanks characters <:+: characters := by
  have front := (List.dropWhile_suffix Text.isBlank (l := characters)).isInfix
  have back := (List.dropWhile_suffix Text.isBlank
    (l := (characters.dropWhile Text.isBlank).reverse)).isInfix
  have both := List.reverse_infix.mpr back
  rw [List.reverse_reverse] at both
  exact both.trans front

/-- The canonical form of an inert text is inert, whether it is a decimal or not. -/
theorem inert_canonicalNumeral
    {text : String}
    (inert : Inert text.toList) :
    Inert (Text.canonicalNumeral text).toList := by
  simp only [Text.canonicalNumeral]
  split
  · simpa using inert_toChars _
  · have plus := (List.dropWhile_suffix (· == '+') (l := Text.trimBlanks text.toList)).isInfix
    simpa [Text.bareNumeral] using inert.of_infix (plus.trans (trimBlanks_isInfix text.toList))

/-! ## Numbers of a rule -/

theorem isCalm_of_mem_significantDigits
    {coefficient : Nat}
    {character : Char}
    (member : character ∈ Number.significantDigits coefficient) :
    IsCalm character := by
  have inside := (List.dropWhile_suffix (· == '0')
    (l := (Nat.toDigits 10 coefficient).reverse)).subset
  rw [Number.significantDigits, List.mem_reverse] at member
  exact isCalm_of_mem_toDigits (by simpa using inside member)

theorem isCalm_of_mem_positional
    {digits : List Char}
    {leading : Int}
    (each : ∀ digit ∈ digits, IsCalm digit)
    {character : Char}
    (member : character ∈ Number.positional digits leading) :
    IsCalm character := by
  have zero : IsCalm '0' := by decide
  have point : IsCalm '.' := by decide
  unfold Number.positional at member
  split at member
  · simp only [List.cons_append, List.nil_append, List.mem_cons, List.mem_append, Number.zeros,
      List.mem_replicate] at member
    rcases member with rfl | rfl | ⟨_, rfl⟩ | digit
    · exact zero
    · exact point
    · exact zero
    · exact each character digit
  · simp only [List.mem_append, Number.zeros, List.mem_replicate, List.mem_singleton] at member
    rcases member with ((digit | ⟨_, rfl⟩) | rfl) | fraction
    · exact each character (List.mem_of_mem_take digit)
    · exact zero
    · exact point
    · split at fraction
      · obtain rfl := List.mem_singleton.mp fraction
        exact zero
      · exact each character (List.mem_of_mem_drop fraction)

/-- In scientific notation a minus sign can only stand in front of the exponent. -/
theorem inert_scientific
    {digits : List Char}
    {leading : Int}
    (each : ∀ digit ∈ digits, IsCalm digit) :
    Inert (Number.scientific digits leading) ∧
      (Number.scientific digits leading).head? ≠ some '-' := by
  have mantissa : ∀ character ∈ digits.take 1 ++
      (if (digits.drop 1).isEmpty then [] else '.' :: digits.drop 1) ++ ['e'],
      IsCalm character := by
    intro character member
    simp only [List.mem_append, List.mem_singleton] at member
    rcases member with (first | fraction) | rfl
    · exact each character (List.mem_of_mem_take first)
    · split at fraction
      · simp at fraction
      · rcases List.mem_cons.mp fraction with rfl | digit
        · decide
        · exact each character (List.mem_of_mem_drop digit)
    · decide
  have exponent : ∀ character ∈ Nat.toDigits 10 leading.natAbs, IsCalm character :=
    fun _ member => isCalm_of_mem_toDigits member
  have split : Number.scientific digits leading =
      (digits.take 1 ++ (if (digits.drop 1).isEmpty then [] else '.' :: digits.drop 1) ++ ['e']) ++
        ((if leading < 0 then '-' else '+') :: Nat.toDigits 10 leading.natAbs) := by
    simp [Number.scientific]
  rw [split]
  constructor
  · refine .calm_append mantissa ?_
    by_cases negative : leading < 0
    · simpa [negative] using inert_signed exponent true
    · simp only [negative, if_false]
      have plus : ∀ character ∈ ['+'], IsCalm character :=
        List.forall_mem_singleton.mpr (by decide)
      exact .calm_append plus (.of_calm exponent)
  · exact head?_calm_append_ne mantissa (by simp) _

theorem inert_scaledText (decimal : Decimal.Scaled) :
    Inert (Number.scaledText decimal) ∧ (Number.scaledText decimal).head? ≠ some '-' := by
  have digits : ∀ digit ∈ Number.significantDigits decimal.coefficient, IsCalm digit :=
    fun _ member => isCalm_of_mem_significantDigits member
  simp only [Number.scaledText]
  split
  · exact ⟨.of_calm fun _ member => isCalm_of_mem_positional digits member,
      head?_calm_ne fun _ member => isCalm_of_mem_positional digits member⟩
  · exact inert_scientific digits

theorem inert_floatText (bits : Nat) : Inert (Number.floatText bits) := by
  have magnitude : ∀ text : List Char, Inert text ∧ text.head? ≠ some '-' →
      Inert (if bits < Number.signBit then text else '-' :: text) := by
    rintro text ⟨inert, unsigned⟩
    split
    · exact inert
    · exact inert.minus unsigned
  simp only [Number.floatText]
  apply magnitude
  split
  · decide
  · exact inert_scaledText _

theorem inert_integerText (value : Int) : Inert (Number.integerText value) := by
  have digits : ∀ digit ∈ Nat.toDigits 10 value.natAbs, IsCalm digit :=
    fun _ member => isCalm_of_mem_toDigits member
  have signed := inert_signed digits (decide (value < 0))
  simp only [Number.integerText]
  split
  · rename_i negative
    simpa [negative] using signed
  · exact .of_calm digits

/-- A number is written inert. -/
theorem inert_canonicalText (value : Number) : Inert value.canonicalText.toList := by
  cases value with
  | integer value => simpa [Number.canonicalText, Number.text] using inert_integerText value
  | float value =>
      exact inert_canonicalNumeral (by simpa [Number.text] using inert_floatText _)

/-- A number with the opposite sign is written inert. -/
theorem inert_negatedText
    {text : String}
    (inert : Inert text.toList) :
    Inert (Arithmetic.negatedText text).toList := by
  unfold Arithmetic.negatedText
  split
  · rename_i rest same
    rw [same] at inert
    simpa using inert.of_infix (List.suffix_cons '-' rest).isInfix
  · rename_i unsigned
    have different : text.toList.head? ≠ some '-' := by
      intro starts
      obtain ⟨rest, same⟩ := List.head?_eq_some_iff.mp starts
      exact unsigned rest same
    simpa using inert.minus different

end RuleClause
