import RuleClause.Proofs.Lexical.Numeral
import RuleClause.Sql.Render
import Mathlib.Data.List.TakeDrop

/-!
# Texts that stand for numbers

A text for a field that holds numbers is written without quotes if it reads as a number, and with
quotes otherwise.  What is written without quotes is a number token, over the ten digits of ASCII,
exactly if the digits of the text are: a text that reads as a number may hold digits of any script,
no decimal is read from those of another script, and so they are copied.
-/

namespace RuleClause

namespace Text

/-- A number over the digits of ASCII, with no sign in front or a minus sign. -/
def IsNumberToken (text : String) : Prop :=
  ∃ spelling : Spelling, spelling.IsOver Char.isDigit ∧ spelling.sign ≠ .plus ∧
    text.toList = spelling.chars

end Text

/-! ## Decimals are read from the digits of ASCII -/

namespace Decimal

open Text

variable {characters : List Char} {decimal : Decimal}

theorem Reading.hasAsciiDigits_of_run?
    {reading last : Reading}
    (read : reading.run? characters = some last) :
    HasAsciiDigits characters := by
  induction characters generalizing reading with
  | nil => exact hasAsciiDigits_nil
  | cons character rest inductionHypothesis =>
      obtain ⟨next, step, later⟩ := Option.bind_eq_some_iff.mp read
      have ascii := inductionHypothesis later
      unfold step? at step
      split_ifs at step with digit point underscore
      · exact hasAsciiDigits_cons.mpr ⟨fun _ => digit, ascii⟩
      · rw [point.1]
        exact ascii.cons_other (by decide +kernel)
      · rw [underscore.1]
        exact ascii.cons_other (by decide +kernel)

theorem hasAsciiDigits_of_ofPlain? (read : ofPlain? characters = some decimal) :
    HasAsciiDigits characters := by
  unfold ofPlain? at read
  obtain ⟨reading, ran, _⟩ := Option.bind_eq_some_iff.mp read
  have ascii := Reading.hasAsciiDigits_of_run? ran
  split at ascii
  · exact ascii.cons_other (by decide +kernel)
  · exact ascii.cons_other (by decide +kernel)
  · exact ascii

theorem hasAsciiDigits_of_exponentPlaces?
    {places : Nat}
    (read : exponentPlaces? characters = some places) :
    HasAsciiDigits characters := by
  unfold exponentPlaces? at read
  dsimp only at read
  split_ifs at read with refused
  simp only [not_or, Bool.not_eq_true', Bool.not_eq_false, List.all_eq_true] at refused
  have ascii := hasAsciiDigits_of_isDigit refused.2
  split at ascii
  · exact ascii.cons_other (by decide +kernel)
  · exact ascii

theorem hasAsciiDigits_of_ofScientific? (read : ofScientific? characters = some decimal) :
    HasAsciiDigits characters := by
  unfold ofScientific? at read
  rw [List.span_eq_takeWhile_dropWhile] at read
  split at read
  · simp at read
  · rename_i base mark exponent parts
    obtain ⟨before, behind⟩ := Prod.mk.inj parts
    obtain ⟨mantissa, baseRead, scaled⟩ := Option.bind_eq_some_iff.mp read
    have marked : isExponentMark mark = true := by
      have head := List.head?_dropWhile_not (fun character => ! isExponentMark character) characters
      simpa [behind] using head
    have other : isDecimalDigit mark = false := by
      by_contra digit
      exact not_mem_numberMarks_of_isDecimalDigit (by simpa using digit)
        (mem_numberMarks_of_isExponentMark marked)
    have power : HasAsciiDigits exponent := by
      split at scaled
      · obtain ⟨places, placesRead, _⟩ := Option.bind_eq_some_iff.mp scaled
        exact (hasAsciiDigits_of_exponentPlaces? placesRead).cons_other (by decide +kernel)
      · obtain ⟨places, placesRead, _⟩ := Option.bind_eq_some_iff.mp scaled
        exact hasAsciiDigits_of_exponentPlaces? placesRead
    rw [← List.takeWhile_append_dropWhile (p := fun character => ! isExponentMark character)
      (l := characters), before, behind]
    exact hasAsciiDigits_append.mpr ⟨hasAsciiDigits_of_ofPlain? baseRead, power.cons_other other⟩

/-- A decimal is read from characters without digits of other scripts. -/
theorem hasAsciiDigits_of_ofChars? (read : ofChars? characters = some decimal) :
    HasAsciiDigits characters := by
  rcases Option.or_eq_some_iff.mp read with plain | ⟨_, scientific⟩
  · exact hasAsciiDigits_of_ofPlain? plain
  · exact hasAsciiDigits_of_ofScientific? scientific

theorem sign_spelling_ne (decimal : Decimal) : decimal.spelling.sign ≠ .plus := by
  cases negative : decimal.negative <;> simp [spelling, negative]

end Decimal

namespace Text

/-- The canonical form of a numeral is a number token exactly if its digits are those of ASCII. -/
theorem isNumberToken_canonicalNumeral_iff {text : String} (numeral : isNumeral text = true) :
    IsNumberToken (canonicalNumeral text) ↔ HasAsciiDigits text.toList := by
  obtain ⟨spelling, spelled, written⟩ := exists_spelling numeral
  have bare := spelled.bareNumeral_eq written
  rw [written.hasAsciiDigits_iff, ← bare]
  cases read : Decimal.ofChars? (bareNumeral text.toList) with
  | some decimal =>
      refine iff_of_true ⟨decimal.normalize.spelling, decimal.normalize.isOver_spelling,
        decimal.normalize.sign_spelling_ne, ?_⟩ (Decimal.hasAsciiDigits_of_ofChars? read)
      rw [canonicalNumeral_of_ofChars? read, decimal.normalize.chars_spelling,
        String.toList_ofList]
  | none =>
      rw [canonicalNumeral_of_refused read]
      constructor
      · rintro ⟨token, spelledToken, _, same⟩
        rw [← String.toList_ofList (l := bareNumeral text.toList), same]
        exact spelledToken.hasAsciiDigits
      · intro ascii
        rw [bare] at ascii ⊢
        exact ⟨spelling.withoutPlus, spelled.withoutPlus.of_mem ascii,
          spelling.sign_withoutPlus_ne, String.toList_ofList⟩

end Text

/-! ## What a text is written as -/

namespace Sql

open Text

/-- The canonical form of a numeral holds no quote, so that it is not a text in quotes. -/
theorem canonicalNumeral_ne_quote
    {text : String}
    (numeral : isNumeral text = true)
    (dialect : Dialect)
    (other : String) :
    canonicalNumeral text ≠ dialect.quote other := by
  intro same
  have inert := inert_canonicalNumeral (inert_of_isNumeral numeral)
  rw [same] at inert
  exact inert.plain '\'' (by simp [Dialect.quote]) (by simp)

/--
A text is written in quotes or as a number token, in every dialect and for every field, exactly if
it is not one that reads as a number with digits of another script and stands for a number.
-/
theorem text_quoted_or_token_iff (dialect : Dialect) (type : Option FieldType) (text : String) :
    ((ofText type text).render dialect = dialect.quote text ∨
        IsNumberToken ((ofText type text).render dialect)) ↔
      (type.any FieldType.isNumeric = true → isNumeral text = true →
        HasAsciiDigits text.toList) := by
  unfold ofText
  by_cases number : (type.any FieldType.isNumeric && isNumeral text) = true
  · rw [if_pos number]
    obtain ⟨numeric, numeral⟩ := (Bool.and_eq_true _ _).mp number
    simp only [numeric, numeral, forall_const]
    rw [← isNumberToken_canonicalNumeral_iff numeral]
    exact or_iff_right (canonicalNumeral_ne_quote numeral dialect text)
  · rw [if_neg number]
    refine iff_of_true (.inl rfl) fun numeric numeral => ?_
    simp [numeric, numeral] at number

/-- A digit of another script is copied without quotes. -/
theorem text_of_foreign_digit_unquoted :
    (ofText (some .integer) "٣").render .postgreSQL = "٣" ∧
      ¬((ofText (some .integer) "٣").render .postgreSQL = Dialect.postgreSQL.quote "٣" ∨
        IsNumberToken ((ofText (some .integer) "٣").render .postgreSQL)) := by
  have copied : (ofText (some .integer) "٣").render .postgreSQL = "٣" := by decide +kernel
  refine ⟨copied, ?_⟩
  rw [copied]
  rintro (quoted | ⟨spelling, spelled, _, same⟩)
  · exact absurd quoted (by decide +kernel)
  · have ascii := spelled.hasAsciiDigits
    rw [← same] at ascii
    exact absurd (ascii '٣' (by decide) (by decide +kernel)) (by decide)

end Sql
end RuleClause
