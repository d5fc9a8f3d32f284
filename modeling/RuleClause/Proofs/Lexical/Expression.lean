import RuleClause.Proofs.Lexical.Template
import RuleClause.Sql.Render

/-!
# Sound expressions

An expression is sound in a dialect when its text there is.  Each form of
expression is sound when its parts are; literals are sound when they are allowed,
and names when they are inert.
-/

namespace RuleClause
namespace Sql

/-- The text of an expression is sound, with its literals among the allowed ones. -/
def IsSound (dialect : Dialect) (allowed : String → Prop) (expression : Sql) : Prop :=
  Sound dialect.forms.quote allowed (expression.render dialect)

namespace IsSound

variable {dialect : Dialect} {allowed : String → Prop}

theorem renderAll
    {expressions : List Sql}
    (sound : ∀ expression ∈ expressions, expression.IsSound dialect allowed) :
    ∀ text ∈ renderAll dialect expressions, Sound dialect.forms.quote allowed text := by
  intro text member
  rw [renderAll_eq_map] at member
  obtain ⟨expression, inside, rfl⟩ := List.mem_map.mp member
  exact sound expression inside

theorem null : IsSound dialect allowed .null :=
  .of_inert (show Inert "NULL".toList by decide)

theorem bool (value : Bool) : IsSound dialect allowed (.bool value) :=
  .of_inert (show Inert (truthText value).toList by cases value <;> decide)

theorem number {text : String} (inert : Inert text.toList) :
    IsSound dialect allowed (.number text) :=
  .of_inert inert

theorem ofNumber (value : Number) : IsSound dialect allowed (.ofNumber value) :=
  number (inert_canonicalText value)

theorem integer (value : Int) : IsSound dialect allowed (.integer value) := by
  obtain ⟨text, same, inert⟩ := inert_integer value
  rw [same]
  exact number inert

theorem string {value : String} (permitted : allowed value) :
    IsSound dialect allowed (.string value) :=
  Sound.quote permitted

theorem ofText
    {value : String}
    (type : Option FieldType)
    (permitted : allowed value) :
    IsSound dialect allowed (.ofText type value) := by
  unfold Sql.ofText
  split
  · rename_i numeral
    exact number (inert_canonicalNumeral (inert_of_isNumeral (Bool.and_eq_true_iff.mp numeral).2))
  · exact string permitted

theorem elementItem (index : UInt64) : IsSound dialect allowed (.elementItem index) :=
  Sound.arrayItem Sound.elementName index

theorem array
    {items : List Sql}
    (sound : ∀ item ∈ items, item.IsSound dialect allowed) :
    IsSound dialect allowed (.array items) :=
  Sound.arrayLiteral (renderAll sound)

theorem test
    {operand : Sql}
    (sound : operand.IsSound dialect allowed)
    (check : Test) :
    IsSound dialect allowed (.test operand check) := by
  cases check with
  | isNull | isNotNull | isTrue => exact sound.fill (by decide) (.of_inert (by decide))

theorem not
    {operand : Sql}
    (sound : operand.IsSound dialect allowed) :
    IsSound dialect allowed (.not operand) :=
  (Sound.parenthesized sound).negated

theorem minusGroup
    {operand : Sql}
    (sound : operand.IsSound dialect allowed) :
    IsSound dialect allowed (.minusGroup operand) := by
  have called : Sound dialect.forms.quote allowed (Dialect.call "-" [operand.render dialect]) :=
    Sound.call (by decide) (by simpa [IsSound] using sound)
  simpa [IsSound, render, Dialect.call, Dialect.commas] using called

theorem minus_of_inert
    {operand : Sql}
    (inert : Inert (operand.render dialect).toList)
    (unsigned : (operand.render dialect).toList.head? ≠ some '-') :
    IsSound dialect allowed (.minus operand) :=
  .of_inert (by simpa [render] using inert.minus unsigned)

theorem minus_call
    {arguments : List Sql}
    (function : Function)
    (sound : ∀ argument ∈ arguments, argument.IsSound dialect allowed) :
    IsSound dialect allowed (.minus (.call function arguments)) := by
  have called : Sound dialect.forms.quote allowed
      (Dialect.call ("-" ++ function.name) (Sql.renderAll dialect arguments)) :=
    Sound.call (by cases function <;> decide) (renderAll sound)
  simpa [render, IsSound, Dialect.call, String.append_assoc] using called

/-- The operators of SQL divide what stands on either side of them. -/
theorem divides_symbol (operator : BinaryOp) : Divides [] (" " ++ operator.symbol ++ " ") [] := by
  cases operator <;> decide

theorem binary
    {left right : Sql}
    (operator : BinaryOp)
    (soundLeft : left.IsSound dialect allowed)
    (soundRight : right.IsSound dialect allowed) :
    IsSound dialect allowed (.binary operator left right) :=
  Sound.between (divides_symbol operator) (by
    simpa using ⟨soundLeft, soundRight⟩)

theorem group
    {terms : List Sql}
    (operator : BinaryOp)
    (sound : ∀ term ∈ terms, term.IsSound dialect allowed) :
    IsSound dialect allowed (.group operator terms) :=
  (Sound.between (divides_symbol operator) (renderAll sound)).parenthesized

theorem joined
    {terms : List Sql}
    (operator : BinaryOp)
    (sound : ∀ term ∈ terms, term.IsSound dialect allowed) :
    IsSound dialect allowed (.joined operator terms) := by
  unfold Sql.joined
  split
  · exact sound _ List.mem_cons_self
  · exact group operator sound

theorem call
    {arguments : List Sql}
    (function : Function)
    (sound : ∀ argument ∈ arguments, argument.IsSound dialect allowed) :
    IsSound dialect allowed (.call function arguments) :=
  Sound.call (by cases function <;> decide) (renderAll sound)

theorem numericCast
    {operand : Sql}
    (sound : operand.IsSound dialect allowed) :
    IsSound dialect allowed (.numericCast operand) :=
  Sound.numericCast sound

theorem remainder
    {terms : List Sql}
    (sound : ∀ term ∈ terms, term.IsSound dialect allowed) :
    IsSound dialect allowed (.remainder terms) :=
  Sound.remainder (renderAll sound)

theorem textLength
    {operand : Sql}
    (sound : operand.IsSound dialect allowed) :
    IsSound dialect allowed (.textLength operand) :=
  Sound.textLength sound

theorem arrayLength
    {operand : Sql}
    (sound : operand.IsSound dialect allowed) :
    IsSound dialect allowed (.arrayLength operand) :=
  Sound.arrayLength sound

theorem substring
    {operand start : Sql}
    {length : Option Sql}
    (soundOperand : operand.IsSound dialect allowed)
    (soundStart : start.IsSound dialect allowed)
    (soundLength : ∀ size ∈ length, size.IsSound dialect allowed) :
    IsSound dialect allowed (.substring operand start length) := by
  cases length with
  | none => exact Sound.substring soundOperand soundStart (by simp)
  | some size =>
      refine Sound.substring soundOperand soundStart fun text same => ?_
      obtain rfl : size.render dialect = text := by simpa using same
      exact soundLength size rfl

theorem oneOf
    {value : Sql}
    {items : List Sql}
    (soundValue : value.IsSound dialect allowed)
    (soundItems : ∀ item ∈ items, item.IsSound dialect allowed) :
    IsSound dialect allowed (.oneOf value items) :=
  soundValue.fill (by decide) (Sound.commas (renderAll soundItems)).parenthesized

/-- Branches go on where a sound text has left off. -/
theorem append_renderBranches
    {text : String}
    {branches : List (Sql × Sql)}
    (soundText : Sound dialect.forms.quote allowed text)
    (soundBranches : ∀ branch ∈ branches,
      branch.1.IsSound dialect allowed ∧ branch.2.IsSound dialect allowed) :
    Sound dialect.forms.quote allowed (text ++ renderBranches dialect branches) := by
  induction branches generalizing text with
  | nil => simpa [renderBranches] using soundText
  | cons branch rest inductionHypothesis =>
      obtain ⟨condition, value⟩ := branch
      obtain ⟨soundCondition, soundValue⟩ := soundBranches _ List.mem_cons_self
      have tested : Sound dialect.forms.quote allowed
          (text ++ " WHEN " ++ condition.render dialect) :=
        soundText.fill (by decide) soundCondition
      have valued : Sound dialect.forms.quote allowed
          (text ++ " WHEN " ++ condition.render dialect ++ " THEN " ++ value.render dialect) :=
        tested.fill (by decide) soundValue
      have others := inductionHypothesis valued fun other member =>
        soundBranches other (List.mem_cons_of_mem _ member)
      simpa [renderBranches, String.append_assoc] using others

theorem cases
    {branches : List (Sql × Sql)}
    {otherwise : Sql}
    (soundBranches : ∀ branch ∈ branches,
      branch.1.IsSound dialect allowed ∧ branch.2.IsSound dialect allowed)
    (soundOtherwise : otherwise.IsSound dialect allowed) :
    IsSound dialect allowed (.cases branches otherwise) := by
  have keyword : Sound dialect.forms.quote allowed "CASE" := .of_inert (by decide)
  have chosen := append_renderBranches keyword soundBranches
  have filled : Sound dialect.forms.quote allowed
      ("CASE" ++ renderBranches dialect branches ++ " ELSE " ++ otherwise.render dialect) :=
    chosen.fill (by decide) soundOtherwise
  exact filled.trail (by decide)

theorem contains
    {haystack needle : Sql}
    (soundHaystack : haystack.IsSound dialect allowed)
    (soundNeedle : needle.IsSound dialect allowed) :
    IsSound dialect allowed (.contains haystack needle) :=
  Sound.contains soundHaystack soundNeedle

theorem arrayContains
    {source value : Sql}
    (soundSource : source.IsSound dialect allowed)
    (soundValue : value.IsSound dialect allowed) :
    IsSound dialect allowed (.arrayContains source value) :=
  Sound.arrayContains soundSource soundValue

theorem arrayConcat
    {arrays : List Sql}
    (sound : ∀ array ∈ arrays, array.IsSound dialect allowed) :
    IsSound dialect allowed (.arrayConcat arrays) :=
  Sound.arrayConcat (renderAll sound)

theorem mapped
    {source body : Sql}
    (soundSource : source.IsSound dialect allowed)
    (soundBody : body.IsSound dialect allowed) :
    IsSound dialect allowed (.mapped source body) :=
  Sound.mapped soundSource soundBody

theorem filtered
    {source condition : Sql}
    (soundSource : source.IsSound dialect allowed)
    (soundCondition : condition.IsSound dialect allowed) :
    IsSound dialect allowed (.filtered source condition) :=
  Sound.filtered soundSource soundCondition

theorem folded
    {functions : Dialect.LambdaForm}
    {source body initial : Sql}
    (chosen : dialect.forms.iteration = .lambda functions)
    (soundSource : source.IsSound dialect allowed)
    (soundBody : body.IsSound dialect allowed)
    (soundInitial : initial.IsSound dialect allowed) :
    IsSound dialect allowed (.folded functions source body initial) :=
  Sound.folded chosen soundSource soundBody soundInitial

theorem aggregated
    {source value initial : Sql}
    (naming : Dialect.NamingForm)
    (aggregate : Dialect.Aggregate)
    (soundSource : source.IsSound dialect allowed)
    (soundValue : value.IsSound dialect allowed)
    (soundInitial : initial.IsSound dialect allowed) :
    IsSound dialect allowed (.aggregated naming aggregate source value initial) :=
  Sound.aggregated naming aggregate soundSource soundValue soundInitial

theorem quantified
    {source condition : Sql}
    (quantity : Dialect.Quantity)
    (soundSource : source.IsSound dialect allowed)
    (soundCondition : condition.IsSound dialect allowed) :
    IsSound dialect allowed (.quantified quantity source condition) :=
  Sound.quantified quantity soundSource soundCondition

end IsSound
end Sql
end RuleClause
