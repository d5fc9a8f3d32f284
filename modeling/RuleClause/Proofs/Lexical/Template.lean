import RuleClause.Proofs.Lexical.Numeral

/-!
# Templates keep fragments sound

Every template of every dialect makes a sound text out of sound fragments.  The
names of functions and types are inert, and all other text around the fragments
divides them.
-/

namespace RuleClause
namespace Sound

open Dialect (QuoteForm)

variable {form : QuoteForm} {allowed : String → Prop} {dialect : Dialect}

theorem arrayLiteral
    {items : List String}
    (sound : ∀ item ∈ items, Sound form allowed item) :
    Sound form allowed (dialect.arrayLiteral items) := by
  unfold Dialect.arrayLiteral
  split
  · have opened : LeavesOpen form allowed [']'] ("[" ++ Dialect.commas items) :=
      .lead (by decide) (commas sound)
    exact opened.trail (by decide)
  · have opened : LeavesOpen form allowed [']'] ("ARRAY[" ++ Dialect.commas items) :=
      .lead (by decide) (commas sound)
    exact opened.trail (by decide)

theorem arrayLength
    {array : String}
    (sound : Sound form allowed array) :
    Sound form allowed (dialect.arrayLength array) := by
  refine call ?_ (by simpa using sound)
  cases dialect <;> decide

theorem arrayItem
    {array : String}
    (sound : Sound form allowed array)
    (index : UInt64) :
    Sound form allowed (dialect.arrayItem array index) := by
  unfold Dialect.arrayItem
  split
  · have opened : LeavesOpen form allowed [')', ']']
        (array ++ "[OFFSET(" ++ Nat.repr index.toNat) :=
      sound.fill (by decide) (of_inert (inert_repr index.toNat))
    exact opened.trail (by decide)
  · have opened : LeavesOpen form allowed [']'] (array ++ "[" ++ Nat.repr (index + 1).toNat) :=
      sound.fill (by decide) (of_inert (inert_repr (index + 1).toNat))
    exact opened.trail (by decide)

theorem textLength
    {text : String}
    (sound : Sound form allowed text) :
    Sound form allowed (dialect.textLength text) := by
  refine call ?_ (by simpa using sound)
  cases dialect <;> decide

/-- The function that takes parts of texts, where there is one, is inert. -/
theorem inert_substring
    {function : String}
    (chosen : dialect.forms.substring = .call function) :
    Inert function.toList := by
  cases dialect <;> simp [Dialect.forms] at chosen <;> subst chosen <;> decide

theorem substring
    {text start : String}
    {length : Option String}
    (soundText : Sound form allowed text)
    (soundStart : Sound form allowed start)
    (soundLength : ∀ size ∈ length, Sound form allowed size) :
    Sound form allowed (dialect.substring text start length) := by
  unfold Dialect.substring
  split
  · rename_i function size chosen
    exact call (inert_substring chosen) (by simp [soundText, soundStart, soundLength size rfl])
  · rename_i function chosen
    exact call (inert_substring chosen) (by simp [soundText, soundStart])
  · rename_i size _
    have opened : LeavesOpen form allowed [')'] ("SUBSTRING(" ++ text) :=
      .lead (by decide) soundText
    have started : LeavesOpen form allowed [')'] ("SUBSTRING(" ++ text ++ " FROM " ++ start) :=
      opened.fill (by decide) soundStart
    have measured : LeavesOpen form allowed [')']
        ("SUBSTRING(" ++ text ++ " FROM " ++ start ++ " FOR " ++ size) :=
      started.fill (by decide) (soundLength size rfl)
    exact measured.trail (by decide)
  · have opened : LeavesOpen form allowed [')'] ("SUBSTRING(" ++ text) :=
      .lead (by decide) soundText
    have started : LeavesOpen form allowed [')'] ("SUBSTRING(" ++ text ++ " FROM " ++ start) :=
      opened.fill (by decide) soundStart
    exact started.trail (by decide)

theorem contains
    {haystack needle : String}
    (soundHaystack : Sound form allowed haystack)
    (soundNeedle : Sound form allowed needle) :
    Sound form allowed (dialect.contains haystack needle) := by
  unfold Dialect.contains
  split
  · rename_i function chosen
    have inert : Inert function.toList := by
      cases dialect <;> simp [Dialect.forms] at chosen <;> subst chosen <;> decide
    have called : Sound form allowed (Dialect.call function [haystack, needle]) :=
      call inert (by simp [soundHaystack, soundNeedle])
    exact called.trail (by decide)
  · have opened : LeavesOpen form allowed [')'] ("POSITION(" ++ needle) :=
      .lead (by decide) soundNeedle
    have filled : LeavesOpen form allowed [')'] ("POSITION(" ++ needle ++ " IN " ++ haystack) :=
      opened.fill (by decide) soundHaystack
    exact filled.trail (by decide)

theorem arrayContains
    {array value : String}
    (soundArray : Sound form allowed array)
    (soundValue : Sound form allowed value) :
    Sound form allowed (dialect.arrayContains array value) := by
  unfold Dialect.arrayContains
  split
  · have opened : LeavesOpen form allowed [')'] (value ++ " IN UNNEST(" ++ array) :=
      soundValue.fill (by decide) soundArray
    exact opened.trail (by decide)
  · have opened : LeavesOpen form allowed [')'] (value ++ " = ANY(" ++ array) :=
      soundValue.fill (by decide) soundArray
    exact opened.trail (by decide)
  · rename_i function chosen
    have inert : Inert function.toList := by
      cases dialect <;> simp [Dialect.forms] at chosen <;> subst chosen <;> decide
    exact call inert (by simp [soundArray, soundValue])

/-- Fragments with an operator of SQL between them are sound. -/
theorem between
    {symbol : String}
    {texts : List String}
    (divides : Divides [] (" " ++ symbol ++ " ") [])
    (sound : ∀ text ∈ texts, Sound form allowed text) :
    Sound form allowed (Dialect.between symbol texts) :=
  intercalate divides sound

theorem arrayConcat
    {arrays : List String}
    (sound : ∀ array ∈ arrays, Sound form allowed array) :
    Sound form allowed (dialect.arrayConcat arrays) := by
  cases dialect with
  | bigQuery | spanner | clickHouse => exact call (by decide) sound
  | duckDB => exact callFromLeft (by decide) sound
  | postgreSQL => exact (between (by decide) sound).parenthesized

theorem remainder
    {terms : List String}
    (sound : ∀ term ∈ terms, Sound form allowed term) :
    Sound form allowed (dialect.remainder terms) := by
  cases dialect with
  | bigQuery | spanner => exact callFromLeft (by decide) sound
  | postgreSQL | duckDB | clickHouse => exact (between (by decide) sound).parenthesized

theorem numericCast
    {value : String}
    (sound : Sound form allowed value) :
    Sound form allowed (dialect.numericCast value) := by
  have inert : Inert dialect.forms.numericType.toList := by
    cases dialect <;> decide
  have opened : LeavesOpen form allowed [')'] ("CAST(" ++ value) := .lead (by decide) sound
  have typed : LeavesOpen form allowed [')']
      ("CAST(" ++ value ++ " AS " ++ dialect.forms.numericType) :=
    opened.fill (by decide) (of_inert inert)
  exact typed.trail (by decide)

theorem elementName : Sound form allowed Dialect.elementName :=
  of_inert (by decide)

theorem unnest
    {array : String}
    (naming : Dialect.NamingForm)
    (sound : Sound form allowed array) :
    Sound form allowed (naming.unnest array Dialect.elementName) := by
  have opened : LeavesOpen form allowed [')'] ("UNNEST(" ++ array) := .lead (by decide) sound
  cases naming with
  | plain => exact opened.fill (by decide) elementName
  | column =>
      have named : LeavesOpen form allowed [')']
          ("UNNEST(" ++ array ++ ") AS t(" ++ Dialect.elementName) :=
        opened.fill (by decide) elementName
      exact named.trail (by decide)

theorem elementLambda
    {body : String}
    (sound : Sound form allowed body) :
    Sound form allowed (Dialect.elementLambda body) :=
  elementName.fill (by decide) sound

theorem foldLambda
    {body : String}
    (sound : Sound form allowed body) :
    Sound form allowed (Dialect.foldLambda body) := by
  have names : Sound form allowed (Dialect.commas [Dialect.accumulatorName, Dialect.elementName]) :=
    of_inert (by decide)
  have opened : LeavesOpen form allowed [')']
      ("(" ++ Dialect.commas [Dialect.accumulatorName, Dialect.elementName]) :=
    .lead (by decide) names
  exact opened.fill (by decide) sound

theorem lambdaApply
    {functions : Dialect.LambdaForm}
    {function array lambda : String}
    {initial : Option String}
    (inert : Inert function.toList)
    (soundArray : Sound form allowed array)
    (soundLambda : Sound form allowed lambda)
    (soundInitial : ∀ value ∈ initial, Sound form allowed value) :
    Sound form allowed (functions.apply function array lambda initial) := by
  refine call inert ?_
  intro argument member
  rcases List.mem_append.mp member with early | last
  · have either : argument = array ∨ argument = lambda := by
      split at early <;> simp at early <;> tauto
    rcases either with rfl | rfl
    · exact soundArray
    · exact soundLambda
  · exact soundInitial argument (by simpa using last)

/-- The functions that a dialect iterates with are inert. -/
theorem inert_iteration
    {functions : Dialect.LambdaForm}
    (chosen : dialect.forms.iteration = .lambda functions) :
    Inert functions.map.toList ∧ Inert functions.filter.toList ∧
      Inert functions.fold.toList := by
  cases dialect <;> simp [Dialect.forms] at chosen <;> subst chosen <;> decide

theorem mapped
    {array body : String}
    (soundArray : Sound form allowed array)
    (soundBody : Sound form allowed body) :
    Sound form allowed (dialect.mapped array body) := by
  unfold Dialect.mapped
  split
  · rename_i naming _
    have opened : LeavesOpen form allowed [')'] ("ARRAY(SELECT " ++ body) :=
      .lead (by decide) soundBody
    have filled : LeavesOpen form allowed [')']
        ("ARRAY(SELECT " ++ body ++ " FROM " ++ naming.unnest array Dialect.elementName) :=
      opened.fill (by decide) (unnest naming soundArray)
    exact filled.trail (by decide)
  · rename_i functions chosen
    exact lambdaApply (inert_iteration chosen).1 soundArray (elementLambda soundBody) (by simp)

theorem filtered
    {array condition : String}
    (soundArray : Sound form allowed array)
    (soundCondition : Sound form allowed condition) :
    Sound form allowed (dialect.filtered array condition) := by
  unfold Dialect.filtered
  split
  · rename_i naming _
    have opened : LeavesOpen form allowed [')'] ("ARRAY(SELECT " ++ Dialect.elementName) :=
      .lead (by decide) elementName
    have filled : LeavesOpen form allowed [')']
        ("ARRAY(SELECT " ++ Dialect.elementName ++ " FROM " ++
          naming.unnest array Dialect.elementName) :=
      opened.fill (by decide) (unnest naming soundArray)
    have selected : LeavesOpen form allowed [')']
        ("ARRAY(SELECT " ++ Dialect.elementName ++ " FROM " ++
          naming.unnest array Dialect.elementName ++ " WHERE " ++ condition) :=
      filled.fill (by decide) soundCondition
    exact selected.trail (by decide)
  · rename_i functions chosen
    exact lambdaApply (inert_iteration chosen).2.1 soundArray (elementLambda soundCondition)
      (by simp)

theorem folded
    {functions : Dialect.LambdaForm}
    {array body initial : String}
    (chosen : dialect.forms.iteration = .lambda functions)
    (soundArray : Sound form allowed array)
    (soundBody : Sound form allowed body)
    (soundInitial : Sound form allowed initial) :
    Sound form allowed (functions.folded array body initial) :=
  lambdaApply (inert_iteration chosen).2.2 soundArray (foldLambda soundBody)
    (by simpa using soundInitial)

theorem aggregated
    {array value initial : String}
    (naming : Dialect.NamingForm)
    (aggregate : Dialect.Aggregate)
    (soundArray : Sound form allowed array)
    (soundValue : Sound form allowed value)
    (soundInitial : Sound form allowed initial) :
    Sound form allowed (naming.aggregated aggregate array value initial) := by
  have close : ∀ combined, Sound form allowed combined →
      Sound form allowed ("(SELECT " ++ combined ++ " FROM " ++
        naming.unnest array Dialect.elementName ++ ")") := by
    intro combined sound
    have opened : LeavesOpen form allowed [')'] ("(SELECT " ++ combined) :=
      .lead (by decide) sound
    have filled : LeavesOpen form allowed [')']
        ("(SELECT " ++ combined ++ " FROM " ++ naming.unnest array Dialect.elementName) :=
      opened.fill (by decide) (unnest naming soundArray)
    exact filled.trail (by decide)
  have zero : Sound form allowed "0" := of_inert (by decide)
  cases aggregate with
  | sum =>
      have total : Sound form allowed (Dialect.call "SUM" [value]) :=
        call (by decide) (by simpa using soundValue)
      exact close _ (soundInitial.fill (by decide) (call (by decide) (by simp [total, zero])))
  | max =>
      have greatest : Sound form allowed (Dialect.call "MAX" [value]) :=
        call (by decide) (by simpa using soundValue)
      have present : Sound form allowed
          (Dialect.call "COALESCE" [Dialect.call "MAX" [value], initial]) :=
        call (by decide) (by simp [greatest, soundInitial])
      exact close _ (call (by decide) (by simp [present, soundInitial]))
  | min =>
      have least : Sound form allowed (Dialect.call "MIN" [value]) :=
        call (by decide) (by simpa using soundValue)
      have present : Sound form allowed
          (Dialect.call "COALESCE" [Dialect.call "MIN" [value], initial]) :=
        call (by decide) (by simp [least, soundInitial])
      exact close _ (call (by decide) (by simp [present, soundInitial]))

theorem rowExists
    {array condition : String}
    (naming : Dialect.NamingForm)
    (soundArray : Sound form allowed array)
    (soundCondition : Sound form allowed condition) :
    Sound form allowed (naming.rowExists array condition) := by
  have opened : LeavesOpen form allowed [')']
      ("EXISTS (SELECT 1 FROM " ++ naming.unnest array Dialect.elementName) :=
    .lead (by decide) (unnest naming soundArray)
  have filled : LeavesOpen form allowed [')']
      ("EXISTS (SELECT 1 FROM " ++ naming.unnest array Dialect.elementName ++ " WHERE " ++
        condition) :=
    opened.fill (by decide) soundCondition
  exact filled.trail (by decide)

/-- A negated fragment is sound. -/
theorem negated
    {text : String}
    (sound : Sound form allowed text) :
    Sound form allowed ("NOT " ++ text) :=
  LeavesOpen.lead (by decide) sound

theorem quantified
    {array condition : String}
    (quantity : Dialect.Quantity)
    (soundArray : Sound form allowed array)
    (soundCondition : Sound form allowed condition) :
    Sound form allowed (dialect.quantified quantity array condition) := by
  have arguments : ∀ argument ∈ [Dialect.elementLambda condition, array],
      Sound form allowed argument := by
    simp [elementLambda soundCondition, soundArray]
  cases dialect with
  | bigQuery | spanner | postgreSQL | duckDB =>
      cases quantity with
      | all => exact (rowExists _ soundArray soundCondition.parenthesized.negated).negated
      | some => exact rowExists _ soundArray soundCondition
      | none => exact (rowExists _ soundArray soundCondition).negated
  | clickHouse =>
      cases quantity with
      | all | some => exact call (by decide) arguments
      | none => exact (call (by decide) arguments).negated

end Sound
end RuleClause
