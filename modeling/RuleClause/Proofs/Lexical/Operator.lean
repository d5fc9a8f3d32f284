import RuleClause.Proofs.Lexical.Expression
import RuleClause.Proofs.Plan.Outcome
import Mathlib.Data.List.TakeDrop

/-!
# Operators give sound expressions

Given sound expressions for its operands, every built-in operator gives a sound
expression.  What an operator writes of its own accord are names of fields, which
must be plain, and literals among its operands.
-/

namespace RuleClause

/-- A name holds no quote, backslash, bracket, hyphen, slash or asterisk. -/
def IsPlainName (name : String) : Prop :=
  ∀ character ∈ name.toList,
    character ∉ ['\'', '\\', '(', ')', '[', ']', '-', '/', '*']

instance (name : String) : Decidable (IsPlainName name) :=
  decidable_of_iff
    (name.toList.all (fun character =>
      ! ['\'', '\\', '(', ')', '[', ']', '-', '/', '*'].contains character) = true)
    (by simp [IsPlainName])

theorem IsPlainName.isCalm
    {name : String}
    (plain : IsPlainName name)
    {character : Char}
    (member : character ∈ name.toList) :
    IsCalm character := by
  intro special
  exact plain character member (by revert special; simp; tauto)

variable {dialect : Dialect} {allowed : String → Prop} {answer : Request → Except Error Sql}
  {setting : Setting} {call : Call} {expression : Sql}

/-! ## References -/

namespace Reference

/-- The part of a plain name behind its first dot is plain. -/
theorem isPlainName_splitName
    {name head member : String}
    (plain : IsPlainName name)
    (split : splitName name = (head, some member)) :
    IsPlainName member := by
  unfold splitName at split
  split at split
  · simp at split
  · rename_i front point rest divided
    obtain ⟨rfl, rfl⟩ : String.ofList front = head ∧ String.ofList rest = member := by
      simpa using split
    rw [List.span_eq_takeWhile_dropWhile, Prod.mk.injEq] at divided
    have suffix : point :: rest <:+ name.toList := divided.2 ▸ List.dropWhile_suffix _
    intro character inside
    exact plain character (suffix.subset (List.mem_cons_of_mem _ (by simpa using inside)))

theorem isCalm_boundText
    (binding : Binding)
    {member : Option String}
    (plain : ∀ name ∈ member, IsPlainName name)
    {character : Char}
    (inside : character ∈ (Sql.boundText binding member).toList) :
    IsCalm character := by
  have name : IsPlainName binding.name := by
    cases binding <;> decide
  cases member with
  | none => exact name.isCalm inside
  | some member =>
      simp only [Sql.boundText, String.toList_append, List.mem_append] at inside
      rcases inside with (early | point) | late
      · exact name.isCalm early
      · obtain rfl : character = '.' := by simpa using point
        decide
      · exact (plain member rfl).isCalm late

/-- What a plain name refers to is written with calm characters. -/
theorem Resolves.isCalm
    {name : String}
    (resolves : Resolves setting name expression)
    (plain : IsPlainName name)
    {character : Char}
    (inside : character ∈ (expression.render dialect).toList) :
    IsCalm character := by
  obtain ⟨schema, scope⟩ := setting
  cases scope with
  | row =>
      obtain ⟨_, rfl⟩ := resolves
      exact plain.isCalm inside
  | element =>
      obtain rfl : inIteration name = expression := by simpa [Resolves, bound?] using resolves
      refine isCalm_boundText .element (fun member written => ?_) inside
      split at written
      · simp at written
      · obtain rfl : name = member := by simpa using written
        exact plain
  | reduction =>
      simp only [Resolves, bound?, inReduction?] at resolves
      have members : ∀ member ∈ (splitName name).2, IsPlainName member := by
        intro member written
        exact isPlainName_splitName plain (Prod.ext rfl written)
      split at resolves
      · obtain rfl := Option.some.inj resolves
        exact isCalm_boundText .element members inside
      · split at resolves
        · obtain rfl := Option.some.inj resolves
          exact isCalm_boundText .accumulator members inside
        · simp at resolves

end Reference

namespace Sql
namespace IsSound

theorem of_resolves
    {name : String}
    (resolves : Reference.Resolves setting name expression)
    (plain : IsPlainName name) :
    expression.IsSound dialect allowed :=
  .of_inert (.of_calm fun _ inside => resolves.isCalm plain inside)

theorem minus_of_resolves
    {name : String}
    (resolves : Reference.Resolves setting name expression)
    (plain : IsPlainName name) :
    (Sql.minus expression).IsSound dialect allowed :=
  minus_of_inert (.of_calm fun _ inside => resolves.isCalm plain inside)
    (head?_calm_ne fun _ inside => resolves.isCalm plain inside)

theorem of_run_reference
    {rule : Rule}
    (plain : ∀ name, rule = .string name → IsPlainName name)
    (ended : (Reference.reference setting call rule).run answer = .ok expression) :
    expression.IsSound dialect allowed := by
  rcases Reference.resolves_of_run_reference ended with
    ⟨name, same, resolves⟩ | ⟨_, index, _, _, rfl⟩
  · exact of_resolves resolves (plain name same)
  · exact elementItem index

theorem of_ofLiteral?
    {type : Option FieldType}
    {rule : Rule}
    (permitted : ∀ value, rule = .string value → allowed value)
    (written : Sql.ofLiteral? type rule = some expression) :
    expression.IsSound dialect allowed := by
  cases rule with
  | null =>
      obtain rfl := Option.some.inj written
      exact null
  | bool value =>
      obtain rfl := Option.some.inj written
      exact bool value
  | number value =>
      obtain rfl := Option.some.inj written
      exact ofNumber value
  | string value =>
      obtain rfl := Option.some.inj written
      exact ofText type (permitted value rfl)
  | list | operation => simp [Sql.ofLiteral?] at written

/-- A variable is sound, and so is its negation if it has a text for its name. -/
theorem of_run_var
    (plain : ∀ name, .string name ∈ Operator.var.fieldNames call.operands → IsPlainName name)
    (permitted : ∀ value, .string value ∈ call.operands → allowed value)
    (ended : (Reference.var setting call).run answer = .ok expression) :
    expression.IsSound dialect allowed ∧
      (call.arguments.leadingText?.isSome = true →
        (Sql.minus expression).IsSound dialect allowed) := by
  rcases Reference.of_run_var ended with
    ⟨rule, operands, resolved⟩ | ⟨rule, default, reference, fallback, operands, resolved, written,
      _, rfl⟩
  · have plainRule : ∀ name, rule = .string name → IsPlainName name := by
      rintro name rfl
      exact plain name (by simp [operands, Operator.fieldNames])
    refine ⟨of_run_reference plainRule resolved, fun named => ?_⟩
    rcases Reference.resolves_of_run_reference resolved with
      ⟨name, same, resolves⟩ | ⟨_, _, rfl, _⟩
    · exact minus_of_resolves resolves (plainRule name same)
    · rw [Call.operands] at operands
      unfold Rule.leadingText? at named
      split at named <;> simp_all [Rule.operands]
  · have plainRule : ∀ name, rule = .string name → IsPlainName name := by
      rintro name rfl
      exact plain name (by simp [operands, Operator.fieldNames])
    have soundReference : reference.IsSound dialect allowed := of_run_reference plainRule resolved
    have soundFallback : fallback.IsSound dialect allowed := by
      refine of_ofLiteral? ?_ written
      rintro value rfl
      exact permitted value (by simp [operands])
    exact ⟨IsSound.call .coalesce (by simp [soundReference, soundFallback]),
      fun _ => minus_call .coalesce (by simp [soundReference, soundFallback])⟩

/-- Null tests of what plain names refer to are sound. -/
theorem nullTests
    {references : List Sql}
    (operator : BinaryOp)
    (sound : ∀ reference ∈ references, reference.IsSound dialect allowed) :
    (Reference.nullTests operator references).IsSound dialect allowed := by
  refine joined operator ?_
  intro term member
  obtain ⟨reference, inside, rfl⟩ := List.mem_map.mp member
  exact test (sound reference inside) .isNull

theorem of_forall₂_resolves
    {names : List Rule}
    {references : List Sql}
    (plain : ∀ name, .string name ∈ names → IsPlainName name)
    (resolved : List.Forall₂
      (fun rule reference => ∃ name, rule = .string name ∧
        Reference.Resolves setting name reference)
      names references) :
    ∀ reference ∈ references, reference.IsSound dialect allowed := by
  intro reference member
  obtain ⟨rule, inside, name, rfl, resolves⟩ := resolved.exists_of_mem_right member
  exact of_resolves resolves (plain name inside)

theorem of_run_missing
    (plain : ∀ name, .string name ∈ Operator.missing.fieldNames call.operands → IsPlainName name)
    (ended : (Reference.missing setting call).run answer = .ok expression) :
    expression.IsSound dialect allowed := by
  obtain ⟨references, resolved, rfl⟩ := Reference.of_run_missing ended
  exact nullTests .or (of_forall₂_resolves plain resolved)

theorem fewerThan
    {references : List Sql}
    (least : Int)
    (sound : ∀ reference ∈ references, reference.IsSound dialect allowed) :
    (Reference.fewerThan least references).IsSound dialect allowed := by
  unfold Reference.fewerThan
  split
  · exact bool false
  · split
    · exact bool true
    · split
      · exact nullTests .or sound
      · split
        · exact nullTests .and sound
        · refine binary .less (group .add ?_) (integer least)
          intro term member
          obtain ⟨reference, inside, rfl⟩ := List.mem_map.mp member
          exact cases (by simpa using ⟨test (sound reference inside) .isNotNull, integer 1⟩)
            (integer 0)

theorem of_run_missingSome
    (plain : ∀ name, .string name ∈ Operator.missingSome.fieldNames call.operands →
      IsPlainName name)
    (ended : (Reference.missingSome setting call).run answer = .ok expression) :
    expression.IsSound dialect allowed := by
  obtain ⟨value, least, names, references, arguments, resolved, _, rfl⟩ :=
    Reference.of_run_missingSome ended
  have names : ∀ name, .string name ∈ names → IsPlainName name := by
    intro name member
    refine plain name ?_
    rw [Call.operands, arguments]
    exact member
  exact fewerThan least (of_forall₂_resolves names resolved)

/-! ## Operators over compiled operands -/

section

variable (answers : ∀ request inner, answer request = .ok inner → inner.IsSound dialect allowed)
include answers

theorem of_answered
    {request : Nat → Request}
    {terms : List Sql}
    (answered : Answered answer request terms) :
    ∀ term ∈ terms, term.IsSound dialect allowed := by
  intro term member
  obtain ⟨index, asked⟩ := answered.of_mem member
  exact answers _ term asked

theorem of_run_equality
    {operator : BinaryOp}
    {nullTest : Test}
    (ended : (Logic.equality setting call operator nullTest).run answer = .ok expression) :
    expression.IsSound dialect allowed := by
  obtain ⟨_, _, _, outcome⟩ := Logic.of_run_equality ended
  rcases outcome with ⟨_, _, asked, rfl⟩ | ⟨_, _, asked, rfl⟩ |
    ⟨_, _, _, _, askedLeft, askedRight, rfl⟩
  · exact test (answers _ _ asked) nullTest
  · exact test (answers _ _ asked) nullTest
  · exact binary operator (answers _ _ askedLeft) (answers _ _ askedRight)

theorem of_run_negation
    (ended : (Logic.negation setting call).run answer = .ok expression) :
    expression.IsSound dialect allowed := by
  obtain ⟨_, _, _, asked, rfl⟩ := (Logic.run_negation_eq_ok_iff _).mp ended
  exact not (answers _ _ asked)

omit answers in
theorem presentAndNot
    {operand : Sql}
    {others : List Sql}
    (sound : operand.IsSound dialect allowed)
    (soundOthers : ∀ other ∈ others, other.IsSound dialect allowed) :
    (Logic.presentAndNot operand others).IsSound dialect allowed := by
  refine group .and fun term member => ?_
  rcases List.mem_cons.mp member with rfl | later
  · exact test sound .isNotNull
  · obtain ⟨other, inside, rfl⟩ := List.mem_map.mp later
    exact binary .notEqual sound (soundOthers other inside)

omit answers in
theorem truthOf
    {operand : Sql}
    (sound : operand.IsSound dialect allowed)
    (empty : allowed "")
    (type : Option FieldType) :
    (Logic.truthOf operand type).IsSound dialect allowed := by
  match type with
  | some .boolean => exact test sound .isTrue
  | some .string | some .enum =>
      exact presentAndNot sound (by simpa using string empty)
  | some .integer | some .number =>
      exact presentAndNot sound (by simpa using integer 0)
  | some .array =>
      refine group .and ?_
      simpa using ⟨test sound .isNotNull, binary .greater (arrayLength sound) (integer 0)⟩
  | some .object => exact test sound .isNotNull
  | none =>
      exact presentAndNot sound (by simpa using ⟨bool false, integer 0, string empty⟩)

theorem of_run_truthy
    (empty : allowed "")
    (ended : (Logic.truthy setting call).run answer = .ok expression) :
    expression.IsSound dialect allowed := by
  rcases Logic.of_run_truthy ended with ⟨_, rfl⟩ | ⟨_, _, ⟨truth, _, rfl⟩ | ⟨_, _, asked, rfl⟩⟩
  · exact bool false
  · exact bool truth
  · exact truthOf (answers _ _ asked) empty _

theorem of_run_connective
    {operator : BinaryOp}
    (ended : (Logic.connective setting call operator).run answer = .ok expression) :
    expression.IsSound dialect allowed := by
  obtain ⟨_, _, _, _, _, answered, rfl⟩ := (Logic.run_connective_eq_ok_iff _ _).mp ended
  exact joined operator (of_answered answers answered)

theorem of_run_conditional
    (ended : (Logic.conditional setting call).run answer = .ok expression) :
    expression.IsSound dialect allowed := by
  obtain ⟨_, outcome, _, branched, rfl⟩ := Logic.of_run_conditional ended
  obtain ⟨_, inner, last⟩ := Logic.of_run_branches branched
  refine cases (fun branch member => ?_) ?_
  · obtain ⟨⟨_, condition⟩, _, value⟩ := inner branch member
    exact ⟨answers _ _ condition, answers _ _ value⟩
  · rcases last with nothing | ⟨_, asked⟩
    · rw [nothing]
      exact null
    · exact answers _ _ asked

omit answers in
theorem adjacent
    {terms : List Sql}
    (operator : BinaryOp)
    (sound : ∀ term ∈ terms, term.IsSound dialect allowed) :
    ∀ comparison ∈ Logic.adjacent operator terms, comparison.IsSound dialect allowed := by
  fun_induction Logic.adjacent operator terms with
  | case1 first second rest inductionHypothesis =>
      intro comparison member
      rcases List.mem_cons.mp member with rfl | later
      · exact binary operator (sound first (by simp)) (sound second (by simp))
      · exact inductionHypothesis (fun term inside => sound term (List.mem_cons_of_mem _ inside))
          comparison later
  | case2 => simp

theorem of_run_comparison
    {operator : BinaryOp}
    (ended : (Logic.comparison setting call operator).run answer = .ok expression) :
    expression.IsSound dialect allowed := by
  obtain ⟨_, _, _, _, _, _, answered, rfl⟩ := (Logic.run_comparison_eq_ok_iff _ _).mp ended
  exact joined .and (adjacent operator (of_answered answers answered))

theorem of_run_terms
    {terms : List Sql}
    (ended : (Arithmetic.terms setting call).run answer = .ok terms) :
    ∀ term ∈ terms, term.IsSound dialect allowed :=
  of_answered answers ((Arithmetic.run_terms_eq_ok_iff _).mp ended).2.2

theorem of_run_chain
    {operator : BinaryOp}
    (ended : (Arithmetic.chain setting call operator).run answer = .ok expression) :
    expression.IsSound dialect allowed := by
  obtain ⟨_, _, asked, rfl⟩ := (Arithmetic.run_chain_eq_ok_iff _ _).mp ended
  exact group operator (of_run_terms answers asked)

theorem of_run_add
    (permitted : ∀ value, .string value ∈ call.operands → allowed value)
    (ended : (Arithmetic.add setting call).run answer = .ok expression) :
    expression.IsSound dialect allowed := by
  rcases Arithmetic.of_run_add ended with ⟨operand, operands, ended⟩ | ended
  · rcases (Arithmetic.of_run_plus ended).2 with
      ⟨value, rfl, rfl⟩ | ⟨value, _, rfl⟩ | ⟨_, asked, rfl | rfl⟩
    · exact numericCast (string (permitted value (by simp [operands])))
    · exact ofNumber value
    · exact answers _ _ asked
    · exact numericCast (answers _ _ asked)
  · exact of_run_chain answers ended

theorem of_run_subtract
    (negatable : ∀ operand, call.operands = [operand] → operand.variableName?.isSome = true →
      ∀ inner, answer (setting.operandRequest (some .number) 0) = .ok inner →
        (Sql.minus inner).IsSound dialect allowed)
    (ended : (Arithmetic.subtract setting call).run answer = .ok expression) :
    expression.IsSound dialect allowed := by
  rcases Arithmetic.of_run_subtract ended with ⟨operand, operands, ended⟩ | ended
  · obtain ⟨_, inner, asked, rfl⟩ := (Arithmetic.run_minus_eq_ok_iff _ _).mp ended
    unfold Arithmetic.negated
    split
    · exact number (inert_negatedText (inert_canonicalText _))
    · split
      · rename_i named
        exact negatable operand operands named inner asked
      · exact minusGroup (answers _ _ asked)
  · exact of_run_chain answers ended

omit answers in
/-- The place at which a part of a text starts is sound if the offset is. -/
theorem of_run_start
    {length : Sql}
    {offset : Strings.Offset}
    (soundLength : length.IsSound dialect allowed)
    (soundOffset : ∀ inner, offset = .dynamic inner → inner.IsSound dialect allowed)
    (ended : (Strings.start call length offset).run answer = .ok expression) :
    expression.IsSound dialect allowed := by
  cases offset with
  | literal value =>
      simp only [Strings.start] at ended
      split at ended
      · simp only [Plan.run_bind_eq_ok_iff, Plan.run_pure, Except.ok.injEq] at ended
        obtain ⟨place, _, rfl⟩ := ended
        exact integer place
      · simp only [Plan.run_bind_eq_ok_iff, Plan.run_pure, Except.ok.injEq] at ended
        obtain ⟨fromEnd, _, rfl⟩ := ended
        have shifted : (Sql.binary .add (.binary .subtract length (.integer fromEnd))
            (.integer 1)).IsSound dialect allowed :=
          binary .add (binary .subtract soundLength (integer fromEnd)) (integer 1)
        exact IsSound.call .greatest (by simpa using ⟨shifted, integer 1⟩)
  | dynamic inner =>
      obtain rfl : Sql.group .add [inner, .integer 1] = expression := by
        simpa [Strings.start] using ended
      exact group .add (by simpa using ⟨soundOffset inner rfl, integer 1⟩)

omit answers in
theorem of_run_lengthWithout
    {length : Sql}
    {offset : Strings.Offset}
    {dropped : Int}
    (soundLength : length.IsSound dialect allowed)
    (soundOffset : ∀ inner, offset = .dynamic inner → inner.IsSound dialect allowed)
    (ended : (Strings.lengthWithout call length dropped offset).run answer = .ok expression) :
    expression.IsSound dialect allowed := by
  -- Whatever is left of the text, it is cut off at zero.
  have clipped : ∀ size, size.IsSound dialect allowed →
      (Sql.call .greatest [size, .integer 0]).IsSound dialect allowed := fun size sound =>
    IsSound.call .greatest (by simpa using ⟨sound, integer 0⟩)
  cases offset with
  | literal value =>
      simp only [Strings.lengthWithout] at ended
      split at ended
      · simp only [Plan.run_bind_eq_ok_iff, Plan.run_pure, Except.ok.injEq] at ended
        obtain ⟨fromEnd, _, rfl⟩ := ended
        have bounded : (Sql.call .least [length, .integer fromEnd]).IsSound dialect allowed :=
          IsSound.call .least (by simpa using ⟨soundLength, integer fromEnd⟩)
        exact clipped _ (binary .subtract bounded (integer dropped))
      · simp only [Plan.run_bind_eq_ok_iff, Plan.run_pure, Except.ok.injEq] at ended
        obtain ⟨total, _, rfl⟩ := ended
        exact clipped _ (binary .subtract soundLength (integer total))
  | dynamic inner =>
      simp only [Strings.lengthWithout, Plan.run_done, Except.ok.injEq] at ended
      subst ended
      exact clipped _ (binary .subtract (binary .subtract soundLength (soundOffset inner rfl))
        (integer dropped))

theorem of_run_partLength
    {length : Sql}
    {offset : Strings.Offset}
    {operand : Rule}
    (soundLength : length.IsSound dialect allowed)
    (soundOffset : ∀ inner, offset = .dynamic inner → inner.IsSound dialect allowed)
    (ended : (Strings.partLength setting call length offset operand).run answer =
      .ok expression) :
    expression.IsSound dialect allowed := by
  unfold Strings.partLength at ended
  split at ended
  · rename_i value _
    split at ended
    · obtain rfl : Sql.integer value = expression := by simpa using ended
      exact integer value
    · simp only [Plan.run_bind_eq_ok_iff] at ended
      obtain ⟨dropped, _, ended⟩ := ended
      exact of_run_lengthWithout soundLength soundOffset ended
  · exact answers _ _ (by simpa using ended)

theorem of_run_substr
    (ended : (Strings.substr setting call).run answer = .ok expression) :
    expression.IsSound dialect allowed := by
  obtain ⟨_, _, inner, shift, first, _, _, asked, given, started, outcome⟩ :=
    Strings.of_run_substr ended
  have soundInner := answers _ inner asked
  have soundShift : ∀ dynamic, shift = .dynamic dynamic → dynamic.IsSound dialect allowed := by
    rintro dynamic rfl
    rcases Strings.of_run_offset given with ⟨_, _, same⟩ | ⟨_, askedShift, same⟩
    · cases same
    · cases same
      exact answers _ dynamic askedShift
  have soundFirst := of_run_start (textLength soundInner) soundShift started
  rcases outcome with ⟨_, rfl⟩ | ⟨_, size, _, _, measured, rfl⟩
  · exact substring soundInner soundFirst (by simp)
  · have soundSize := of_run_partLength answers (textLength soundInner) soundShift measured
    exact substring soundInner soundFirst (by simpa using soundSize)

theorem of_run_membership
    (ended : (Arrays.membership setting call).run answer = .ok expression) :
    expression.IsSound dialect allowed := by
  obtain ⟨_, _, _, outcome⟩ := Arrays.of_run_membership ended
  rcases outcome with ⟨_, _, searched⟩ | ⟨_, _, _, _, askedValue, askedTarget, rfl | rfl⟩
  · rcases Arrays.of_run_membershipIn searched with
      ⟨_, rfl⟩ | ⟨_, _, _, _, asked, _, answered, rfl⟩
    · exact bool false
    · exact oneOf (answers _ _ asked) (of_answered answers answered)
  · exact arrayContains (answers _ _ askedTarget) (answers _ _ askedValue)
  · exact contains (answers _ _ askedTarget) (answers _ _ askedValue)

theorem of_run_iteration
    {build : Sql → Sql → Sql}
    (sound : ∀ array inner, array.IsSound dialect allowed → inner.IsSound dialect allowed →
      (build array inner).IsSound dialect allowed)
    (ended : (Arrays.iteration setting call build).run answer = .ok expression) :
    expression.IsSound dialect allowed := by
  obtain ⟨_, _, _, _, _, _, askedArray, askedInner, rfl⟩ := Arrays.of_run_iteration ended
  exact sound _ _ (answers _ _ askedArray) (answers _ _ askedInner)

theorem of_run_reduce
    (ended : (Arrays.reduce dialect setting call).run answer = .ok expression) :
    expression.IsSound dialect allowed := by
  obtain ⟨_, _, _, _, _, _, _, askedArray, askedInitial, outcome⟩ := Arrays.of_run_reduce ended
  have soundArray := answers _ _ askedArray
  have soundInitial := answers _ _ askedInitial
  rcases outcome with ⟨_, _, chosen, asked, rfl⟩ | ⟨naming, aggregate, _, _, _, _, asked, rfl⟩
  · exact folded chosen soundArray (answers _ _ asked) soundInitial
  · exact aggregated naming aggregate soundArray (answers _ _ asked) soundInitial

theorem of_run_merge
    (ended : (Arrays.merge setting call).run answer = .ok expression) :
    expression.IsSound dialect allowed := by
  rcases Arrays.of_run_merge ended with ⟨arrays, merged, rfl⟩ | ⟨_, items, merged, rfl⟩
  · have sound : ∀ array ∈ arrays, array.IsSound dialect allowed := by
      intro array member
      obtain ⟨_, inner, asked, rfl | rfl⟩ := (Arrays.of_run_mergedArrays merged).2 array member
      · exact answers _ _ asked
      · exact IsSound.array (by simpa using answers _ _ asked)
    unfold Arrays.concatenated
    split
    · exact sound _ List.mem_cons_self
    · exact arrayConcat sound
  · refine array fun item member => ?_
    obtain ⟨_, asked⟩ := (Arrays.of_run_mergedItems merged).2 item member
    exact answers _ _ asked

/-- Every operator gives a sound expression. -/
theorem of_run_plan
    {operator : Operator}
    (empty : allowed "")
    (plain : ∀ name, .string name ∈ operator.fieldNames call.operands → IsPlainName name)
    (permitted : ∀ value, .string value ∈ call.operands → allowed value)
    (negatable : ∀ operand, call.operands = [operand] → operand.variableName?.isSome = true →
      ∀ inner, answer (setting.operandRequest (some .number) 0) = .ok inner →
        (Sql.minus inner).IsSound dialect allowed)
    (ended : (operator.plan dialect setting call).run answer = .ok expression) :
    expression.IsSound dialect allowed := by
  cases operator with
  | var => exact (of_run_var plain permitted ended).1
  | missing => exact of_run_missing plain ended
  | missingSome => exact of_run_missingSome plain ended
  | equal | strictEqual | notEqual | strictNotEqual => exact of_run_equality answers ended
  | not => exact of_run_negation answers ended
  | truthy => exact of_run_truthy answers empty ended
  | and | or => exact of_run_connective answers ended
  | conditional => exact of_run_conditional answers ended
  | ternary =>
      simp only [Operator.plan, Logic.ternary, Plan.run_bind_eq_ok_iff] at ended
      obtain ⟨_, _, ended⟩ := ended
      exact of_run_conditional answers ended
  | greater | greaterEqual | less | lessEqual => exact of_run_comparison answers ended
  | add => exact of_run_add answers permitted ended
  | subtract => exact of_run_subtract answers negatable ended
  | multiply | divide => exact of_run_chain answers ended
  | modulo =>
      obtain ⟨_, asked, rfl⟩ := Arithmetic.of_run_modulo ended
      exact remainder (of_run_terms answers asked)
  | max | min =>
      obtain ⟨_, _, asked, rfl⟩ := (Arithmetic.run_extremum_eq_ok_iff _ _).mp ended
      exact IsSound.call _ (of_run_terms answers asked)
  | cat =>
      obtain ⟨_, _, _, _, answered, rfl⟩ := (Strings.run_cat_eq_ok_iff _).mp ended
      exact IsSound.call .concat (of_answered answers answered)
  | substr => exact of_run_substr answers ended
  | membership => exact of_run_membership answers ended
  | map => exact of_run_iteration answers (fun _ _ => mapped) ended
  | filter => exact of_run_iteration answers (fun _ _ => filtered) ended
  | all | some | none => exact of_run_iteration answers (fun _ _ => quantified _) ended
  | reduce => exact of_run_reduce answers ended
  | merge => exact of_run_merge answers ended

end

end IsSound
end Sql
end RuleClause
