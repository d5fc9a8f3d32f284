import RuleClause.Proofs.Compile.Yields
import RuleClause.Proofs.Plan.Outcome
import RuleClause.Proofs.Target

/-!
# Operators without a schema

Without a schema no operand is refused for its type, and the names of a row are the
names of columns.  An operator then ends with an expression as soon as the number of
its operands is right and each of them compiles.
-/

namespace RuleClause

/-- The setting of a row without a schema. -/
abbrev Setting.untyped : Setting :=
  ⟨none, .row⟩

variable {answer : Request → Except Error Sql} {call : Call}

namespace Setting

@[simp]
theorem field?_untyped (rule : Rule) : untyped.field? rule = none :=
  rfl

@[simp]
theorem type?_untyped (rule : Rule) : untyped.type? rule = none :=
  rfl

theorem admits_untyped (usage : Usage) (rule : Rule) : untyped.Admits usage rule := by
  simp [Admits]

theorem allows_untyped (field : Option (String × FieldType)) (value : Rule) :
    untyped.Allows field value := by
  simp [Allows]

end Setting

namespace Reference

theorem run_var_untyped {name : String} (operands : call.operands = [.string name])
    (filled : name ≠ "") :
    (var .untyped call).run answer = .ok (.column name) := by
  simp [var, operands, reference, textual, filled, named, Setting.require]
  rfl

end Reference

namespace Logic

variable {operator : BinaryOp} {nullTest : Test} {left right : Rule}

theorem run_equality_untyped
    {leftSide rightSide : Sql}
    (operands : call.operands = [left, right])
    (leftPresent : left ≠ .null)
    (rightPresent : right ≠ .null)
    (answered : Answered answer (Setting.untyped.operandRequest none) [leftSide, rightSide]) :
    (equality .untyped call operator nullTest).run answer =
      .ok (.binary operator leftSide rightSide) := by
  simp only [Answered.cons_iff] at answered
  obtain ⟨answeredLeft, answeredRight, _⟩ := answered
  simp only [equality, Plan.run_bind_eq_ok_iff, Call.run_pair_eq_ok_iff,
    Setting.run_gateEach_eq_ok_iff]
  refine ⟨(left, right), operands, (), fun rule _ => Setting.admits_untyped _ rule, ?_⟩
  split
  · rename_i null
    exact absurd null rightPresent
  · rename_i null _
    exact absurd null leftPresent
  · simp only [equalityOf, Plan.run_bind_eq_ok_iff, Setting.run_checkAgainst_eq_ok_iff,
      Setting.run_ask]
    exact ⟨(), Setting.allows_untyped _ _, (), Setting.allows_untyped _ _, leftSide, answeredLeft,
      rightSide, answeredRight, rfl⟩

/-- An equality with null on the left tests what stands on the right. -/
theorem run_null_equality_untyped
    {subject : Sql}
    (operands : call.operands = [.null, right])
    (present : right ≠ .null)
    (answered : answer (Setting.untyped.operandRequest none 1) = .ok subject) :
    (equality .untyped call operator nullTest).run answer = .ok (.test subject nullTest) := by
  simp only [equality, Plan.run_bind_eq_ok_iff, Call.run_pair_eq_ok_iff,
    Setting.run_gateEach_eq_ok_iff]
  refine ⟨(.null, right), operands, (), fun rule _ => Setting.admits_untyped _ rule, ?_⟩
  split
  · rename_i null
    exact absurd null present
  · simp only [Plan.run_bind_eq_ok_iff, Setting.run_ask]
    exact ⟨subject, answered, rfl⟩
  · rename_i present _
    exact absurd rfl present

/-- Expressions as the conditions and values of a choice, with the last value. -/
def paired : List Sql → List (Sql × Sql) × Sql
  | [] => ([], .null)
  | [otherwise] => ([], otherwise)
  | condition :: value :: rest =>
      ((condition, value) :: (paired rest).1, (paired rest).2)

theorem run_branches
    {setting : Setting}
    {index : Nat}
    {expressions : List Sql}
    (answered : Answered answer (fun offset => setting.operandRequest none (index + offset))
      expressions) :
    (branches setting index expressions.length).run answer = .ok (paired expressions) := by
  fun_induction paired expressions generalizing index with
  | case1 => rfl
  | case2 otherwise =>
      simp only [List.length_singleton, branches, Plan.run_bind_eq_ok_iff, Setting.run_ask]
      exact ⟨otherwise, answered 0 otherwise rfl, rfl⟩
  | case3 condition value rest inductionHypothesis =>
      have remaining : Answered answer
          (fun offset => setting.operandRequest none (index + 2 + offset)) rest := by
        intro offset expression found
        change answer (setting.operandRequest none (index + 2 + offset)) = .ok expression
        rw [show index + 2 + offset = index + (offset + 2) by omega]
        exact answered (offset + 2) expression (by simpa using found)
      simp only [List.length_cons, branches, Plan.run_bind_eq_ok_iff, Setting.run_ask]
      exact ⟨condition, answered 0 condition rfl, value, answered 1 value rfl, _,
        inductionHypothesis remaining, rfl⟩

theorem run_conditional
    {setting : Setting}
    {operands : List Rule}
    {expressions : List Sql}
    (arguments : call.arguments = .list operands)
    (enough : 2 ≤ operands.length)
    (length : expressions.length = operands.length)
    (answered : Answered answer (setting.operandRequest none) expressions) :
    (conditional setting call).run answer =
      .ok (.cases (paired expressions).1 (paired expressions).2) := by
  simp only [conditional, Plan.run_bind_eq_ok_iff, Call.run_listedAtLeast_eq_ok_iff]
  refine ⟨operands, ⟨arguments, enough⟩, paired expressions, ?_, rfl⟩
  rw [← length]
  exact run_branches (by simpa using answered)

theorem run_comparison_untyped
    {operands : List Rule}
    {expressions : List Sql}
    (arguments : call.arguments = .list operands)
    (enough : 2 ≤ operands.length)
    (length : expressions.length = operands.length)
    (answered : Answered answer (Setting.untyped.operandRequest none) expressions) :
    (comparison .untyped call operator).run answer =
      .ok (.joined .and (adjacent operator expressions)) := by
  have unhinted : firstType? .untyped operands = none := by
    simp [firstType?]
  exact (run_comparison_eq_ok_iff operator _).mpr ⟨operands, expressions, arguments, enough,
    fun rule _ => Setting.admits_untyped _ rule, length, unhinted ▸ answered, rfl⟩

end Logic

namespace Arithmetic

variable {expressions : List Sql}

theorem run_terms_untyped
    (length : expressions.length = call.operands.length)
    (answered : Answered answer (Setting.untyped.operandRequest (some .number)) expressions) :
    (terms .untyped call).run answer = .ok expressions :=
  (run_terms_eq_ok_iff expressions).mpr
    ⟨fun rule _ => Setting.admits_untyped _ rule, length, answered⟩

theorem run_chain_untyped
    (operator : BinaryOp)
    (enough : 2 ≤ call.operands.length)
    (length : expressions.length = call.operands.length)
    (answered : Answered answer (Setting.untyped.operandRequest (some .number)) expressions) :
    (chain .untyped call operator).run answer = .ok (.group operator expressions) :=
  (run_chain_eq_ok_iff operator _).mpr
    ⟨enough, expressions, run_terms_untyped length answered, rfl⟩

/-- Several operands of a plus are added. -/
theorem add_eq_chain
    {first second : Rule}
    {rest : List Rule}
    (setting : Setting)
    (operands : call.operands = first :: second :: rest) :
    add setting call = chain setting call .add := by
  have counted : call.atLeast 1 = .done (first :: second :: rest) := by
    simp [Call.atLeast, operands]
  rw [add, counted]
  rfl

/-- Several operands of a minus are subtracted. -/
theorem subtract_eq_chain
    {first second : Rule}
    {rest : List Rule}
    (setting : Setting)
    (operands : call.operands = first :: second :: rest) :
    subtract setting call = chain setting call .subtract := by
  have counted : call.atLeast 1 = .done (first :: second :: rest) := by
    simp [Call.atLeast, operands]
  rw [subtract, counted]
  rfl

theorem run_subtract_single_untyped
    {operand : Rule}
    {inner : Sql}
    (operands : call.operands = [operand])
    (answered : answer (Setting.untyped.operandRequest (some .number) 0) = .ok inner) :
    (subtract .untyped call).run answer = .ok (negated operand inner) := by
  have counted : call.atLeast 1 = .done [operand] := by
    simp [Call.atLeast, operands]
  rw [subtract, counted]
  exact (run_minus_eq_ok_iff operand _).mpr
    ⟨Setting.admits_untyped _ operand, inner, answered, rfl⟩

theorem run_extremum_untyped
    (function : Function)
    (enough : 1 ≤ call.operands.length)
    (length : expressions.length = call.operands.length)
    (answered : Answered answer (Setting.untyped.operandRequest (some .number)) expressions) :
    (extremum .untyped call function).run answer = .ok (.call function expressions) :=
  (run_extremum_eq_ok_iff function _).mpr
    ⟨enough, expressions, run_terms_untyped length answered, rfl⟩

end Arithmetic

/-! ## Rules that compile -/

/-- Wherever it fits, the rule compiles to an expression as it should be. -/
def Target.Yields (target : Target) (operand : Operand) : Prop :=
  ∀ position hint, operand.rule.Fits position.depth target.maxDepth →
    ∃ expression, compileAt target.context operand.rule position .row hint = .ok expression ∧
      operand.good expression

namespace Target

variable {target : Target}

/-- An operation that is not too deep compiles to what its plan ends with. -/
theorem compileAt_operation_eq_ok_iff
    (schemaless : target.schema = none)
    (operator : Operator)
    (arguments : Rule)
    (position : Position)
    (hint : Option FieldType)
    (expression : Sql) :
    compileAt target.context (.operation operator.name arguments) position .row hint =
        .ok expression ↔
      position.depth ≤ target.maxDepth ∧
        (operator.plan target.dialect .untyped
          ⟨operator.name, arguments, position.operationPath operator.name⟩).run
          (OperandCompiler.answer (operandsAt target.context operator.name arguments position)) =
            .ok expression := by
  rw [compileAt_operation, Context.operation_eq_ok_iff, Context.apply_eq,
    custom_context_operator_name, Operator.ofName?_name]
  simp [context, schemaless]

/-- An operation compiles to what its plan ends with. -/
theorem compileAt_of_run_plan
    (schemaless : target.schema = none)
    {operator : Operator}
    {arguments : Rule}
    {position : Position}
    {hint : Option FieldType}
    {expression : Sql}
    (bound : position.depth ≤ target.maxDepth)
    (ended :
      (operator.plan target.dialect .untyped
        ⟨operator.name, arguments, position.operationPath operator.name⟩).run
        (OperandCompiler.answer (operandsAt target.context operator.name arguments position)) =
          .ok expression) :
    compileAt target.context (.operation operator.name arguments) position .row hint =
      .ok expression := by
  rw [compileAt_operation_eq_ok_iff schemaless]
  exact ⟨bound, ended⟩

/-- An operation yields what its plan makes of what its operands yield. -/
theorem yields_operation
    (schemaless : target.schema = none)
    {operator : Operator}
    {arguments : Rule}
    {operands : List Operand}
    {good : Sql → Prop}
    (hint : Option FieldType)
    (listed : arguments.operands = operands.map (·.rule))
    (each : ∀ operand ∈ operands, target.Yields operand)
    (ends : ∀ answer path expressions,
      Answered answer (Setting.untyped.operandRequest hint) expressions →
      List.Forall₂ Operand.good operands expressions →
      ∃ expression,
        (operator.plan target.dialect .untyped ⟨operator.name, arguments, path⟩).run answer =
            .ok expression ∧
          good expression) :
    target.Yields ⟨.operation operator.name arguments, good⟩ := by
  have untyped : Setting.mk target.context.schema .row = .untyped := by
    rw [context, schemaless]
  refine Context.yields_operation (target.custom_context_operator_name operator) hint listed each ?_
  rw [untyped]
  exact ends

end Target
end RuleClause
