import RuleClause.Proofs.Compile.Success

/-!
# Rules that compile wherever they fit

A rule yields an expression when it compiles at every place that is not too deep for it.  An
operation yields what its plan makes of what its operands yield.
-/

namespace RuleClause

/-- A rule with what its expression should be like. -/
structure Operand where
  /-- The rule. -/
  rule : Rule
  /-- What its expression should be like. -/
  good : Sql → Prop

namespace Operand

theorem eq_singleton_of_good
    {operand : Operand}
    {expressions : List Sql}
    (suit : List.Forall₂ Operand.good [operand] expressions) :
    ∃ expression, expressions = [expression] ∧ operand.good expression := by
  obtain ⟨expression, _, suits, rest, rfl⟩ := List.forall₂_cons_left_iff.mp suit
  obtain rfl := List.forall₂_nil_left_iff.mp rest
  exact ⟨expression, rfl, suits⟩

theorem eq_pair_of_good
    {first second : Operand}
    {expressions : List Sql}
    (suit : List.Forall₂ Operand.good [first, second] expressions) :
    ∃ left right, expressions = [left, right] ∧ first.good left ∧ second.good right := by
  obtain ⟨left, _, suitsLeft, rest, rfl⟩ := List.forall₂_cons_left_iff.mp suit
  obtain ⟨right, rfl, suitsRight⟩ := eq_singleton_of_good rest
  exact ⟨left, right, rfl, suitsLeft, suitsRight⟩

end Operand

/-- Operands that are answered one by one, each in a way that is good for it. -/
theorem exists_answered
    {answer : Request → Except Error Sql}
    {ι : Type}
    {items : List ι}
    {request : Nat → Request}
    {good : ι → Sql → Prop}
    (each : ∀ index item, items[index]? = some item →
      ∃ expression, answer (request index) = .ok expression ∧ good item expression) :
    ∃ expressions, Answered answer request expressions ∧
      List.Forall₂ good items expressions := by
  induction items generalizing request with
  | nil => exact ⟨[], .nil, .nil⟩
  | cons item rest inductionHypothesis =>
      obtain ⟨first, answered, suits⟩ := each 0 item rfl
      have later : ∀ index other, rest[index]? = some other → ∃ expression,
          answer (request (index + 1)) = .ok expression ∧ good other expression :=
        fun index other found => each (index + 1) other (by simpa using found)
      obtain ⟨others, remaining, suit⟩ := inductionHypothesis later
      exact ⟨first :: others, (Answered.cons_iff first others).mpr ⟨answered, remaining⟩,
        .cons suits suit⟩

namespace Context

variable {context : Context (Except Error)} {scope : Scope}

/-- Wherever it fits, the rule compiles in a scope to an expression as it should be. -/
def Yields (context : Context (Except Error)) (scope : Scope) (operand : Operand) : Prop :=
  ∀ position hint, operand.rule.Fits position.depth context.maxDepth →
    ∃ expression, compileAt context operand.rule position scope hint = .ok expression ∧
      operand.good expression

/-- An operation yields what its plan makes of what its operands yield. -/
theorem yields_operation
    {operator : Operator}
    {arguments : Rule}
    {operands : List Operand}
    {good : Sql → Prop}
    (builtin : context.custom operator.name = none)
    (hint : Option FieldType)
    (listed : arguments.operands = operands.map (·.rule))
    (each : ∀ operand ∈ operands, context.Yields scope operand)
    (ends : ∀ answer path expressions,
      Answered answer (Setting.operandRequest ⟨context.schema, scope⟩ hint) expressions →
      List.Forall₂ Operand.good operands expressions →
      ∃ expression,
        (operator.plan context.dialect ⟨context.schema, scope⟩
          ⟨operator.name, arguments, path⟩).run answer = .ok expression ∧
          good expression) :
    context.Yields scope ⟨.operation operator.name arguments, good⟩ := by
  intro position outerHint fits
  obtain ⟨bound, inner⟩ := (Rule.Fits.operation_iff _ _).mp fits
  have answers : ∀ index operand, operands[index]? = some operand → ∃ expression,
      OperandCompiler.answer (operandsAt context operator.name arguments position)
          (Setting.operandRequest ⟨context.schema, scope⟩ hint index) = .ok expression ∧
        operand.good expression := by
    intro index operand found
    have foundRule : arguments.operands[index]? = some operand.rule := by
      simp [listed, found]
    have within := inner operand.rule (List.mem_of_getElem? foundRule)
    rw [← position.operand_depth operator.name arguments index] at within
    rw [Setting.operandRequest, answer_operand foundRule]
    exact each operand (List.mem_of_getElem? found) _ hint within
  obtain ⟨expressions, answered, suit⟩ := exists_answered answers
  obtain ⟨expression, ended, holds⟩ := ends _ _ expressions answered suit
  exact ⟨expression, (compileAt_operator_eq_ok_iff builtin _ _ _ _ _).mpr ⟨bound, ended⟩, holds⟩

end Context
end RuleClause
