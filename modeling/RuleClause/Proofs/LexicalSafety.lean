import RuleClause.Proofs.Compile.Acceptance
import RuleClause.Proofs.Lexical.Operator
import RuleClause.Proofs.Target

/-!
# Conditions are lexically safe

The text of a condition ends outside of literals, its brackets pair up, it opens
no comment, and its literals come from the rule.  This holds whatever the texts in
the rule are, as long as its fields have plain names and no custom operator writes
a part of the condition.
-/

namespace RuleClause

/-- A text occurs as a literal of a rule, or is empty. -/
def Rule.HoldsText (rule : Rule) (value : String) : Prop :=
  value = "" ∨ rule.Contains (.string value)

/-- The fields that a rule names have plain names. -/
def Rule.HasPlainNames (rule : Rule) : Prop :=
  ∀ (operator : Operator) arguments name, rule.Contains (.operation operator.name arguments) →
    .string name ∈ operator.fieldNames arguments.operands → IsPlainName name

section

variable {context : Context (Except Error)} {root : Rule}

/-- A variable that is read under a text can be negated. -/
theorem isSound_minus_of_compileAt_variable
    (builtin : ∀ operator arguments, root.Contains (.operation operator arguments) →
      context.custom operator = none)
    (plain : root.HasPlainNames)
    {rule : Rule}
    {position : Position}
    {scope : Scope}
    {hint : Option FieldType}
    {expression : Sql}
    (inside : root.Contains rule)
    (named : rule.variableName?.isSome = true)
    (compiled : compileAt context rule position scope hint = .ok expression) :
    (Sql.minus expression).IsSound context.dialect root.HoldsText := by
  cases rule with
  | operation operator arguments =>
      simp only [Rule.variableName?] at named
      split at named
      · rename_i same
        subst same
        rcases of_compileAt_operation compiled with
          ⟨_, _, registered, _⟩ | ⟨operator, _, same, ended⟩
        · simp [builtin "var" arguments inside] at registered
        · obtain rfl : Operator.var = operator := Operator.name_injective same
          refine (Sql.IsSound.of_run_var (fun name member => ?_) (fun value member => ?_) ended).2
            named
          · exact plain .var arguments name inside member
          · exact .inr (inside.trans (.of_mem_children member))
      · simp at named
  | null | bool | number | string | list => simp [Rule.variableName?] at named

/-- Behind every answer stands a rule inside of the operation, unless nothing does. -/
theorem exists_smaller_of_answer
    {operator : String}
    {arguments : Rule}
    {position : Position}
    {request : Request}
    {expression : Sql}
    (inside : root.Contains (.operation operator arguments))
    (answered :
      OperandCompiler.answer (operandsAt context operator arguments position) request =
        .ok expression) :
    expression = .null ∨
      ∃ rule place, sizeOf rule < sizeOf (Rule.operation operator arguments) ∧
        root.Contains rule ∧
        compileAt context rule place request.scope request.hint = .ok expression := by
  rcases of_answer_eq_ok answered with rfl | ⟨rule, place, picked, compiled⟩
  · exact .inl rfl
  · exact .inr ⟨rule, place, Selection.sizeOf_lt_of_pick? picked,
      inside.trans (Selection.contains_of_pick? picked), compiled⟩

/-- Whatever compiles is sound, with literals from the rule that it is part of. -/
theorem isSound_of_compileAt
    (builtin : ∀ operator arguments, root.Contains (.operation operator arguments) →
      context.custom operator = none)
    (plain : root.HasPlainNames)
    {rule : Rule}
    {position : Position}
    {scope : Scope}
    {hint : Option FieldType}
    {expression : Sql}
    (inside : root.Contains rule)
    (compiled : compileAt context rule position scope hint = .ok expression) :
    expression.IsSound context.dialect root.HoldsText := by
  match rule with
  | .null =>
      obtain rfl := Except.ok.inj compiled
      exact .null
  | .bool value =>
      obtain rfl := Except.ok.inj compiled
      exact .bool value
  | .number value =>
      obtain rfl := Except.ok.inj compiled
      exact .ofNumber value
  | .string value =>
      obtain rfl := Except.ok.inj compiled
      exact .ofText hint (.inr inside)
  | .list items =>
      obtain ⟨expressions, rfl, each⟩ := of_compileAt_list compiled
      refine .array fun inner member => ?_
      obtain ⟨item, found, place, compiledItem⟩ := each.exists_of_mem_right member
      exact isSound_of_compileAt builtin plain (inside.trans (.of_mem_children found))
        compiledItem
  | .operation operator arguments =>
      rcases of_compileAt_operation compiled with
        ⟨_, _, registered, _⟩ | ⟨operator, _, rfl, ended⟩
      · simp [builtin operator arguments inside] at registered
      · have operands : ∀ operand ∈ arguments.operands, root.Contains operand :=
          fun operand member => inside.trans (.of_mem_children member)
        refine .of_run_plan ?_ (.inl rfl) ?_ ?_ ?_ ended
        · intro request inner asked
          rcases exists_smaller_of_answer inside asked with
            rfl | ⟨part, place, smaller, contained, compiled⟩
          · exact .null
          · exact isSound_of_compileAt builtin plain contained compiled
        · intro name member
          exact plain operator arguments name inside member
        · intro value member
          exact .inr (operands _ member)
        · intro operand single named inner asked
          have found : arguments.operands[0]? = some operand := by
            rw [show arguments.operands = [operand] from single]
            rfl
          rw [Setting.operandRequest, answer_operand found] at asked
          exact isSound_minus_of_compileAt_variable builtin plain
            (operands operand (List.mem_of_getElem? found)) named asked
termination_by sizeOf rule
decreasing_by
  · exact Rule.sizeOf_child_lt found
  · subst_vars
    exact smaller

end

/--
The condition of a rule with plain names and without custom operators can be read
in its dialect: it ends outside of literals, its brackets are balanced, no comment
is opened, and each literal is a text of the rule or empty.
-/
theorem lexically_safe_of_condition
    (target : Target)
    (rule : Rule)
    (text : String)
    (compiled : target.condition (.rule rule) = .ok text)
    (builtin : ∀ operator arguments, rule.Contains (.operation operator arguments) →
      target.registry.has operator = false)
    (plain : rule.HasPlainNames) :
    ∃ lexemes, Lexeme.scan target.dialect.forms.quote text = some lexemes ∧
      Lexeme.Balanced lexemes ∧ Lexeme.Uncommented lexemes ∧
      ∀ value, .literal value ∈ lexemes → value = "" ∨ rule.Contains (.string value) := by
  obtain ⟨_, _, expression, _, ended, rfl⟩ := Target.exists_compileAt_of_condition compiled
  have unregistered : ∀ operator arguments, rule.Contains (.operation operator arguments) →
      target.context.custom operator = none := by
    intro operator arguments inside
    have absent := builtin operator arguments inside
    rw [← Target.isSome_custom_context] at absent
    simpa using absent
  obtain ⟨lexemes, reads, balanced, uncommented, permitted⟩ :=
    isSound_of_compileAt unregistered plain (.refl rule) ended
  refine ⟨lexemes, ?_, balanced, uncommented, permitted⟩
  have whole := reads [] (by simp)
  simpa [Target.context, Lexeme.scan, Lexeme.outside] using whole

/-- A comparison with a text that holds quotes, brackets and what opens comments elsewhere. -/
def trickyComparison : Rule :=
  .operation "!=" (.list
    [.operation "var" (.string "note"), .string "it's (-- \\ /* ['"])

theorem hasPlainNames_trickyComparison : trickyComparison.HasPlainNames := by
  intro operator arguments name contained member
  simp only [trickyComparison, Rule.Contains.operation_iff, Rule.operands, List.mem_cons,
    List.not_mem_nil, or_false, exists_eq_or_imp, exists_eq_left, Rule.Contains.string_iff,
    Rule.operation.injEq, reduceCtorEq] at contained
  rcases contained with ⟨same, rfl⟩ | ⟨same, rfl⟩
  · obtain rfl : operator = .notEqual := Operator.name_injective same
    simp [Operator.fieldNames] at member
  · obtain rfl : operator = .var := Operator.name_injective same
    obtain rfl : name = "note" := by simpa [Operator.fieldNames, Rule.operands] using member
    decide

theorem lexically_safe_trickyComparison :
    (Target.ofDialect .bigQuery).condition (.rule trickyComparison) =
      .ok "note != 'it\\'s (-- \\\\ /* [\\''" ∧
    ∃ lexemes, Lexeme.scan .backslash "note != 'it\\'s (-- \\\\ /* [\\''" = some lexemes ∧
      Lexeme.Balanced lexemes ∧ Lexeme.Uncommented lexemes ∧
      ∀ value, .literal value ∈ lexemes →
        value = "" ∨ trickyComparison.Contains (.string value) := by
  have compiled : (Target.ofDialect .bigQuery).condition (.rule trickyComparison) =
      .ok "note != 'it\\'s (-- \\\\ /* [\\''" := rfl
  exact ⟨compiled, lexically_safe_of_condition _ _ _ compiled (fun _ _ _ => rfl)
    hasPlainNames_trickyComparison⟩

end RuleClause
