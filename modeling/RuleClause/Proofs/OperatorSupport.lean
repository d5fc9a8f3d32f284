import RuleClause.Proofs.Compile.Acceptance
import RuleClause.Proofs.Target

/-!
# Unknown operators

A rule that gives a condition uses built-in and registered operators only, as far
as the condition depends on it.  Two kinds of operations are folded and say
nothing about what is inside of them.  Where reductions are written as aggregates,
the running value is recognised by its name, and what follows the name is not
looked at.
-/

namespace RuleClause

/-- A trail leads out of a place that compilations do not look at. -/
inductive Disregarded (dialect : Dialect) : List (Rule × Nat) → Prop
  /-- Inside of an operation that is folded. -/
  | folded
      {operation : Rule}
      {index : Nat}
      {trail : List (Rule × Nat)}
      (folds : operation.IsFolded) :
      Disregarded dialect ((operation, index) :: trail)
  /-- Behind the name of the running value, as a term of a reducer. -/
  | runningValue
      {value reducer arguments : Rule}
      {index number : Nat}
      {trail : List (Rule × Nat)}
      (aggregates : dialect.Aggregates)
      (running : Arrays.isAccumulator value = true) :
      Disregarded dialect
        ((value, index + 1) :: (reducer, number) ::
          (.operation Operator.reduce.name arguments, 1) :: trail)
  /-- Further inside. -/
  | deeper
      {step : Rule × Nat}
      {trail : List (Rule × Nat)}
      (outer : Disregarded dialect trail) :
      Disregarded dialect (step :: trail)

/-- What is known of a rule that a compilation has looked at, by the trail that leads to it. -/
inductive Examined (context : Context (Except Error)) : List (Rule × Nat) → Rule → Prop
  | accepted
      {scope : Scope}
      {trail : List (Rule × Nat)}
      {rule : Rule}
      (accepted : Accepted context scope rule) :
      Examined context trail rule
  | reducer
      {arguments rule : Rule}
      {trail : List (Rule × Nat)}
      (aggregates : context.dialect.Aggregates)
      (reducer : Accepted.Reducer context rule) :
      Examined context ((.operation Operator.reduce.name arguments, 1) :: trail) rule
  | runningValue
      {reducer arguments rule : Rule}
      {number : Nat}
      {trail : List (Rule × Nat)}
      (aggregates : context.dialect.Aggregates)
      (running : Arrays.isAccumulator rule = true) :
      Examined context
        ((reducer, number) :: (.operation Operator.reduce.name arguments, 1) :: trail) rule

namespace Arrays

/-- The running value is a variable, and its first operand is a text. -/
theorem of_isAccumulator
    {rule : Rule}
    (running : isAccumulator rule = true) :
    ∃ arguments, rule = .operation Operator.var.name arguments ∧
      ∀ operand, arguments.operands[0]? = some operand → operand.isLiteral = true := by
  cases rule with
  | operation operator arguments =>
      simp only [isAccumulator, Rule.variableName?, beq_iff_eq] at running
      split at running
      · rename_i named
        subst named
        refine ⟨arguments, rfl, fun operand found => ?_⟩
        unfold Rule.leadingText? at running
        split at running
        · obtain rfl : Rule.string _ = operand := by simpa [Rule.operands] using found
          rfl
        · obtain rfl : Rule.string _ = operand := by simpa [Rule.operands] using found
          rfl
        · simp at running
      · simp at running
  | null | bool | number | string | list => simp [isAccumulator, Rule.variableName?] at running

end Arrays

namespace Examined

variable {context : Context (Except Error)}

/-- What is directly inside an examined rule is examined, unless it is disregarded. -/
theorem inside
    {trail : List (Rule × Nat)}
    {parent child : Rule}
    {index : Nat}
    (examined : Examined context trail parent)
    (found : parent.children[index]? = some child)
    (regarded : ¬ Disregarded context.dialect ((parent, index) :: trail)) :
    Examined context ((parent, index) :: trail) child := by
  cases examined with
  | accepted accepted =>
      cases accepted with
      | literal plain =>
          cases parent with
          | list | operation => simp [Rule.isLiteral] at plain
          | null | bool | number | string => simp [Rule.children] at found
      | list each => exact .accepted (each child (List.mem_of_getElem? found))
      | @operation operator arguments _ _ _ compiled =>
          have unfolded : ¬ (Rule.operation operator arguments).IsFolded :=
            fun folds => regarded (.folded folds)
          rcases Accepted.operand_of_compileAt compiled unfolded found with
            accepted | ⟨leaves, ⟨_, accepted⟩ | ⟨aggregates, rfl, reducer⟩⟩
          · exact .accepted accepted
          · exact .accepted accepted
          · obtain ⟨rfl, _⟩ : index = 1 ∧ _ := leaves
            exact .reducer aggregates reducer
  | reducer aggregates reducer =>
      obtain ⟨combining, terms, rfl, each⟩ := reducer
      rcases each child (List.mem_of_getElem? found) with running | accepted
      · exact .runningValue aggregates running
      · exact .accepted accepted
  | runningValue aggregates running =>
      cases index with
      | zero =>
          obtain ⟨arguments, rfl, leading⟩ := Arrays.of_isAccumulator running
          have plain : Accepted context .reduction child := .literal (leading child found)
          exact .accepted plain
      | succ index => exact absurd (.runningValue aggregates running) regarded

/-- Every occurrence in a rule that compiles is examined, unless it is disregarded. -/
theorem of_occurs
    {rule node : Rule}
    {trail : List (Rule × Nat)}
    {position : Position}
    {scope : Scope}
    {hint : Option FieldType}
    {expression : Sql}
    (compiled : compileAt context rule position scope hint = .ok expression)
    (occurs : rule.Occurs trail node)
    (regarded : ¬ Disregarded context.dialect trail) :
    Examined context trail node := by
  induction occurs with
  | here => exact .accepted (.of_compileAt compiled)
  | inside outer found inductionHypothesis =>
      have outside := inductionHypothesis fun disregarded => regarded (.deeper disregarded)
      exact outside.inside found regarded

/-- The operator of an examined operation is built-in or custom. -/
theorem isSupported
    {trail : List (Rule × Nat)}
    {operator : String}
    {arguments : Rule}
    (examined : Examined context trail (.operation operator arguments)) :
    Operator.isBuiltin operator = true ∨ (context.custom operator).isSome = true := by
  have builtin : ∀ named : Operator, Operator.isBuiltin named.name = true := by
    intro named
    simp [Operator.isBuiltin]
  cases examined with
  | accepted accepted =>
      cases accepted with
      | literal plain => simp [Rule.isLiteral] at plain
      | operation compiled =>
          rcases of_compileAt_operation compiled with
            ⟨_, _, registered, _⟩ | ⟨named, _, rfl, _⟩
          · exact .inr (by simp [registered])
          · exact .inl (builtin named)
  | reducer aggregates reducer =>
      obtain ⟨combining, _, same, _⟩ := reducer
      obtain ⟨rfl, _⟩ := Rule.operation.inj same
      exact .inl (builtin combining)
  | runningValue aggregates running =>
      obtain ⟨_, same, _⟩ := Arrays.of_isAccumulator running
      obtain ⟨rfl, _⟩ := Rule.operation.inj same
      exact .inl (builtin .var)

end Examined

/--
When a rule gives a condition, every operation in it that is not disregarded has a
built-in or a registered operator.
-/
theorem isSupported_of_condition
    (target : Target)
    (rule : Rule)
    (text : String)
    (compiled : target.condition (.rule rule) = .ok text)
    (trail : List (Rule × Nat))
    (operator : String)
    (arguments : Rule)
    (occurs : rule.Occurs trail (.operation operator arguments))
    (regarded : ¬ Disregarded target.dialect trail) :
    Operator.isBuiltin operator = true ∨ target.registry.has operator = true := by
  obtain ⟨_, _, expression, _, compiled, _⟩ := Target.exists_compileAt_of_condition compiled
  rw [← Target.isSome_custom_context]
  exact (Examined.of_occurs compiled occurs regarded).isSupported

/-- A rule with a custom operator, beside a search that is folded over an unknown one. -/
def shoutingRule : Rule :=
  .operation "and" (.list
    [.operation "shout" (.list [.operation "var" (.string "name")]),
     .operation "in" (.list [.operation "bogus" (.list []), .list []])])

/-- A target that knows the custom operator and not the unknown one. -/
def shoutingTarget : Target :=
  ⟨.postgreSQL, none, Registry.empty.insert "shout" (.function "SHOUT") (by decide), 8⟩

theorem isSupported_beside_folded_search :
    shoutingTarget.condition (.rule shoutingRule) = .ok "(SHOUT(name) AND FALSE)" ∧
      (Operator.isBuiltin "shout" = true ∨ shoutingTarget.registry.has "shout" = true) := by
  have compiled :
      shoutingTarget.condition (.rule shoutingRule) = .ok "(SHOUT(name) AND FALSE)" := rfl
  have occurs : shoutingRule.Occurs [(shoutingRule, 0)]
      (.operation "shout" (.list [.operation "var" (.string "name")])) :=
    .inside .here rfl
  have regarded : ¬ Disregarded shoutingTarget.dialect [(shoutingRule, 0)] := by
    intro disregarded
    cases disregarded with
    | folded folds => simp [shoutingRule, Rule.IsFolded, Operator.name] at folds
    | deeper outer => cases outer
  exact ⟨compiled, isSupported_of_condition _ _ _ compiled _ _ _ occurs regarded⟩

/-- An operation that no target without custom operators knows. -/
def unknownOperation : Rule :=
  .operation "bogus" (.list [.bool true])

/-- A search for the unknown operation, through an empty list. -/
def foldedSearch : Rule :=
  .operation "in" (.list [unknownOperation, .list []])

/-- The truth of a list that holds the unknown operation. -/
def foldedTruth : Rule :=
  .operation "!!" (.list [.list [unknownOperation]])

/-- Both operations that are folded give a condition, whatever is inside of them. -/
theorem unknown_operator_in_folded_operations :
    ((Target.ofDialect .postgreSQL).condition (.rule foldedSearch) = .ok "FALSE" ∧
      foldedSearch.Contains unknownOperation) ∧
    ((Target.ofDialect .postgreSQL).condition (.rule foldedTruth) = .ok "TRUE" ∧
      foldedTruth.Contains unknownOperation) ∧
    Operator.isBuiltin "bogus" = false ∧
    (Target.ofDialect .postgreSQL).registry.has "bogus" = false := by
  have searched : foldedSearch.Contains unknownOperation :=
    .of_mem_children (by simp [foldedSearch, Rule.children, Rule.operands])
  have listed : foldedTruth.Contains (.list [unknownOperation]) :=
    .of_mem_children (by simp [foldedTruth, Rule.children, Rule.operands])
  have tested : foldedTruth.Contains unknownOperation :=
    listed.trans (.of_mem_children (by simp [Rule.children]))
  exact ⟨⟨rfl, searched⟩, ⟨rfl, tested⟩, by decide, rfl⟩

end RuleClause
