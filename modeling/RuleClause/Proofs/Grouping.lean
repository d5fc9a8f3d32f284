import RuleClause.Proofs.Compile.WithoutSchema
import RuleClause.Proofs.Fragment.Term
import RuleClause.Proofs.Grouping.Chain

/-!
# What a condition tells about grouping

Without a schema, an expression with two operands for each operator compiles to the
text of its chain.  So its rule can be told from its condition exactly if no
comparison stands right inside of another; for any other rule there is a second one
with the same condition.
-/

namespace RuleClause
namespace Grouping

open Fragment (Calculation)

/-- The operator of a relation. -/
def Relation.operator : Relation → Operator
  | .equal => .equal
  | .notEqual => .notEqual
  | .less => .less
  | .lessEqual => .lessEqual
  | .greater => .greater
  | .greaterEqual => .greaterEqual

namespace Tree

/-- A tree as a rule. -/
def toRule : Tree → Rule
  | .field name => .operation Operator.var.name (.string name.val)
  | .calculation operator left right =>
      .operation operator.operator.name (.list [left.toRule, right.toRule])
  | .relation operator left right =>
      .operation operator.operator.name (.list [left.toRule, right.toRule])

/-- A tree as an SQL expression. -/
def sql : Tree → Sql
  | .field name => .column name.val
  | .calculation operator left right => .group operator.symbol [left.sql, right.sql]
  | .relation operator left right => .binary operator.symbol left.sql right.sql

/-- The number of levels below the operation of a tree. -/
def height : Tree → Nat
  | .field _ => 0
  | .calculation _ left right | .relation _ left right => max left.height right.height + 1

theorem exists_toRule_eq_operation (tree : Tree) :
    ∃ operator arguments, tree.toRule = .operation operator arguments := by
  cases tree <;> exact ⟨_, _, rfl⟩

end Tree

theorem Relation.operator_name_inj {first second : Relation}
    (same : first.operator.name = second.operator.name) :
    first = second := by
  cases first <;> cases second <;> first | rfl | exact absurd same (by decide)

theorem calculation_operator_name_inj {first second : Calculation}
    (same : first.operator.name = second.operator.name) :
    first = second := by
  cases first <;> cases second <;> first | rfl | exact absurd same (by decide)

theorem calculation_operator_name_ne (calculation : Calculation) (relation : Relation) :
    calculation.operator.name ≠ relation.operator.name := by
  cases calculation <;> cases relation <;> decide

/-- Different trees are different rules. -/
theorem Tree.toRule_injective {tree other : Tree} (same : tree.toRule = other.toRule) :
    tree = other := by
  induction tree generalizing other with
  | field name =>
      cases other with
      | field => exact congrArg Tree.field (Subtype.ext (by simpa [toRule] using same))
      | calculation | relation => simp [toRule] at same
  | calculation operator left right inductionLeft inductionRight =>
      cases other with
      | field => simp [toRule] at same
      | calculation =>
          simp only [toRule, Rule.operation.injEq, Rule.list.injEq, List.cons.injEq] at same
          rw [calculation_operator_name_inj same.1, inductionLeft same.2.1,
            inductionRight same.2.2.1]
      | relation =>
          exact absurd (Rule.operation.inj same).1 (calculation_operator_name_ne _ _)
  | relation operator left right inductionLeft inductionRight =>
      cases other with
      | field => simp [toRule] at same
      | calculation =>
          exact absurd (Rule.operation.inj same).1.symm (calculation_operator_name_ne _ _)
      | relation =>
          simp only [toRule, Rule.operation.injEq, Rule.list.injEq, List.cons.injEq] at same
          rw [Relation.operator_name_inj same.1, inductionLeft same.2.1,
            inductionRight same.2.2.1]

/-! ## Compiling -/

/-- Asks for two operands and combines them. -/
def both (hint : Option FieldType) (combine : Sql → Sql → Sql) : Plan Sql := do
  let left ← Setting.untyped.ask 0 hint
  let right ← Setting.untyped.ask 1 hint
  return combine left right

theorem plan_calculation
    (dialect : Dialect)
    (calculation : Calculation)
    (name : String)
    (path : Path)
    (left right : Rule) :
    calculation.operator.plan dialect .untyped ⟨name, .list [left, right], path⟩ =
      both (some .number) fun left right => .group calculation.symbol [left, right] := by
  cases calculation <;> rfl

theorem equality_operations
    (symbol : BinaryOp)
    (nullTest : Test)
    (name left right : String)
    (path : Path)
    (leftArguments rightArguments : Rule) :
    Logic.equality .untyped
        ⟨name, .list [.operation left leftArguments, .operation right rightArguments], path⟩
        symbol nullTest =
      both none (.binary symbol) := by
  simp [Logic.equality, Logic.equalityOf, both, Call.pair, Call.operands, Rule.operands,
    Setting.gateEach, Setting.gate, Setting.checkAgainst, bind, Plan.bind]

theorem plan_relation
    (dialect : Dialect)
    (relation : Relation)
    (name : String)
    (path : Path)
    (left right : Tree) :
    relation.operator.plan dialect .untyped ⟨name, .list [left.toRule, right.toRule], path⟩ =
      both none (.binary relation.symbol) := by
  obtain ⟨first, firstArguments, leftRule⟩ := left.exists_toRule_eq_operation
  obtain ⟨second, secondArguments, rightRule⟩ := right.exists_toRule_eq_operation
  rw [leftRule, rightRule]
  cases relation with
  | equal | notEqual => exact equality_operations _ _ _ _ _ _ _ _
  | less | lessEqual | greater | greaterEqual => rfl

section

variable {target : Target}

/-- An operation that asks for two operands compiles when it is not too deep and both do. -/
theorem compileAt_both_eq_ok_iff
    (schemaless : target.schema = none)
    {operator : Operator}
    {left right : Rule}
    {hint : Option FieldType}
    {combine : Sql → Sql → Sql}
    (planned : ∀ path, operator.plan target.dialect .untyped
      ⟨operator.name, .list [left, right], path⟩ = both hint combine)
    (position : Position)
    (outer : Option FieldType)
    (expression : Sql) :
    compileAt target.context (.operation operator.name (.list [left, right])) position .row outer =
        .ok expression ↔
      position.depth ≤ target.maxDepth ∧ ∃ leftSide rightSide,
        compileAt target.context left (position.argument operator.name (some 0)) .row hint =
          .ok leftSide ∧
        compileAt target.context right (position.argument operator.name (some 1)) .row hint =
          .ok rightSide ∧
        combine leftSide rightSide = expression := by
  have answers (hint : Option FieldType) :
      OperandCompiler.answer (operandsAt target.context operator.name (.list [left, right]) position)
          ⟨.operand 0, .row, hint⟩ =
        compileAt target.context left (position.argument operator.name (some 0)) .row hint ∧
      OperandCompiler.answer (operandsAt target.context operator.name (.list [left, right]) position)
          ⟨.operand 1, .row, hint⟩ =
        compileAt target.context right (position.argument operator.name (some 1)) .row hint :=
    ⟨answer_operand rfl .row hint, answer_operand rfl .row hint⟩
  rw [Target.compileAt_operation_eq_ok_iff schemaless, planned]
  simp only [both, Plan.run_bind_eq_ok_iff, Setting.run_ask, Setting.operandRequest, answers,
    Plan.run_pure, Except.ok.injEq, exists_and_left]

/-- Two expressions are found and combined as soon as the deeper one is not too deep. -/
theorem fits_both_iff
    {depth leftHeight rightHeight limit : Nat}
    {left right expression : Sql}
    {combine : Sql → Sql → Sql} :
    (depth ≤ limit ∧ ∃ leftSide rightSide,
      (depth + 1 + leftHeight ≤ limit ∧ left = leftSide) ∧
      (depth + 1 + rightHeight ≤ limit ∧ right = rightSide) ∧
      combine leftSide rightSide = expression) ↔
      depth + (max leftHeight rightHeight + 1) ≤ limit ∧ combine left right = expression := by
  constructor
  · rintro ⟨_, _, _, ⟨fitsLeft, rfl⟩, ⟨fitsRight, rfl⟩, rfl⟩
    exact ⟨by omega, rfl⟩
  · rintro ⟨fits, rfl⟩
    exact ⟨by omega, _, _, ⟨by omega, rfl⟩, ⟨by omega, rfl⟩, rfl⟩

/-- A tree compiles to its expression as soon as it is not too deep. -/
theorem Tree.compileAt_toRule_eq_ok_iff
    (schemaless : target.schema = none)
    (tree : Tree)
    (position : Position)
    (hint : Option FieldType)
    (expression : Sql) :
    compileAt target.context tree.toRule position .row hint = .ok expression ↔
      position.depth + tree.height ≤ target.maxDepth ∧ tree.sql = expression := by
  induction tree generalizing position hint expression with
  | field name =>
      rw [toRule, Target.compileAt_operation_eq_ok_iff schemaless, Operator.plan,
        Reference.run_var_untyped rfl name.property.1, Except.ok.injEq]
      rfl
  | calculation operator left right inductionLeft inductionRight =>
      rw [toRule, compileAt_both_eq_ok_iff schemaless fun path => plan_calculation _ _ _ path _ _]
      simp only [inductionLeft, inductionRight, height, sql, Position.argument]
      exact fits_both_iff
  | relation operator left right inductionLeft inductionRight =>
      rw [toRule, compileAt_both_eq_ok_iff schemaless fun path => plan_relation _ _ _ path _ _]
      simp only [inductionLeft, inductionRight, height, sql, Position.argument]
      exact fits_both_iff

end

/-! ## Texts -/

/-- The expression of a tree is written as its chain, in every dialect. -/
theorem Tree.toList_render_sql (dialect : Dialect) (tree : Tree) :
    (tree.sql.render dialect).toList = tree.chain.write := by
  induction tree with
  | field name => rfl
  | calculation operator left right inductionLeft inductionRight =>
      simp [sql, Sql.render, Sql.renderAll, Dialect.between, Dialect.parenthesized, chain,
        Chain.write, Atom.write, spaced, inductionLeft, inductionRight]
  | relation operator left right inductionLeft inductionRight =>
      simp [sql, Sql.render, Dialect.between, chain, Chain.write_join, spaced, inductionLeft,
        inductionRight]

/-- A target without schema and custom operators, with a limit on nesting. -/
def limited (dialect : Dialect) (maxDepth : Nat) : Target :=
  (Target.ofDialect dialect).withMaxDepth maxDepth

/-- The condition of a tree is the text of its chain. -/
theorem Tree.condition_eq_ok_iff
    (dialect : Dialect)
    (maxDepth : Nat)
    (tree : Tree)
    (text : String) :
    (limited dialect maxDepth).condition (.rule tree.toRule) = .ok text ↔
      tree.height ≤ maxDepth ∧ tree.chain.write = text.toList := by
  have compiled (expression : Sql) :
      (limited dialect maxDepth).context.compile tree.toRule = .ok expression ↔
        tree.height ≤ maxDepth ∧ tree.sql = expression := by
    have schemaless : (limited dialect maxDepth).schema = none := rfl
    have whole := tree.compileAt_toRule_eq_ok_iff schemaless .start none expression
    have depth : Position.start.depth + tree.height = tree.height := Nat.zero_add _
    obtain ⟨operator, arguments, operation⟩ := tree.exists_toRule_eq_operation
    rw [depth, operation] at whole
    rw [operation]
    exact whole
  rw [Target.condition_rule_eq_ok_iff]
  constructor
  · rintro ⟨expression, ended, rfl⟩
    obtain ⟨fits, rfl⟩ := (compiled expression).mp ended
    exact ⟨fits, (tree.toList_render_sql dialect).symm⟩
  · rintro ⟨fits, written⟩
    refine ⟨tree.sql, (compiled tree.sql).mpr ⟨fits, rfl⟩, ?_⟩
    rw [← String.toList_inj, ← written]
    exact tree.toList_render_sql dialect

/--
The rule of a tree can be told from its condition, whatever the limit on nesting is,
exactly if no comparison in it stands right inside of another.
-/
theorem condition_determines_rule_iff_grouped (dialect : Dialect) (tree : Tree) :
    (∀ (maxDepth : Nat) (other : Tree) (text : String),
      (limited dialect maxDepth).condition (.rule tree.toRule) = .ok text →
      (limited dialect maxDepth).condition (.rule other.toRule) = .ok text →
        other.toRule = tree.toRule) ↔
      tree.Grouped := by
  constructor
  · intro determined
    by_contra ungrouped
    obtain ⟨other, differs, same⟩ := Tree.exists_ne_of_not_grouped ungrouped
    have rules : other.toRule = tree.toRule := by
      -- A limit that both trees keep.
      refine determined (max tree.height other.height) other (.ofList tree.chain.write) ?_ ?_
      · rw [Tree.condition_eq_ok_iff]
        exact ⟨Nat.le_max_left _ _, String.toList_ofList.symm⟩
      · rw [Tree.condition_eq_ok_iff, same]
        exact ⟨Nat.le_max_right _ _, String.toList_ofList.symm⟩
    exact differs (Tree.toRule_injective rules)
  · intro grouped maxDepth other text compiled otherCompiled
    rw [Tree.condition_eq_ok_iff] at compiled otherCompiled
    have chains : other.chain = tree.chain :=
      Chain.write_injective (otherCompiled.2.trans compiled.2.symm)
    rw [grouped.eq_of_chain_eq chains]

/-- Two comparisons one inside of the other, grouped from the left and from the right. -/
example (dialect : Dialect) :
    let name (text : String) : Rule := .operation "var" (.string text)
    let equal (left right : Rule) : Rule := .operation "==" (.list [left, right])
    (limited dialect 2).condition (.rule (equal (equal (name "a") (name "b")) (name "c"))) =
        .ok "a = b = c" ∧
      (limited dialect 2).condition (.rule (equal (name "a") (equal (name "b") (name "c")))) =
        .ok "a = b = c" := by
  cases dialect <;> decide +kernel

end Grouping
end RuleClause
