import RuleClause.Proofs.Fragment.Formula
import RuleClause.Proofs.NullTest.Value

/-!
# Logical rules

The clauses of this module are rules of fields, comparisons, connectives and negations, nested in
any way: a comparison may compare truth values, and a field may stand for one.  A clause has a
value of its own, and it is written in a shape: a connective with one operand as that operand,
and a comparison of three or more operands as a group of comparisons between neighbours.
-/

namespace RuleClause
namespace NullTest

open Reading
open Fragment (Comparison Connective Equality Identifier Writing)

/-- A logical rule. -/
inductive Clause where
  | field (name : Identifier) (writing : Writing)
  | equality (equality : Equality) (left right : Clause)
  | comparison (comparison : Comparison) (first second : Clause) (rest : List Clause)
  | connective (connective : Connective) (first : Clause) (rest : List Clause)
  | negation (operand : Clause) (writing : Writing)

/-- How an equality is written. -/
def equalityRelator (equality : Equality) : Relator :=
  ⟨equality.symbol, by cases equality <;> rfl⟩

/-- How a comparison is written. -/
def comparisonRelator (comparison : Comparison) : Relator :=
  ⟨comparison.symbol, by cases comparison <;> rfl⟩

namespace Shape

/-- Expressions with a connective between them; a single one stands by itself. -/
def joined (connective : Connective) (first : Shape) : List Shape → Shape
  | [] => first
  | second :: rest => .group connective first (second :: rest)

/-- Each expression compared with the next. -/
def neighbours (relator : Relator) : Shape → List Shape → List Shape
  | _, [] => []
  | first, second :: rest => .compare relator first second :: neighbours relator second rest

theorem sql_joined (connective : Connective) (first : Shape) (rest : List Shape) :
    (joined connective first rest).sql =
      .joined connective.symbol (first.sql :: rest.map sql) := by
  cases rest with
  | nil => rfl
  | cons second rest => rw [joined, sql, sqls_eq_map]; rfl

theorem map_sql_neighbours (relator : Relator) (first : Shape) (rest : List Shape) :
    (neighbours relator first rest).map sql =
      Logic.adjacent relator.val (first.sql :: rest.map sql) := by
  induction rest generalizing first with
  | nil => rfl
  | cons second rest inductionHypothesis =>
      rw [neighbours, List.map_cons, inductionHypothesis]
      rfl

end Shape

namespace Clause

mutual

/-- Clauses by their parts. -/
@[elab_as_elim, induction_eliminator]
theorem induction
    {motive : Clause → Prop}
    (field : ∀ name writing, motive (.field name writing))
    (equality : ∀ equality left right, motive left → motive right →
      motive (.equality equality left right))
    (comparison : ∀ comparison first second rest,
      (∀ clause ∈ first :: second :: rest, motive clause) →
        motive (.comparison comparison first second rest))
    (connective : ∀ connective first rest, (∀ clause ∈ first :: rest, motive clause) →
      motive (.connective connective first rest))
    (negation : ∀ operand writing, motive operand → motive (.negation operand writing)) :
    ∀ clause, motive clause
  | .field name writing => field name writing
  | .equality relation left right =>
      equality relation left right
        (induction field equality comparison connective negation left)
        (induction field equality comparison connective negation right)
  | .comparison relation first second rest =>
      comparison relation first second rest (List.forall_mem_cons.mpr
        ⟨induction field equality comparison connective negation first,
          List.forall_mem_cons.mpr
            ⟨induction field equality comparison connective negation second,
              inductionEach field equality comparison connective negation rest⟩⟩)
  | .connective symbol first rest =>
      connective symbol first rest (List.forall_mem_cons.mpr
        ⟨induction field equality comparison connective negation first,
          inductionEach field equality comparison connective negation rest⟩)
  | .negation operand writing =>
      negation operand writing (induction field equality comparison connective negation operand)

theorem inductionEach
    {motive : Clause → Prop}
    (field : ∀ name writing, motive (.field name writing))
    (equality : ∀ equality left right, motive left → motive right →
      motive (.equality equality left right))
    (comparison : ∀ comparison first second rest,
      (∀ clause ∈ first :: second :: rest, motive clause) →
        motive (.comparison comparison first second rest))
    (connective : ∀ connective first rest, (∀ clause ∈ first :: rest, motive clause) →
      motive (.connective connective first rest))
    (negation : ∀ operand writing, motive operand → motive (.negation operand writing)) :
    ∀ clauses : List Clause, ∀ clause ∈ clauses, motive clause
  | [] => List.forall_mem_nil _
  | first :: rest => List.forall_mem_cons.mpr
      ⟨induction field equality comparison connective negation first,
        inductionEach field equality comparison connective negation rest⟩

end

mutual

/-- A clause as a rule. -/
def toRule : Clause → Rule
  | .field name writing => .operation Operator.var.name (writing.arguments [.string name.val])
  | .equality relation left right =>
      .operation relation.operator.name (.list [left.toRule, right.toRule])
  | .comparison relation first second rest =>
      .operation relation.operator.name (.list (first.toRule :: second.toRule :: toRules rest))
  | .connective symbol first rest =>
      .operation symbol.operator.name (.list (first.toRule :: toRules rest))
  | .negation operand writing =>
      .operation Operator.not.name (writing.arguments [operand.toRule])

/-- Clauses as rules, one by one. -/
def toRules : List Clause → List Rule
  | [] => []
  | first :: rest => first.toRule :: toRules rest

end

mutual

/-- The shape in which a clause is written. -/
def shape : Clause → Shape
  | .field name _ => .column name
  | .equality relation left right => .compare (equalityRelator relation) left.shape right.shape
  | .comparison relation first second rest =>
      .joined .and (.compare (comparisonRelator relation) first.shape second.shape)
        (Shape.neighbours (comparisonRelator relation) second.shape (shapes rest))
  | .connective symbol first rest => .joined symbol first.shape (shapes rest)
  | .negation operand _ => .not operand.shape

/-- The shapes of clauses, one by one. -/
def shapes : List Clause → List Shape
  | [] => []
  | first :: rest => first.shape :: shapes rest

end

/--
A negation is the outermost operation of a clause, or that of an operand which is written without
parentheses: a side of a comparison of two operands, or the single operand of a connective.
-/
def Exposed : Clause → Prop
  | .field .. => False
  | .equality _ left right => left.Exposed ∨ right.Exposed
  | .comparison _ first second [] => first.Exposed ∨ second.Exposed
  | .comparison _ _ _ (_ :: _) => False
  | .connective _ first [] => first.Exposed
  | .connective _ _ (_ :: _) => False
  | .negation .. => True

theorem toRules_eq_map (clauses : List Clause) : toRules clauses = clauses.map toRule := by
  induction clauses with
  | nil => rfl
  | cons first rest inductionHypothesis => simp [toRules, inductionHypothesis]

theorem shapes_eq_map (clauses : List Clause) : shapes clauses = clauses.map shape := by
  induction clauses with
  | nil => rfl
  | cons first rest inductionHypothesis => simp [shapes, inductionHypothesis]

theorem exposed_shape_iff (clause : Clause) : clause.shape.Exposed ↔ clause.Exposed := by
  induction clause with
  | field name writing => rfl
  | equality equality left right inductionLeft inductionRight =>
      exact or_congr inductionLeft inductionRight
  | comparison comparison first second rest each =>
      simp only [List.forall_mem_cons] at each
      cases rest with
      | nil => exact or_congr each.1 each.2.1
      | cons third rest => rfl
  | connective connective first rest each =>
      simp only [List.forall_mem_cons] at each
      cases rest with
      | nil => exact each.1
      | cons second rest => rfl
  | negation operand writing => rfl

end Clause

/-! ## Values -/

namespace Database

variable {α : Type} (database : Database α)

/-- Values with a connective between them; a single one stands for itself. -/
def connect (connective : Connective) (first : Option α) : List (Option α) → Option α
  | [] => first
  | second :: rest =>
      (connective.apply ((first :: second :: rest).map (·.map database.truth))).map database.ofTruth

/-- Each value compared with the next. -/
def relateEach (operator : BinaryOp) : Option α → List (Option α) → List (Option α)
  | _, [] => []
  | first, second :: rest =>
      database.relate operator first second :: relateEach operator second rest

variable {database}

/-- Truths are joined from the left as they are all at once. -/
theorem foldl_both (connective : Connective) (truth : Option Bool) (rest : List (Option α)) :
    rest.foldl (database.both connective) (truth.map database.ofTruth) =
      ((rest.map (·.map database.truth)).foldl connective.join truth).map database.ofTruth := by
  induction rest generalizing truth with
  | nil => rfl
  | cons second rest inductionHypothesis =>
      have same : (truth.map database.ofTruth).map database.truth = truth := by
        cases truth <;> simp [database.truth_ofTruth]
      rw [List.foldl_cons, both, same, inductionHypothesis]
      rfl

theorem foldl_both_eq_connect
    (connective : Connective)
    (first : Option α)
    (rest : List (Option α)) :
    rest.foldl (database.both connective) first = database.connect connective first rest := by
  cases rest with
  | nil => rfl
  | cons second rest =>
      rw [List.foldl_cons, both, foldl_both, connect, List.map_cons, List.map_cons,
        ← Fragment.foldl_join, List.foldl_cons]

end Database

namespace Shape

variable {α : Type} {database : Database α} {row : String → Option α}

theorem value_joined (connective : Connective) (first : Shape) (rest : List Shape) :
    (joined connective first rest).value database row =
      database.connect connective (first.value database row) (rest.map (value database row)) := by
  cases rest with
  | nil => rfl
  | cons second rest =>
      rw [joined, value, values_eq_map, Database.foldl_both_eq_connect]

theorem map_value_neighbours (relator : Relator) (first : Shape) (rest : List Shape) :
    (neighbours relator first rest).map (value database row) =
      database.relateEach relator.val (first.value database row)
        (rest.map (value database row)) := by
  induction rest generalizing first with
  | nil => rfl
  | cons second rest inductionHypothesis =>
      rw [neighbours, List.map_cons, inductionHypothesis]
      rfl

end Shape

namespace Clause

section

variable {α : Type} (database : Database α) (row : String → Option α)

mutual

/-- The value of a clause; `none` is null. -/
def value : Clause → Option α
  | .field name _ => row name.val
  | .equality relation left right => database.relate relation.symbol left.value right.value
  | .comparison relation first second rest =>
      database.connect .and (database.relate relation.symbol first.value second.value)
        (database.relateEach relation.symbol second.value (values rest))
  | .connective symbol first rest => database.connect symbol first.value (values rest)
  | .negation operand _ => database.negate operand.value

/-- The values of clauses, one by one. -/
def values : List Clause → List (Option α)
  | [] => []
  | first :: rest => first.value :: values rest

end

variable {database row}

theorem values_eq_map (clauses : List Clause) :
    values database row clauses = clauses.map (value database row) := by
  induction clauses with
  | nil => rfl
  | cons first rest inductionHypothesis => simp [values, inductionHypothesis]

theorem map_value_shapes
    {clauses : List Clause}
    (each : ∀ clause ∈ clauses, clause.shape.value database row = clause.value database row) :
    (shapes clauses).map (Shape.value database row) = values database row clauses := by
  rw [shapes_eq_map, values_eq_map, List.map_map]
  exact List.map_congr_left each

/-- The shape of a clause has the value of the clause. -/
theorem value_shape (clause : Clause) :
    clause.shape.value database row = clause.value database row := by
  induction clause with
  | field name writing => rfl
  | equality relation left right inductionLeft inductionRight =>
      rw [shape, Shape.value, inductionLeft, inductionRight]
      rfl
  | comparison relation first second rest each =>
      simp only [List.forall_mem_cons] at each
      rw [shape, Shape.value_joined, Shape.map_value_neighbours, Shape.value, each.1, each.2.1,
        map_value_shapes each.2.2]
      rfl
  | connective symbol first rest each =>
      simp only [List.forall_mem_cons] at each
      rw [shape, Shape.value_joined, each.1, map_value_shapes each.2]
      rfl
  | negation operand writing inductionHypothesis =>
      rw [shape, Shape.value, inductionHypothesis]
      rfl

end

/-! ## Compiling -/

/-- A clause with the expression that it should compile to. -/
def operand (clause : Clause) : Operand :=
  ⟨clause.toRule, (· = clause.shape.sql)⟩

theorem toRule_eq_operation (clause : Clause) :
    ∃ operator arguments, clause.toRule = .operation operator arguments := by
  cases clause <;> exact ⟨_, _, rfl⟩

theorem eq_map_of_good
    {clauses : List Clause}
    {sqls : List Sql}
    (suit : List.Forall₂ Operand.good (clauses.map operand) sqls) :
    sqls = (clauses.map shape).map Shape.sql := by
  rw [List.forall₂_map_left_iff] at suit
  induction suit with
  | nil => rfl
  | cons head _ inductionHypothesis =>
      rw [List.map_cons, List.map_cons, ← inductionHypothesis, head]

theorem toRule_ne_null (clause : Clause) : clause.toRule ≠ .null := by
  obtain ⟨_, _, operation⟩ := clause.toRule_eq_operation
  simp [operation]

theorem map_rule_operand (clauses : List Clause) :
    toRules clauses = (clauses.map operand).map (·.rule) := by
  rw [toRules_eq_map, List.map_map]
  rfl

variable {target : Target}

/-- Every clause compiles to the expression of its shape. -/
theorem yields (schemaless : target.schema = none) (clause : Clause) :
    target.Yields clause.operand := by
  induction clause with
  | field name writing => exact Fragment.yields_column schemaless name writing
  | equality relation left right inductionLeft inductionRight =>
      have listed : (Rule.list [left.toRule, right.toRule]).operands =
          [left.operand, right.operand].map (·.rule) :=
        rfl
      refine Target.yields_operation schemaless none listed
        (by simp [inductionLeft, inductionRight]) ?_
      intro answer path sqls answered suit
      obtain ⟨_, _, rfl, rfl, rfl⟩ := Operand.eq_pair_of_good suit
      refine ⟨_, ?_, rfl⟩
      rw [Fragment.plan_equality]
      exact Logic.run_equality_untyped rfl left.toRule_ne_null right.toRule_ne_null answered
  | comparison relation first second rest each =>
      have listed := map_rule_operand (first :: second :: rest)
      refine Target.yields_operation schemaless none listed (by simpa using each) ?_
      intro answer path sqls answered suit
      obtain rfl := eq_map_of_good suit
      have written : (Clause.comparison relation first second rest).shape.sql =
          .joined .and (Logic.adjacent relation.symbol
            (((first :: second :: rest).map shape).map Shape.sql)) := by
        rw [shape, Shape.sql_joined, Shape.map_sql_neighbours, shapes_eq_map]
        rfl
      refine ⟨_, ?_, rfl⟩
      rw [Fragment.plan_comparison, written]
      exact Logic.run_comparison_untyped rfl (Nat.le_add_left 2 _) (by simp [toRules_eq_map])
        answered
  | connective symbol first rest each =>
      have listed := map_rule_operand (first :: rest)
      refine Target.yields_operation schemaless none listed (by simpa using each) ?_
      intro answer path sqls answered suit
      obtain rfl := eq_map_of_good suit
      refine ⟨_, ?_, rfl⟩
      rw [Fragment.plan_connective]
      refine (Logic.run_connective_eq_ok_iff _ _).mpr
        ⟨_, _, rfl, Nat.le_add_left 1 _, by simp [toRules_eq_map], answered, ?_⟩
      rw [shape, Shape.sql_joined, shapes_eq_map]
      rfl
  | negation operand writing inductionHypothesis =>
      have single : (writing.arguments [operand.toRule]).operands = [operand.toRule] := by
        obtain ⟨_, _, operation⟩ := operand.toRule_eq_operation
        exact writing.operands_arguments (by simp [operation])
      have listed : (writing.arguments [operand.toRule]).operands =
          [operand.operand].map (·.rule) :=
        single
      refine Target.yields_operation schemaless none listed (by simpa using inductionHypothesis) ?_
      intro answer path sqls answered suit
      obtain ⟨_, rfl, rfl⟩ := Operand.eq_singleton_of_good suit
      exact ⟨_, (Logic.run_negation_eq_ok_iff _).mpr
        ⟨operand.toRule, _, single, answered 0 _ rfl, rfl⟩, rfl⟩

end Clause

end NullTest
end RuleClause
