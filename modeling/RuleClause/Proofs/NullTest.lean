import RuleClause.Proofs.NullTest.Clause
import RuleClause.Proofs.Reading.Rows

/-!
# Tests for null and what they are about

An equality with null becomes a test that stands behind its operand.  Where the operand ends with
a negation that no parentheses enclose, the test is read as a part of what is negated; everywhere
else it is about the operand as a whole.
-/

namespace RuleClause
namespace NullTest

open Reading
open Fragment (Equality Writing)

/-- The equality of a clause and null, with null on either side. -/
def testRule (equality : Equality) (clause : Clause) (nullFirst : Bool) : Rule :=
  .operation equality.operator.name
    (.list (if nullFirst then [.null, clause.toRule] else [clause.toRule, .null]))

/-- The text of a test behind a clause. -/
def testText (dialect : Dialect) (clause : Clause) (check : Test) : String :=
  (Sql.test clause.shape.sql check).render dialect

/-- One test is true exactly where a text is null, and the other exactly where it is not. -/
def TestsText (text isNull isNotNull : String) : Prop :=
  ∀ (α : Type) (database : Database α) (row : String → Option α),
    (database.Holds row isNull ↔ database.evaluate? row text = some none) ∧
      (database.Holds row isNotNull ↔ ∃ known, database.evaluate? row text = some (some known))

/-- One test is true exactly where a clause is null, and the other exactly where it is not. -/
def TestsClause (clause : Clause) (isNull isNotNull : String) : Prop :=
  ∀ (α : Type) (database : Database α) (row : String → Option α),
    (database.Holds row isNull ↔ clause.value database row = none) ∧
      (database.Holds row isNotNull ↔ clause.value database row ≠ none)

/-! ## Compiling -/

section

variable {target : Target}

theorem yields_test
    (schemaless : target.schema = none)
    (equality : Equality)
    (clause : Clause)
    (nullFirst : Bool) :
    target.Yields
      ⟨testRule equality clause nullFirst, (· = .test clause.shape.sql equality.nullTest)⟩ := by
  cases nullFirst with
  | false =>
      have listed : (Rule.list [clause.toRule, .null]).operands =
          [clause.operand, Fragment.nullOperand].map (·.rule) :=
        rfl
      refine Target.yields_operation schemaless none listed
        (by simp [clause.yields schemaless, Fragment.yields_nullOperand]) ?_
      intro answer path sqls answered suit
      obtain ⟨_, _, rfl, rfl, _⟩ := Operand.eq_pair_of_good suit
      refine ⟨_, ?_, rfl⟩
      rw [Fragment.plan_equality]
      exact Logic.run_equality_null rfl (answered 0 _ rfl)
  | true =>
      have listed : (Rule.list [.null, clause.toRule]).operands =
          [Fragment.nullOperand, clause.operand].map (·.rule) :=
        rfl
      refine Target.yields_operation schemaless none listed
        (by simp [clause.yields schemaless, Fragment.yields_nullOperand]) ?_
      intro answer path sqls answered suit
      obtain ⟨_, _, rfl, _, rfl⟩ := Operand.eq_pair_of_good suit
      refine ⟨_, ?_, rfl⟩
      rw [Fragment.plan_equality]
      exact Logic.run_null_equality_untyped rfl clause.toRule_ne_null (answered 1 _ rfl)

/-- What an operation should compile to is its condition. -/
theorem condition_of_yields
    {operator : String}
    {arguments : Rule}
    {expression : Sql}
    (yields : target.Yields ⟨.operation operator arguments, (· = expression)⟩)
    (fits : (Rule.operation operator arguments).Fits 0 target.maxDepth) :
    target.condition (.rule (.operation operator arguments)) =
      .ok (expression.render target.dialect) := by
  obtain ⟨_, compiled, rfl⟩ := yields .start none fits
  exact (Target.condition_rule_eq_ok_iff _ _ _).mpr ⟨_, compiled, rfl⟩

end

/-! ## Reading -/

section

variable {α : Type} {database : Database α} {row : String → Option α}

theorem evaluate?_text (dialect : Dialect) (clause : Clause) :
    database.evaluate? row (clause.shape.sql.render dialect) =
      database.value? row clause.shape.whole := by
  have spells : Spells 3 (clause.shape.sql.render dialect) clause.shape.whole :=
    ⟨_, clause.shape.tokenize_render dialect, clause.shape.reads_tokens⟩
  rw [Database.evaluate?, spells.read_eq]
  rfl

theorem evaluate?_testText (dialect : Dialect) (clause : Clause) (check : Test) :
    database.evaluate? row (testText dialect clause check) =
      database.value? row (clause.shape.tested check) := by
  have tokenizes : tokenize (testText dialect clause check) =
      some (clause.shape.tokens ++ testTokens check) := by
    rw [testText, Sql.render, String.append_assoc]
    refine tokenize_append_of_startsApart ?_ (clause.shape.tokenize_render dialect) ?_ <;>
      cases check <;> decide
  have spells : Spells 3 (testText dialect clause check) (clause.shape.tested check) :=
    ⟨_, tokenizes, clause.shape.reads_test check⟩
  rw [Database.evaluate?, spells.read_eq]
  rfl

/-- Where no negation is exposed, a test is true as the operand as a whole has it. -/
theorem holds_testText_iff
    {clause : Clause}
    (covered : ¬ clause.Exposed)
    (dialect : Dialect)
    (check : Test) :
    database.Holds row (testText dialect clause check) ↔
      ∃ value, database.value? row clause.shape.whole = some value ∧
        database.examine check value = true := by
  rw [← clause.exposed_shape_iff] at covered
  simp only [Database.Holds, evaluate?_testText, Shape.tested_eq_test covered, Database.value?,
    Option.map_eq_some_iff, Option.some.injEq]
  constructor
  · rintro ⟨_, ⟨value, evaluates, rfl⟩, holds⟩
    exact ⟨value, evaluates, by rwa [database.truth_ofTruth] at holds⟩
  · rintro ⟨value, evaluates, holds⟩
    exact ⟨_, ⟨value, evaluates, rfl⟩, by rwa [database.truth_ofTruth]⟩

end

theorem testsText_of_not_exposed
    {clause : Clause}
    (covered : ¬ clause.Exposed)
    (dialect : Dialect) :
    TestsText (clause.shape.sql.render dialect) (testText dialect clause .isNull)
      (testText dialect clause .isNotNull) := by
  intro α database row
  rw [holds_testText_iff covered, holds_testText_iff covered, evaluate?_text]
  simp only [Database.examine, Option.isNone_iff_eq_none, Option.isSome_iff_exists]
  refine ⟨⟨?_, ?_⟩, ⟨?_, ?_⟩⟩
  · rintro ⟨_, evaluates, rfl⟩
    exact evaluates
  · intro evaluates
    exact ⟨none, evaluates, rfl⟩
  · rintro ⟨_, evaluates, known, rfl⟩
    exact ⟨known, evaluates⟩
  · rintro ⟨known, evaluates⟩
    exact ⟨some known, evaluates, known, rfl⟩

theorem testsClause_of_grouped
    {clause : Clause}
    (grouped : clause.shape.Grouped)
    (covered : ¬ clause.Exposed)
    (dialect : Dialect) :
    TestsClause clause (testText dialect clause .isNull) (testText dialect clause .isNotNull) := by
  intro α database row
  have tests := testsText_of_not_exposed covered dialect α database row
  have evaluates : database.value? row clause.shape.whole = some (clause.value database row) :=
    (Shape.value?_whole grouped).trans (congrArg some clause.value_shape)
  rw [evaluate?_text, evaluates] at tests
  simpa [Option.ne_none_iff_exists'] using tests

/-- Truth values alone. -/
def truthValues : Database Bool where
  truth := id
  ofTruth := id
  truth_ofTruth _ := rfl
  compare _ left right := left == right

/-- Where a negation is exposed, the test is not true where every column is null. -/
theorem not_holds_isNull_of_exposed
    {clause : Clause}
    (exposed : clause.Exposed)
    (dialect : Dialect) :
    ¬ truthValues.Holds (fun _ => none) (testText dialect clause .isNull) := by
  rintro ⟨known, evaluates, holds⟩
  rw [evaluate?_testText] at evaluates
  have unmet := Shape.tested_isNull_of_exposed (clause.exposed_shape_iff.mpr exposed) evaluates
  simp [unmet] at holds

/--
An equality of a clause with null, on either side, compiles to a test behind the text of the
clause.  The two tests tell where that text is null and where it is not, for every database and
row, exactly if no negation is exposed in the clause.  They tell where the clause is null only if
so, and then they do as long as its comparisons read as such.
-/
theorem nullTest_tests_operand_iff
    (target : Target)
    (schemaless : target.schema = none)
    (clause : Clause)
    (fits : clause.toRule.Fits 1 target.maxDepth) :
    ∃ text isNull isNotNull,
      target.condition (.rule clause.toRule) = .ok text ∧
        (∀ (equality : Equality) (nullFirst : Bool),
          target.condition (.rule (testRule equality clause nullFirst)) =
            .ok (if equality.affirms then isNull else isNotNull)) ∧
        (TestsText text isNull isNotNull ↔ ¬ clause.Exposed) ∧
        (TestsClause clause isNull isNotNull → ¬ clause.Exposed) ∧
        (clause.shape.Grouped → ¬ clause.Exposed → TestsClause clause isNull isNotNull) := by
  refine ⟨clause.shape.sql.render target.dialect, testText target.dialect clause .isNull,
    testText target.dialect clause .isNotNull, ?_, ?_, ⟨?_, ?_⟩, ?_, ?_⟩
  · obtain ⟨operator, arguments, operation⟩ := clause.toRule_eq_operation
    have yields := clause.yields schemaless
    have shallow : clause.toRule.Fits 0 target.maxDepth := by
      intro trail operator arguments occurs
      have deeper := fits trail operator arguments occurs
      omega
    rw [Clause.operand, operation] at yields
    rw [operation] at shallow ⊢
    exact condition_of_yields yields shallow
  · intro equality nullFirst
    have fitsTest : (testRule equality clause nullFirst).Fits 0 target.maxDepth := by
      cases nullFirst <;> simp [testRule, Rule.operands, fits]
    have yields := yields_test schemaless equality clause nullFirst
    refine (condition_of_yields yields fitsTest).trans ?_
    cases equality <;> rfl
  · -- a row of nulls makes the text null, and the test misses it
    intro tests exposed
    have null := tests Bool truthValues fun _ => none
    rw [evaluate?_text, clause.shape.hollow_whole] at null
    exact not_holds_isNull_of_exposed exposed target.dialect (null.1.mpr rfl)
  · exact fun covered => testsText_of_not_exposed covered target.dialect
  · intro tests exposed
    have null := tests Bool truthValues fun _ => none
    rw [← clause.value_shape, clause.shape.value_null] at null
    exact not_holds_isNull_of_exposed exposed target.dialect (null.1.mpr rfl)
  · exact fun grouped covered => testsClause_of_grouped grouped covered target.dialect

/-- The field that is written as the given name. -/
def fieldClause (name : String) (identifier : IsIdentifier name) : Clause :=
  .field ⟨name, identifier⟩ .bare

/-- A comparison is tested as a whole, and a negation is not. -/
theorem nullTest_tests_operand_of_flags :
    let paid := fieldClause "paid" (by decide)
    let due := fieldClause "due" (by decide)
    let equal := Clause.equality .equal paid due
    let negated := Clause.negation equal .bare
    equal.toRule.Fits 1 defaultMaxDepth ∧ negated.toRule.Fits 1 defaultMaxDepth ∧
      (∃ isNull isNotNull,
        (Target.ofDialect .postgreSQL).condition (.rule (testRule .equal equal false)) =
            .ok isNull ∧
          (Target.ofDialect .postgreSQL).condition (.rule (testRule .notEqual equal true)) =
            .ok isNotNull ∧
          TestsClause equal isNull isNotNull) ∧
      ∃ text isNull isNotNull,
        (Target.ofDialect .postgreSQL).condition (.rule negated.toRule) = .ok text ∧
          (Target.ofDialect .postgreSQL).condition (.rule (testRule .equal negated false)) =
            .ok isNull ∧
          ¬ TestsText text isNull isNotNull := by
  intro paid due equal negated
  have fitsEqual : equal.toRule.Fits 1 defaultMaxDepth := by
    simp [equal, paid, due, fieldClause, Clause.toRule, Writing.arguments, Rule.operands,
      defaultMaxDepth]
  have fitsNegated : negated.toRule.Fits 1 defaultMaxDepth := by
    simp [negated, equal, paid, due, fieldClause, Clause.toRule, Writing.arguments, Rule.operands,
      defaultMaxDepth]
  obtain ⟨_, isNull, isNotNull, _, conditions, _, _, tests⟩ :=
    nullTest_tests_operand_iff (.ofDialect .postgreSQL) rfl equal fitsEqual
  obtain ⟨text, isNullOf, isNotNullOf, written, conditionsOf, untested, _⟩ :=
    nullTest_tests_operand_iff (.ofDialect .postgreSQL) rfl negated fitsNegated
  refine ⟨fitsEqual, fitsNegated, ⟨isNull, isNotNull, conditions .equal false,
    conditions .notEqual true, tests ?_ ?_⟩, text, isNullOf, isNotNullOf, written,
    conditionsOf .equal false, fun tested => untested.mp tested trivial⟩
  · exact ⟨trivial, trivial, id, id⟩
  · rintro (exposed | exposed) <;> exact exposed

/-- A test behind a negation is read as a part of what is negated. -/
theorem nullTest_of_negation_read :
    (Target.ofDialect .postgreSQL).condition
        (.rule (testRule .equal (.negation (fieldClause "a" (by decide)) .listed) false)) =
      .ok "NOT (a) IS NULL" ∧
    read "NOT (a) IS NULL" = some (.not (.test (.column "a") .isNull)) ∧
    read "(NOT (a)) IS NULL" = some (.test (.not (.column "a")) .isNull) := by
  exact ⟨by decide +kernel, rfl, rfl⟩

end NullTest
end RuleClause
