import RuleClause.Proofs.Fragment.Formula

/-!
# Conditions mean what their rules mean

A term or a formula compiles, in every dialect, to a condition whose text has the value
of the rule: for every row of integers and nulls, and however the database divides and
finds extrema.  The text is read by the precedence of SQL alone, so that each operator
has to put parentheses around its operands where they are needed.
-/

namespace RuleClause
namespace Fragment

open Reading

/-- A rule of the fragment. -/
inductive Sentence where
  | term (term : Term)
  | formula (formula : Formula)

namespace Sentence

/-- A sentence as a rule. -/
def toRule : Sentence → Rule
  | .term inner => inner.toRule
  | .formula inner => inner.toRule

/-- The value of a sentence, for any database and row. -/
def meaning : Sentence → Meaning
  | .term inner => inner.meaning
  | .formula inner => inner.meaning

/-- A sentence compiles to an expression whose text has its value. -/
theorem exists_compileAt
    {target : Target}
    (schemaless : target.schema = none)
    (sentence : Sentence)
    (fits : sentence.toRule.Fits 0 target.maxDepth) :
    ∃ sql, compileAt target.context sentence.toRule .start .row none = .ok sql ∧
      ∀ interpretation row,
        evaluate interpretation row (sql.render target.dialect) =
          some (sentence.meaning interpretation row) := by
  cases sentence with
  | term inner =>
      obtain ⟨sql, compiled, denotes⟩ := inner.yields schemaless .start none fits
      exact ⟨sql, compiled, Denotes.evaluate_eq denotes⟩
  | formula inner =>
      obtain ⟨sql, compiled, denotes⟩ := inner.yields schemaless .start none fits
      exact ⟨sql, compiled, Denotes.evaluate_eq denotes⟩

end Sentence

/--
Without a schema, every term and every formula that is an operation, of whatever size
and within the limit on nesting, gives a condition whose text has the value of the rule
for every row.
-/
theorem evaluate_condition
    (target : Target)
    (schemaless : target.schema = none)
    (sentence : Sentence)
    (operation : sentence.toRule.isOperation = true)
    (fits : sentence.toRule.Fits 0 target.maxDepth) :
    ∃ text, target.condition (.rule sentence.toRule) = .ok text ∧
      ∀ interpretation row,
        evaluate interpretation row text = some (sentence.meaning interpretation row) := by
  obtain ⟨sql, compiled, denotes⟩ := sentence.exists_compileAt schemaless fits
  refine ⟨sql.render target.dialect, ?_, denotes⟩
  rw [Target.condition_rule_eq_ok_iff]
  refine ⟨sql, ?_, rfl⟩
  cases rule : sentence.toRule with
  | operation operator arguments =>
      rw [rule] at compiled
      exact compiled
  | null | bool | number | string | list => simp [rule, Rule.isOperation] at operation

/-- The field that is written as the given name. -/
def field (name : String) (identifier : IsIdentifier name) : Term :=
  .field ⟨name, identifier⟩ .bare

/-- A comparison of three terms beside a test for null, under a negation. -/
def nestedFormula : Formula :=
  let price := field "price" (by decide)
  let limit := field "limit" (by decide)
  .connective .or
    (.negation (.comparison .less (.literal (-3)) (.negation price .listed)
      [.calculation .subtract limit price [.literal 1]]) .bare)
    [.nullity .notEqual (.choice (.last (.equality .equal price limit)
      (.extreme .greatest price [limit] .listed))) false]

theorem evaluate_nestedFormula :
    (Target.ofDialect .bigQuery).schema = none ∧
      (Sentence.formula nestedFormula).toRule.isOperation = true ∧
      (Sentence.formula nestedFormula).toRule.Fits 0 defaultMaxDepth ∧
      ∃ text, (Target.ofDialect .bigQuery).condition
          (.rule (Sentence.formula nestedFormula).toRule) = .ok text ∧
        ∀ interpretation row,
          evaluate interpretation row text =
            some (.ofTruth (nestedFormula.truth interpretation row)) := by
  have fits : (Sentence.formula nestedFormula).toRule.Fits 0 defaultMaxDepth := by
    simp [Sentence.toRule, nestedFormula, field, Formula.toRule, Formula.toRules, Term.toRule,
      Term.toRules, Branches.toRules, Writing.arguments, Rule.operands, defaultMaxDepth]
  exact ⟨rfl, rfl, fits, evaluate_condition (.ofDialect .bigQuery) rfl
    (.formula nestedFormula) rfl fits⟩

end Fragment
end RuleClause
