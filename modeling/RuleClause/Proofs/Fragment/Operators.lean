import RuleClause.Proofs.Fragment.Basic
import RuleClause.Proofs.Reading.Meaning

/-!
# The operators of the fragment in SQL

Each operator of the fragment is written as an operator, a test or a function of SQL
that does the same with the values of the operands.
-/

namespace RuleClause
namespace Fragment

open Reading

variable (interpretation : Interpretation)

/-! ## Connectives from the left -/

theorem conjunction_cons_cons (first second : Option Bool) (rest : List (Option Bool)) :
    conjunction (first :: second :: rest) = conjunction (bothTrue first second :: rest) := by
  rcases first with _ | _ | _ <;> rcases second with _ | _ | _ <;>
    simp [conjunction, bothTrue]

theorem disjunction_cons_cons (first second : Option Bool) (rest : List (Option Bool)) :
    disjunction (first :: second :: rest) = disjunction (eitherTrue first second :: rest) := by
  rcases first with _ | _ | _ <;> rcases second with _ | _ | _ <;>
    simp [disjunction, eitherTrue]

/-- Joining truths from the left gives their conjunction. -/
theorem foldl_bothTrue (first : Option Bool) (rest : List (Option Bool)) :
    rest.foldl bothTrue first = conjunction (first :: rest) := by
  induction rest generalizing first with
  | nil => rcases first with _ | _ | _ <;> rfl
  | cons second rest inductionHypothesis =>
      rw [List.foldl_cons, inductionHypothesis, conjunction_cons_cons]

/-- Joining truths from the left gives their disjunction. -/
theorem foldl_eitherTrue (first : Option Bool) (rest : List (Option Bool)) :
    rest.foldl eitherTrue first = disjunction (first :: rest) := by
  induction rest generalizing first with
  | nil => rcases first with _ | _ | _ <;> rfl
  | cons second rest inductionHypothesis =>
      rw [List.foldl_cons, inductionHypothesis, disjunction_cons_cons]

/-- An operator that has a meaning for two values has one for any number, from the left. -/
theorem foldlM_combine
    {α : Type}
    {inject : α → Value}
    {operator : BinaryOp}
    {function : α → α → α}
    (pairwise : ∀ left right,
      combine interpretation operator (inject left) (inject right) =
        some (inject (function left right)))
    (first : α)
    (rest : List α) :
    (rest.map inject).foldlM (combine interpretation operator) (inject first) =
      some (inject (rest.foldl function first)) := by
  induction rest generalizing first with
  | nil => rfl
  | cons second rest inductionHypothesis =>
      simp only [List.map_cons, List.foldlM_cons, pairwise, Option.bind_eq_bind, Option.bind_some,
        inductionHypothesis, List.foldl_cons]

/-! ## Operators, tests and functions -/

/-- The SQL operator of a calculation. -/
def Calculation.symbol : Calculation → BinaryOp
  | .add => .add
  | .subtract => .subtract
  | .multiply => .multiply
  | .divide => .divide

theorem combine_calculation (calculation : Calculation) (left right : Option Int) :
    combine interpretation calculation.symbol (.ofNumber left) (.ofNumber right) =
      some (.ofNumber (calculation.apply interpretation left right)) := by
  cases calculation <;> cases left <;> cases right <;> rfl

/-- The SQL function of an extreme. -/
def Extreme.function : Extreme → Function
  | .greatest => .greatest
  | .least => .least

theorem mapM_number?_ofNumber (values : List (Option Int)) :
    (values.map Value.ofNumber).mapM Value.number? = some values := by
  induction values with
  | nil => rfl
  | cons first rest inductionHypothesis => simp [inductionHypothesis]

theorem invoke_extreme (extreme : Extreme) (values : List (Option Int)) :
    invoke interpretation extreme.function.name (values.map .ofNumber) =
      some (.ofNumber (extreme.apply interpretation values)) := by
  rw [invoke, mapM_number?_ofNumber]
  cases extreme <;> rfl

/-- The SQL operator of a comparison. -/
def Comparison.symbol : Comparison → BinaryOp
  | .less => .less
  | .lessEqual => .lessEqual
  | .greater => .greater
  | .greaterEqual => .greaterEqual

theorem combine_comparison (comparison : Comparison) (left right : Option Int) :
    combine interpretation comparison.symbol (.ofNumber left) (.ofNumber right) =
      some (.ofTruth (comparison.apply left right)) := by
  cases comparison <;> cases left <;> cases right <;> rfl

/-- The SQL operator of an equality. -/
def Equality.symbol : Equality → BinaryOp
  | .equal | .strictEqual => .equal
  | .notEqual => .notEqual
  | .strictNotEqual => .unequal

/-- The SQL test of an equality with null. -/
def Equality.nullTest : Equality → Test
  | .equal | .strictEqual => .isNull
  | .notEqual | .strictNotEqual => .isNotNull

theorem combine_equality (equality : Equality) (left right : Option Int) :
    combine interpretation equality.symbol (.ofNumber left) (.ofNumber right) =
      some (.ofTruth (equality.apply left right)) := by
  cases equality <;> cases left <;> cases right <;>
    simp [combine, relate, strictly, Equality.symbol, Equality.apply, Equality.affirms,
      Value.ofNumber, Value.number?, bne]

theorem examine_nullTest (equality : Equality) (value : Option Int) :
    examine equality.nullTest (.ofNumber value) = some (.truth (equality.applyNull value)) := by
  cases equality <;> cases value <;> rfl

/-- The SQL operator of a connective. -/
def Connective.symbol : Connective → BinaryOp
  | .and => .and
  | .or => .or

/-- What the SQL operator of a connective does with two truths. -/
def Connective.join : Connective → Option Bool → Option Bool → Option Bool
  | .and => bothTrue
  | .or => eitherTrue

theorem combine_connective (connective : Connective) (left right : Option Bool) :
    combine interpretation connective.symbol (.ofTruth left) (.ofTruth right) =
      some (.ofTruth (connective.join left right)) := by
  cases connective <;> simp [combine, connect, Connective.symbol, Connective.join]

theorem foldl_join
    (connective : Connective)
    (first : Option Bool)
    (rest : List (Option Bool)) :
    rest.foldl connective.join first = connective.apply (first :: rest) := by
  cases connective with
  | and => exact foldl_bothTrue first rest
  | or => exact foldl_eitherTrue first rest

/-- Truths with the SQL operator of a connective between them have its truth. -/
theorem foldlM_connective
    (connective : Connective)
    (first : Option Bool)
    (rest : List (Option Bool)) :
    (rest.map Value.ofTruth).foldlM (combine interpretation connective.symbol) (.ofTruth first) =
      some (.ofTruth (connective.apply (first :: rest))) := by
  rw [foldlM_combine interpretation (combine_connective interpretation connective), foldl_join]

end Fragment
end RuleClause
