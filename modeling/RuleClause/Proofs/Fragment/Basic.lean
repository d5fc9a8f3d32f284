import RuleClause.Operator
import RuleClause.Proofs.Reading.Expression
import RuleClause.Proofs.Reading.Token
import RuleClause.Rule.Basic

/-!
# Rules that compute numbers and truth values

The terms of this fragment are rules with a number for their value, and its formulas
are rules with a truth value.  Fields hold integers or null, and null makes a result
unknown.  The values are those of the rules themselves; how they are written in SQL
plays no part.
-/

namespace RuleClause
namespace Fragment

open Reading (Interpretation Row)

/-- The name of a field: an identifier that is not a reserved word. -/
abbrev Identifier : Type :=
  { name : String // Reading.IsIdentifier name }

/-- A single argument may stand by itself or in a list. -/
inductive Writing where
  | bare
  | listed
deriving DecidableEq, Repr

/-- Arguments as they are written; several are always listed. -/
def Writing.arguments : Writing → List Rule → Rule
  | .bare, [single] => single
  | _, items => .list items

/-! ## Operators -/

/-- Arithmetic with two or more numbers, from the left. -/
inductive Calculation where
  | add
  | subtract
  | multiply
  | divide
deriving DecidableEq, Repr

namespace Calculation

/-- The operator of a calculation. -/
def operator : Calculation → Operator
  | .add => .add
  | .subtract => .subtract
  | .multiply => .multiply
  | .divide => .divide

/-- The result for two numbers. -/
def result (interpretation : Interpretation) : Calculation → Int → Int → Option Int
  | .add, left, right => some (left + right)
  | .subtract, left, right => some (left - right)
  | .multiply, left, right => some (left * right)
  | .divide, left, right => interpretation.divide left right

/-- The result for two values, which is null as soon as one of them is. -/
def apply
    (interpretation : Interpretation)
    (calculation : Calculation)
    (left right : Option Int) : Option Int :=
  left.bind fun left => right.bind fun right => calculation.result interpretation left right

end Calculation

/-- The greatest or the least of some numbers. -/
inductive Extreme where
  | greatest
  | least
deriving DecidableEq, Repr

namespace Extreme

/-- The operator of an extreme. -/
def operator : Extreme → Operator
  | .greatest => .max
  | .least => .min

/-- The extreme of some values. -/
def apply (interpretation : Interpretation) : Extreme → List (Option Int) → Option Int
  | .greatest => interpretation.greatest
  | .least => interpretation.least

end Extreme

/-- A comparison of neighbours among two or more numbers. -/
inductive Comparison where
  | less
  | lessEqual
  | greater
  | greaterEqual
deriving DecidableEq, Repr

namespace Comparison

/-- The operator of a comparison. -/
def operator : Comparison → Operator
  | .less => .less
  | .lessEqual => .lessEqual
  | .greater => .greater
  | .greaterEqual => .greaterEqual

/-- The comparison holds for two numbers. -/
def holds : Comparison → Int → Int → Bool
  | .less, left, right => left < right
  | .lessEqual, left, right => left ≤ right
  | .greater, left, right => right < left
  | .greaterEqual, left, right => right ≤ left

/-- The truth for two values, which is unknown as soon as one of them is null. -/
def apply (comparison : Comparison) (left right : Option Int) : Option Bool :=
  left.bind fun left => right.map fun right => comparison.holds left right

end Comparison

/-- An equality of two numbers, or of a number and null. -/
inductive Equality where
  | equal
  | strictEqual
  | notEqual
  | strictNotEqual
deriving DecidableEq, Repr

namespace Equality

/-- The operator of an equality. -/
def operator : Equality → Operator
  | .equal => .equal
  | .strictEqual => .strictEqual
  | .notEqual => .notEqual
  | .strictNotEqual => .strictNotEqual

/-- Whether the two sides must be the same. -/
def affirms : Equality → Bool
  | .equal | .strictEqual => true
  | .notEqual | .strictNotEqual => false

/-- The truth for two values, which is unknown as soon as one of them is null. -/
def apply (equality : Equality) (left right : Option Int) : Option Bool :=
  left.bind fun left => right.map fun right => (left == right) == equality.affirms

/-- The truth for a value and a written null, which is always known. -/
def applyNull (equality : Equality) (value : Option Int) : Bool :=
  value.isNone == equality.affirms

end Equality

/-- A conjunction or a disjunction. -/
inductive Connective where
  | and
  | or
deriving DecidableEq, Repr

/-- A conjunction is false if some part is, and else unknown if some part is. -/
def conjunction (truths : List (Option Bool)) : Option Bool :=
  if some false ∈ truths then some false
  else if none ∈ truths then none
  else some true

/-- A disjunction is true if some part is, and else unknown if some part is. -/
def disjunction (truths : List (Option Bool)) : Option Bool :=
  if some true ∈ truths then some true
  else if none ∈ truths then none
  else some false

namespace Connective

/-- The operator of a connective. -/
def operator : Connective → Operator
  | .and => .and
  | .or => .or

/-- The truth of some parts together. -/
def apply : Connective → List (Option Bool) → Option Bool
  | .and => conjunction
  | .or => disjunction

end Connective

/-! ## Terms and formulas -/

mutual

/-- A rule with a number for its value. -/
inductive Term where
  | field (name : Identifier) (writing : Writing)
  | literal (value : Int)
  | calculation (calculation : Calculation) (first second : Term) (rest : List Term)
  | negation (operand : Term) (writing : Writing)
  | extreme (extreme : Extreme) (first : Term) (rest : List Term) (writing : Writing)
  | choice (branches : Branches)

/-- A rule with a truth value. -/
inductive Formula where
  | equality (equality : Equality) (left right : Term)
  | nullity (equality : Equality) (operand : Term) (nullFirst : Bool)
  | comparison (comparison : Comparison) (first second : Term) (rest : List Term)
  | connective (connective : Connective) (first : Formula) (rest : List Formula)
  | negation (operand : Formula) (writing : Writing)

/-- The operands of a choice: conditions, each with a value, and perhaps a last value. -/
inductive Branches where
  | last (condition : Formula) (value : Term)
  | lastElse (condition : Formula) (value otherwise : Term)
  | more (condition : Formula) (value : Term) (rest : Branches)

end

mutual

/-- A term as a rule. -/
def Term.toRule : Term → Rule
  | .field name writing => .operation Operator.var.name (writing.arguments [.string name.val])
  | .literal value => .number (.integer value)
  | .calculation calculation first second rest =>
      .operation calculation.operator.name
        (.list (first.toRule :: second.toRule :: Term.toRules rest))
  | .negation operand writing =>
      .operation Operator.subtract.name (writing.arguments [operand.toRule])
  | .extreme extreme first rest writing =>
      .operation extreme.operator.name (writing.arguments (first.toRule :: Term.toRules rest))
  | .choice branches => .operation Operator.conditional.name (.list branches.toRules)

/-- Terms as rules, one by one. -/
def Term.toRules : List Term → List Rule
  | [] => []
  | first :: rest => first.toRule :: Term.toRules rest

/-- A formula as a rule. -/
def Formula.toRule : Formula → Rule
  | .equality equality left right =>
      .operation equality.operator.name (.list [left.toRule, right.toRule])
  | .nullity equality operand false =>
      .operation equality.operator.name (.list [operand.toRule, .null])
  | .nullity equality operand true =>
      .operation equality.operator.name (.list [.null, operand.toRule])
  | .comparison comparison first second rest =>
      .operation comparison.operator.name
        (.list (first.toRule :: second.toRule :: Term.toRules rest))
  | .connective connective first rest =>
      .operation connective.operator.name (.list (first.toRule :: Formula.toRules rest))
  | .negation operand writing =>
      .operation Operator.not.name (writing.arguments [operand.toRule])

/-- Formulas as rules, one by one. -/
def Formula.toRules : List Formula → List Rule
  | [] => []
  | first :: rest => first.toRule :: Formula.toRules rest

/-- The operands of a choice as rules. -/
def Branches.toRules : Branches → List Rule
  | .last condition value => [condition.toRule, value.toRule]
  | .lastElse condition value otherwise =>
      [condition.toRule, value.toRule, otherwise.toRule]
  | .more condition value rest => condition.toRule :: value.toRule :: rest.toRules

end

/-! ## Values -/

/-- The values of some terms next to those that follow them. -/
def neighbours (values : List (Option Int)) : List (Option Int × Option Int) :=
  values.zip values.tail

mutual

/-- The number that a term stands for; `none` is null. -/
def Term.value (interpretation : Interpretation) (row : Row) : Term → Option Int
  | .field name _ => row name.val
  | .literal value => some value
  | .calculation calculation first second rest =>
      (Term.values interpretation row rest).foldl (calculation.apply interpretation)
        (calculation.apply interpretation (first.value interpretation row)
          (second.value interpretation row))
  | .negation operand _ => (operand.value interpretation row).map fun value => -value
  | .extreme extreme first rest _ =>
      extreme.apply interpretation
        (first.value interpretation row :: Term.values interpretation row rest)
  | .choice branches => branches.value interpretation row

/-- The numbers that terms stand for, one by one. -/
def Term.values (interpretation : Interpretation) (row : Row) : List Term → List (Option Int)
  | [] => []
  | first :: rest => first.value interpretation row :: Term.values interpretation row rest

/-- The truth of a formula; `none` is unknown. -/
def Formula.truth (interpretation : Interpretation) (row : Row) : Formula → Option Bool
  | .equality equality left right =>
      equality.apply (left.value interpretation row) (right.value interpretation row)
  | .nullity equality operand _ => some (equality.applyNull (operand.value interpretation row))
  | .comparison comparison first second rest =>
      conjunction ((neighbours (first.value interpretation row ::
        second.value interpretation row :: Term.values interpretation row rest)).map
          fun pair => comparison.apply pair.1 pair.2)
  | .connective connective first rest =>
      connective.apply
        (first.truth interpretation row :: Formula.truths interpretation row rest)
  | .negation operand _ => (operand.truth interpretation row).map fun truth => ! truth

/-- The truths of formulas, one by one. -/
def Formula.truths
    (interpretation : Interpretation)
    (row : Row) : List Formula → List (Option Bool)
  | [] => []
  | first :: rest => first.truth interpretation row :: Formula.truths interpretation row rest

/-- The value at the first condition that is true, or else the last value, or else null. -/
def Branches.value (interpretation : Interpretation) (row : Row) : Branches → Option Int
  | .last condition value =>
      if condition.truth interpretation row = some true then value.value interpretation row
      else none
  | .lastElse condition value otherwise =>
      if condition.truth interpretation row = some true then value.value interpretation row
      else otherwise.value interpretation row
  | .more condition value rest =>
      if condition.truth interpretation row = some true then value.value interpretation row
      else rest.value interpretation row

end

theorem Term.toRules_eq_map (terms : List Term) : Term.toRules terms = terms.map Term.toRule := by
  induction terms with
  | nil => rfl
  | cons first rest inductionHypothesis => simp [Term.toRules, inductionHypothesis]

theorem Formula.toRules_eq_map (formulas : List Formula) :
    Formula.toRules formulas = formulas.map Formula.toRule := by
  induction formulas with
  | nil => rfl
  | cons first rest inductionHypothesis => simp [Formula.toRules, inductionHypothesis]

theorem Term.values_eq_map
    (interpretation : Interpretation)
    (row : Row)
    (terms : List Term) :
    Term.values interpretation row terms = terms.map (Term.value interpretation row) := by
  induction terms with
  | nil => rfl
  | cons first rest inductionHypothesis => simp [Term.values, inductionHypothesis]

theorem Formula.truths_eq_map
    (interpretation : Interpretation)
    (row : Row)
    (formulas : List Formula) :
    Formula.truths interpretation row formulas =
      formulas.map (Formula.truth interpretation row) := by
  induction formulas with
  | nil => rfl
  | cons first rest inductionHypothesis => simp [Formula.truths, inductionHypothesis]

end Fragment
end RuleClause
