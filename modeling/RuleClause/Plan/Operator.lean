import RuleClause.Operator
import RuleClause.Plan.Arithmetic
import RuleClause.Plan.Arrays
import RuleClause.Plan.Logic
import RuleClause.Plan.Reference
import RuleClause.Plan.Strings

/-!
# The plans of the built-in operators

Reduction is the only operator whose plan depends on the dialect.
-/

namespace RuleClause
namespace Operator

/-- What an operator does with its operands. -/
def plan (dialect : Dialect) (setting : Setting) (call : Call) : Operator → Plan Sql
  | .var => Reference.var setting call
  | .missing => Reference.missing setting call
  | .missingSome => Reference.missingSome setting call
  | .equal | .strictEqual => Logic.equality setting call .equal .isNull
  | .notEqual => Logic.equality setting call .notEqual .isNotNull
  | .strictNotEqual => Logic.equality setting call .unequal .isNotNull
  | .not => Logic.negation setting call
  | .truthy => Logic.truthy setting call
  | .and => Logic.connective setting call .and
  | .or => Logic.connective setting call .or
  | .conditional => Logic.conditional setting call
  | .ternary => Logic.ternary setting call
  | .greater => Logic.comparison setting call .greater
  | .greaterEqual => Logic.comparison setting call .greaterEqual
  | .less => Logic.comparison setting call .less
  | .lessEqual => Logic.comparison setting call .lessEqual
  | .add => Arithmetic.add setting call
  | .subtract => Arithmetic.subtract setting call
  | .multiply => Arithmetic.chain setting call .multiply
  | .divide => Arithmetic.chain setting call .divide
  | .modulo => Arithmetic.modulo setting call
  | .max => Arithmetic.extremum setting call .greatest
  | .min => Arithmetic.extremum setting call .least
  | .cat => Strings.cat setting call
  | .substr => Strings.substr setting call
  | .membership => Arrays.membership setting call
  | .map => Arrays.iteration setting call .mapped
  | .filter => Arrays.iteration setting call .filtered
  | .reduce => Arrays.reduce dialect setting call
  | .all => Arrays.iteration setting call (.quantified .all)
  | .some => Arrays.iteration setting call (.quantified .some)
  | .none => Arrays.iteration setting call (.quantified .none)
  | .merge => Arrays.merge setting call

/-- An operator takes a sum that does not fit a word: a variable that addresses an item. -/
def overflows (dialect : Dialect) (scope : Scope) (call : Call) : Operator → Bool
  | .var => (Reference.item? scope call).any dialect.overflows
  | _ => false

end Operator
end RuleClause
