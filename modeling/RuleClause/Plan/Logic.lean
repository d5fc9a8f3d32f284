import RuleClause.Plan.Call
import RuleClause.Sql.Literal

/-!
# Equality, truth, connectives and comparisons

An equality with null is a null test.  Literals are written for the field that
they are compared with: the one on the other side of an equality, or the first
field of a comparison.
-/

namespace RuleClause
namespace Logic

/-- An equality of two operands, neither of which is null. -/
def equalityOf
    (setting : Setting)
    (call : Call)
    (operator : BinaryOp)
    (left right : Rule) : Plan Sql := do
  setting.checkAgainst call (setting.field? left) (call.operandPath 1) right
  setting.checkAgainst call (setting.field? right) (call.operandPath 0) left
  let leftSide ← setting.ask 0 (setting.type? right)
  let rightSide ← setting.ask 1 (setting.type? left)
  return .binary operator leftSide rightSide

/-- The plan of an equality; one with null becomes the given test. -/
def equality
    (setting : Setting)
    (call : Call)
    (operator : BinaryOp)
    (nullTest : Test) : Plan Sql := do
  let (left, right) ← call.pair
  setting.gateEach call .equality 0 [left, right]
  match left, right with
  | _, .null => return .test (← setting.ask 0 none) nullTest
  | .null, _ => return .test (← setting.ask 1 none) nullTest
  | left, right => equalityOf setting call operator left right

/-- The plan of a negation. -/
def negation (setting : Setting) (call : Call) : Plan Sql := do
  let _ ← call.single
  return .not (← setting.ask 0 none)

/-- An expression is not null and differs from each of the given ones. -/
def presentAndNot (operand : Sql) (others : List Sql) : Sql :=
  .group .and (.test operand .isNotNull :: others.map (.binary .notEqual operand ·))

/-- An expression counts as true, given the type of the field that it reads. -/
def truthOf (operand : Sql) : Option FieldType → Sql
  | some .boolean => .test operand .isTrue
  | some .string | some .enum => presentAndNot operand [.string ""]
  | some .integer | some .number => presentAndNot operand [.integer 0]
  | some .array =>
      .group .and
        [.test operand .isNotNull, .binary .greater (.arrayLength operand) (.integer 0)]
  | some .object => .test operand .isNotNull
  | none => presentAndNot operand [.bool false, .integer 0, .string ""]

/-- The plan of a test for truth; the truth of a literal is known at once. -/
def truthy (setting : Setting) (call : Call) : Plan Sql :=
  match call.arguments with
  | .list [] => .done (.bool false)
  | _ => do
      let operand ← call.single
      match operand.truth? with
      | some truth => return .bool truth
      | none => return truthOf (← setting.ask 0 none) (setting.type? operand)

/-- The plan of a conjunction or a disjunction. -/
def connective (setting : Setting) (call : Call) (operator : BinaryOp) : Plan Sql := do
  let operands ← call.listedAtLeast 1
  return .joined operator (← setting.askEach none 0 operands.length)

/-- Conditions with their values, two operands each, and the value left over at the end. -/
def branches (setting : Setting) : Nat → Nat → Plan (List (Sql × Sql) × Sql)
  | _, 0 => .done ([], .null)
  | index, 1 => do return ([], ← setting.ask index none)
  | index, count + 2 => do
      let condition ← setting.ask index none
      let value ← setting.ask (index + 1) none
      let (rest, otherwise) ← branches setting (index + 2) count
      return ((condition, value) :: rest, otherwise)

/-- The plan of a choice between values. -/
def conditional (setting : Setting) (call : Call) : Plan Sql := do
  let operands ← call.listedAtLeast 2
  let (branches, otherwise) ← branches setting 0 operands.length
  return .cases branches otherwise

/-- The plan of a choice between exactly two values. -/
def ternary (setting : Setting) (call : Call) : Plan Sql := do
  let _ ← call.listedTriple
  conditional setting call

/-- Each expression compared with the next. -/
def adjacent (operator : BinaryOp) : List Sql → List Sql
  | first :: second :: rest =>
      .binary operator first second :: adjacent operator (second :: rest)
  | _ => []

/-- The type of the first declared field among some operands. -/
def firstType? (setting : Setting) (operands : List Rule) : Option FieldType :=
  operands.findSome? setting.type?

/-- The plan of a comparison; a longer one compares neighbours. -/
def comparison (setting : Setting) (call : Call) (operator : BinaryOp) : Plan Sql := do
  let operands ← call.listedAtLeast 2
  setting.gateEach call .ordering 0 operands
  let terms ← setting.askEach (firstType? setting operands) 0 operands.length
  return .joined .and (adjacent operator terms)

end Logic
end RuleClause
