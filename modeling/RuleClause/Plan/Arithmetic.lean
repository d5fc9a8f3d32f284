import RuleClause.Plan.Call
import RuleClause.Sql.Literal

/-!
# Arithmetic

Operands of arithmetic are numbers, and texts among them that read as numbers are
written as such.  A single plus asks for a number, a single minus negates one.
-/

namespace RuleClause
namespace Arithmetic

/-- Asks for every operand as a number. -/
def terms (setting : Setting) (call : Call) : Plan (List Sql) := do
  setting.gateEach call .numeric 0 call.operands
  setting.askEach (some .number) 0 call.operands.length

/-- The plan of an operator between at least two terms. -/
def chain
    (setting : Setting)
    (call : Call)
    (operator : BinaryOp) : Plan Sql := do
  let _ ← call.atLeast 2
  return .group operator (← terms setting call)

/-- The plan of a single plus: the operand as a number. -/
def plus (setting : Setting) (call : Call) (operand : Rule) : Plan Sql := do
  setting.gate call .numeric 0 operand
  match operand with
  | .string value => return .numericCast (.string value)
  | .number value => return .ofNumber value
  | other =>
      let expression ← setting.ask 0 none
      if (setting.type? other).any FieldType.isNumeric then return expression
      else return .numericCast expression

/-- The text of a number with the opposite sign. -/
def negatedText (text : String) : String :=
  match text.toList with
  | '-' :: rest => String.ofList rest
  | _ => "-" ++ text

/-- An operand after a minus: a number changes its sign, all else is negated as compiled. -/
def negated (operand : Rule) (expression : Sql) : Sql :=
  match operand with
  | .number value => .number (negatedText value.canonicalText)
  | other =>
      if other.variableName?.isSome then .minus expression
      else .minusGroup expression

/-- The plan of a single minus. -/
def minus (setting : Setting) (call : Call) (operand : Rule) : Plan Sql := do
  setting.gate call .numeric 0 operand
  return negated operand (← setting.ask 0 (some .number))

/-- The plan of an addition, or of a single plus. -/
def add (setting : Setting) (call : Call) : Plan Sql := do
  match ← call.atLeast 1 with
  | [operand] => plus setting call operand
  | _ => chain setting call .add

/-- The plan of a subtraction, or of a single minus. -/
def subtract (setting : Setting) (call : Call) : Plan Sql := do
  match ← call.atLeast 1 with
  | [operand] => minus setting call operand
  | _ => chain setting call .subtract

/-- The plan of a remainder. -/
def modulo (setting : Setting) (call : Call) : Plan Sql := do
  let _ ← call.atLeast 2
  return .remainder (← terms setting call)

/-- The plan of the greatest or the least of some numbers. -/
def extremum (setting : Setting) (call : Call) (function : Function) : Plan Sql := do
  let _ ← call.atLeast 1
  return .call function (← terms setting call)

end Arithmetic
end RuleClause
