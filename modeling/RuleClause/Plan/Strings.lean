import RuleClause.Plan.Call
import RuleClause.Sql.Literal

/-!
# Texts

Places in a text are counted from zero in rules and from one in SQL.  A negative
start counts from the end of the text, and a negative length leaves that many
characters off the end.  Offsets that are written as integers are worked out at
once, within the range of 64-bit integers.
-/

namespace RuleClause
namespace Strings

/-- The plan of a concatenation. -/
def cat (setting : Setting) (call : Call) : Plan Sql := do
  let operands ← call.atLeast 1
  setting.gateEach call .string 0 operands
  return .call .concat (← setting.askEach none 0 operands.length)

/-- An offset into a text. -/
inductive Offset where
  /-- An integer. -/
  | literal (value : Int)
  /-- The value of an expression. -/
  | dynamic (expression : Sql)
deriving Repr

/-- An offset within the range of 64-bit integers. -/
def inRange (call : Call) (value : Int) : Plan Int :=
  if Number.isSigned value then .done value
  else call.fail .offsetOutOfRange

/-- The integer that an operand is written as. -/
def integer? : Rule → Option Int
  | .number value => value.toSigned?
  | _ => none

/-- The offset that an operand gives. -/
def offset (setting : Setting) (index : Nat) (operand : Rule) : Plan Offset :=
  match integer? operand with
  | some value => .done (.literal value)
  | none => do return .dynamic (← setting.ask index (some .number))

/-- The place in the text at which a part starts, counted from one. -/
def start (call : Call) (length : Sql) : Offset → Plan Sql
  | .literal value =>
      if 0 ≤ value then do
        return .integer (← inRange call (value + 1))
      else do
        let fromEnd ← inRange call (-value)
        return .call .greatest
          [.binary .add (.binary .subtract length (.integer fromEnd)) (.integer 1),
           .integer 1]
  | .dynamic expression => .done (.group .add [expression, .integer 1])

/-- The length of a part that leaves a number of characters off the end. -/
def lengthWithout
    (call : Call)
    (length : Sql)
    (dropped : Int) : Offset → Plan Sql
  | .literal value =>
      if value < 0 then do
        let fromEnd ← inRange call (-value)
        return .call .greatest
          [.binary .subtract (.call .least [length, .integer fromEnd]) (.integer dropped),
           .integer 0]
      else do
        let total ← inRange call (value + dropped)
        return .call .greatest [.binary .subtract length (.integer total), .integer 0]
  | .dynamic expression =>
      .done (.call .greatest
        [.binary .subtract (.binary .subtract length expression) (.integer dropped),
         .integer 0])

/-- The length of a part, from the operand that gives it. -/
def partLength
    (setting : Setting)
    (call : Call)
    (length : Sql)
    (offset : Offset)
    (operand : Rule) : Plan Sql :=
  match integer? operand with
  | some value =>
      if 0 ≤ value then .done (.integer value)
      else do
        let dropped ← inRange call (-value)
        lengthWithout call length dropped offset
  | none => setting.ask 2 (some .number)

/-- The plan of taking a part of a text. -/
def substr (setting : Setting) (call : Call) : Plan Sql := do
  match ← call.listed with
  | [text, place] =>
      setting.gate call .string 0 text
      setting.gate call .numeric 1 place
      let operand ← setting.ask 0 none
      let offset ← offset setting 1 place
      return .substring operand (← start call (.textLength operand) offset) none
  | [text, place, length] =>
      setting.gate call .string 0 text
      setting.gate call .numeric 1 place
      setting.gate call .numeric 2 length
      let operand ← setting.ask 0 none
      let offset ← offset setting 1 place
      let first ← start call (.textLength operand) offset
      let length ← partLength setting call (.textLength operand) offset length
      return .substring operand first (some length)
  | _ => call.failCount 2 3

end Strings
end RuleClause
