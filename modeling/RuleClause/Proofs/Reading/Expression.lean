import RuleClause.Sql.Basic

/-!
# Meaning of SQL expressions

The columns of a row hold integers or null, and truth has three values.  How a
database divides, and what its extrema make of null, is left to an interpretation.
An expression that takes a number for a truth value, or the other way round, has no
value.
-/

namespace RuleClause
namespace Reading

/-- An expression as it is read, with every operator next to its operands. -/
inductive Expression where
  | null
  | bool (value : Bool)
  | numeral (value : Nat)
  | column (name : String)
  | minus (operand : Expression)
  | not (operand : Expression)
  | test (operand : Expression) (check : Test)
  | binary (operator : BinaryOp) (left right : Expression)
  | call (function : String) (arguments : List Expression)
  | cases (branches : List (Expression × Expression)) (otherwise : Expression)
deriving Repr

/-- What databases do differently; a missing number stands for null. -/
structure Interpretation where
  /-- The quotient of two numbers. -/
  divide : Int → Int → Option Int
  /-- The greatest of some numbers. -/
  greatest : List (Option Int) → Option Int
  /-- The least of some numbers. -/
  least : List (Option Int) → Option Int

/-- The numbers in the columns; a missing one stands for null. -/
abbrev Row : Type :=
  String → Option Int

/-- A value of an expression. -/
inductive Value where
  | null
  | number (value : Int)
  | truth (value : Bool)
deriving DecidableEq, Repr

namespace Value

/-- A number, or null. -/
def ofNumber : Option Int → Value
  | some value => .number value
  | none => .null

/-- A truth value, or null for an unknown one. -/
def ofTruth : Option Bool → Value
  | some value => .truth value
  | none => .null

/-- The number that a value is or lacks; truth values are no numbers. -/
def number? : Value → Option (Option Int)
  | .null => some none
  | .number value => some (some value)
  | .truth _ => none

/-- The truth value that a value is or lacks; numbers are no truth values. -/
def truth? : Value → Option (Option Bool)
  | .null => some none
  | .truth value => some (some value)
  | .number _ => none

@[simp]
theorem number?_ofNumber (value : Option Int) : (ofNumber value).number? = some value := by
  cases value <;> rfl

@[simp]
theorem truth?_ofTruth (value : Option Bool) : (ofTruth value).truth? = some value := by
  cases value <;> rfl

end Value

/-- A conjunction is false as soon as one side is, and unknown unless both are true. -/
def bothTrue : Option Bool → Option Bool → Option Bool
  | some false, _ | _, some false => some false
  | some true, some true => some true
  | _, _ => none

/-- A disjunction is true as soon as one side is, and unknown unless both are false. -/
def eitherTrue : Option Bool → Option Bool → Option Bool
  | some true, _ | _, some true => some true
  | some false, some false => some false
  | _, _ => none

/-- A function of two numbers, where null on either side gives null. -/
def strictly
    {α : Type}
    (function : Int → Int → Option α)
    (left right : Option Int) : Option α := do
  function (← left) (← right)

/-- A connective of two values. -/
def connect
    (function : Option Bool → Option Bool → Option Bool)
    (left right : Value) : Option Value := do
  return .ofTruth (function (← left.truth?) (← right.truth?))

/-- A relation between two values. -/
def relate (relation : Int → Int → Bool) (left right : Value) : Option Value := do
  let holds (left right : Int) : Option Bool := some (relation left right)
  return .ofTruth (strictly holds (← left.number?) (← right.number?))

/-- A calculation with two values. -/
def calculate (function : Int → Int → Option Int) (left right : Value) : Option Value := do
  return .ofNumber (strictly function (← left.number?) (← right.number?))

/-- The meaning of an operator. -/
def combine (interpretation : Interpretation) : BinaryOp → Value → Value → Option Value
  | .and => connect bothTrue
  | .or => connect eitherTrue
  | .equal => relate (· == ·)
  | .notEqual | .unequal => relate (· != ·)
  | .less => relate (· < ·)
  | .lessEqual => relate (· ≤ ·)
  | .greater => relate (· > ·)
  | .greaterEqual => relate (· ≥ ·)
  | .add => calculate fun left right => some (left + right)
  | .subtract => calculate fun left right => some (left - right)
  | .multiply => calculate fun left right => some (left * right)
  | .divide => calculate interpretation.divide

/-- The meaning of a test. -/
def examine : Test → Value → Option Value
  | .isNull, value => some (.truth (value = .null))
  | .isNotNull, value => some (.truth (value ≠ .null))
  | .isTrue, value => do return .truth ((← value.truth?) = some true)

/-- The meaning of a function; other functions than the extrema have none here. -/
def invoke
    (interpretation : Interpretation)
    (function : String)
    (arguments : List Value) : Option Value := do
  let numbers ← arguments.mapM Value.number?
  if function = Function.greatest.name then return .ofNumber (interpretation.greatest numbers)
  else if function = Function.least.name then return .ofNumber (interpretation.least numbers)
  else none

namespace Expression

mutual

/-- The value of an expression for a row; `none` if it mixes numbers and truth values. -/
def eval (interpretation : Interpretation) (row : Row) : Expression → Option Value
  | .null => some .null
  | .bool value => some (.truth value)
  | .numeral value => some (.number value)
  | .column name => some (.ofNumber (row name))
  | .minus operand => do
      let value ← (← operand.eval interpretation row).number?
      return .ofNumber (value.map fun number => -number)
  | .not operand => do
      let value ← (← operand.eval interpretation row).truth?
      return .ofTruth (value.map fun truth => ! truth)
  | .test operand kind => do examine kind (← operand.eval interpretation row)
  | .binary operator left right => do
      combine interpretation operator (← left.eval interpretation row)
        (← right.eval interpretation row)
  | .call function arguments => do
      invoke interpretation function (← evalAll interpretation row arguments)
  | .cases branches otherwise =>
      evalBranches interpretation row branches (otherwise.eval interpretation row)

/-- The values of expressions, one by one. -/
def evalAll
    (interpretation : Interpretation)
    (row : Row) : List Expression → Option (List Value)
  | [] => some []
  | first :: rest => do
      return (← first.eval interpretation row) :: (← evalAll interpretation row rest)

/-- The value of the first branch whose condition is true, or else the given one. -/
def evalBranches
    (interpretation : Interpretation)
    (row : Row) : List (Expression × Expression) → Option Value → Option Value
  | [], otherwise => otherwise
  | (condition, value) :: rest, otherwise => do
      if (← (← condition.eval interpretation row).truth?) = some true then
        value.eval interpretation row
      else
        evalBranches interpretation row rest otherwise

end

end Expression
end Reading
end RuleClause
