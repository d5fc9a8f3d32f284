import RuleClause.Dialect.Template

/-!
# SQL expressions

The expressions that rules compile to, before they are written in a dialect.
Each form of expression is one that some dialects write differently, or that all
of them write alike.  Grouping is part of the expression: a `group` is written
in parentheses and a `binary` is not.
-/

namespace RuleClause

/-- Operators between two expressions. -/
inductive BinaryOp where
  | equal
  | notEqual
  | unequal
  | less
  | lessEqual
  | greater
  | greaterEqual
  | and
  | or
  | add
  | subtract
  | multiply
  | divide
deriving DecidableEq, Repr

/-- The spelling of an operator. -/
def BinaryOp.symbol : BinaryOp → String
  | .equal => "="
  | .notEqual => "!="
  | .unequal => "<>"
  | .less => "<"
  | .lessEqual => "<="
  | .greater => ">"
  | .greaterEqual => ">="
  | .and => "AND"
  | .or => "OR"
  | .add => "+"
  | .subtract => "-"
  | .multiply => "*"
  | .divide => "/"

/-- Tests of a single expression. -/
inductive Test where
  | isNull
  | isNotNull
  | isTrue
deriving DecidableEq, Repr

/-- The spelling of a test, after the expression it tests. -/
def Test.keywords : Test → String
  | .isNull => "IS NULL"
  | .isNotNull => "IS NOT NULL"
  | .isTrue => "IS TRUE"

/-- Functions that every dialect spells alike. -/
inductive Function where
  | coalesce
  | greatest
  | least
  | concat
deriving DecidableEq, Repr

/-- The spelling of a function. -/
def Function.name : Function → String
  | .coalesce => "COALESCE"
  | .greatest => "GREATEST"
  | .least => "LEAST"
  | .concat => "CONCAT"

/-- The names that an iteration binds. -/
inductive Binding where
  /-- The current element. -/
  | element
  /-- The running value of a reduction. -/
  | accumulator
deriving DecidableEq, Repr

/-- The spelling of a bound name. -/
def Binding.name : Binding → String
  | .element => Dialect.elementName
  | .accumulator => Dialect.accumulatorName

/-- An SQL expression. -/
inductive Sql where
  | null
  | bool (value : Bool)
  /-- A number, by its text. -/
  | number (text : String)
  /-- A text, to be quoted. -/
  | string (value : String)
  /-- A column, by its name as written. -/
  | column (name : String)
  /-- A bound name, or a member of what it stands for. -/
  | bound (binding : Binding) (member : Option String)
  /-- The item of the current element with the given number of items before it. -/
  | elementItem (index : UInt64)
  /-- A fragment that a custom operator has written. -/
  | fragment (text : String)
  /-- An array of the given items. -/
  | array (items : List Sql)
  /-- A test of an expression. -/
  | test (operand : Sql) (check : Test)
  /-- The negation of a condition. -/
  | not (operand : Sql)
  /-- A minus sign in front of an expression. -/
  | minus (operand : Sql)
  /-- A minus sign in front of an expression in parentheses. -/
  | minusGroup (operand : Sql)
  /-- An operator between two expressions, without parentheses. -/
  | binary (operator : BinaryOp) (left right : Sql)
  /-- Expressions with an operator between them, in parentheses. -/
  | group (operator : BinaryOp) (terms : List Sql)
  /-- A function with its arguments. -/
  | call (function : Function) (arguments : List Sql)
  /-- A value as a number. -/
  | numericCast (operand : Sql)
  /-- The value of the first branch whose condition holds. -/
  | cases (branches : List (Sql × Sql)) (otherwise : Sql)
  /-- The remainder of the first term by the second, and so on from the left. -/
  | remainder (terms : List Sql)
  /-- The number of characters of a text. -/
  | textLength (operand : Sql)
  /-- The number of items of an array. -/
  | arrayLength (operand : Sql)
  /-- The part of a text from a place on, up to a length if one is given. -/
  | substring (operand start : Sql) (length : Option Sql)
  /-- A value is one of those listed. -/
  | oneOf (value : Sql) (items : List Sql)
  /-- A text holds another. -/
  | contains (haystack needle : Sql)
  /-- An array holds a value. -/
  | arrayContains (source value : Sql)
  /-- The items of some arrays, one array after the other. -/
  | arrayConcat (arrays : List Sql)
  /-- The array of what an expression gives for each element. -/
  | mapped (source body : Sql)
  /-- The array of the elements for which a condition holds. -/
  | filtered (source condition : Sql)
  /-- The running value after the last element, by a lambda. -/
  | folded (functions : Dialect.LambdaForm) (source body initial : Sql)
  /-- An initial value combined with a value per element, by a query. -/
  | aggregated
      (naming : Dialect.NamingForm)
      (aggregate : Dialect.Aggregate)
      (source value initial : Sql)
  /-- A condition holds for all, for some or for none of the elements. -/
  | quantified (quantity : Dialect.Quantity) (source condition : Sql)
deriving Repr

namespace Sql

/-- A whole number. -/
def integer (value : Int) : Sql :=
  .number (match value with
    | .ofNat value => Nat.repr value
    | .negSucc value => "-" ++ Nat.repr (value + 1))

/-- Expressions with an operator between them; a single one stands by itself. -/
def joined (operator : BinaryOp) : List Sql → Sql
  | [single] => single
  | terms => .group operator terms

end Sql
end RuleClause
