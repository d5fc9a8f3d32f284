import RuleClause.Dialect.Basic

/-!
# Where dialects differ

Most of SQL is written alike everywhere.  The forms of a dialect are the choices
it makes for the rest: how a quote is escaped, how arrays are written, indexed,
searched, joined and iterated over, and what some functions are called.
-/

namespace RuleClause
namespace Dialect

/-- How a quote inside a text is escaped. -/
inductive QuoteForm where
  /-- The quote is written twice. -/
  | doubled
  /-- The quote and the backslash are written after a backslash. -/
  | backslash
deriving DecidableEq, Repr

/-- How the items of an array are enclosed. -/
inductive ArrayForm where
  /-- Square brackets alone. -/
  | brackets
  /-- Square brackets after a keyword. -/
  | keyword
deriving DecidableEq, Repr

/-- How an item of an array is addressed. -/
inductive IndexForm where
  /-- By the number of items before it. -/
  | offset
  /-- By its number, counted from one. -/
  | ordinal
deriving DecidableEq, Repr

/-- How a part of a text is taken. -/
inductive SubstringForm where
  /-- By a function with the place and the length as arguments. -/
  | call (function : String)
  /-- By a function with keywords between its arguments. -/
  | keywords
deriving DecidableEq, Repr

/-- How a text is found inside another. -/
inductive ContainmentForm where
  /-- By a function that takes the searched text first. -/
  | call (function : String)
  /-- By a function with a keyword between its arguments. -/
  | keyword
deriving DecidableEq, Repr

/-- How a value is found in an array. -/
inductive MembershipForm where
  /-- Among the rows of the unnested array. -/
  | unnested
  /-- By a comparison with any item. -/
  | any
  /-- By a function of the array and the value. -/
  | call (function : String)
deriving DecidableEq, Repr

/-- How arrays are joined. -/
inductive ConcatForm where
  /-- By a function of any number of arrays. -/
  | variadic (function : String)
  /-- By a function of two arrays, applied from the left. -/
  | binary (function : String)
  /-- By an operator between the arrays. -/
  | between (symbol : String)
deriving DecidableEq, Repr

/-- How a remainder is taken. -/
inductive RemainderForm where
  /-- By an operator between the terms. -/
  | between
  /-- By a function of two terms, applied from the left. -/
  | call (function : String)
deriving DecidableEq, Repr

/-- How the rows of an unnested array are named. -/
inductive NamingForm where
  /-- The name stands for the row. -/
  | plain
  /-- The name stands for a column of a table. -/
  | column
deriving DecidableEq, Repr

/-- The functions that take a lambda, and the place of their array. -/
structure LambdaForm where
  /-- Applies the lambda to each item. -/
  map : String
  /-- Keeps the items for which the lambda holds. -/
  filter : String
  /-- Combines the items one after the other. -/
  fold : String
  /-- Whether the array comes before the lambda. -/
  arrayFirst : Bool
deriving DecidableEq, Repr

/-- How arrays are mapped, filtered and reduced. -/
inductive IterationForm where
  /-- By a query over the unnested array. -/
  | subquery (naming : NamingForm)
  /-- By functions that take a lambda. -/
  | lambda (functions : LambdaForm)
deriving DecidableEq, Repr

/-- How a condition is stated of the items of an array. -/
inductive QuantifierForm where
  /-- By the existence of a row of the unnested array. -/
  | rows (naming : NamingForm)
  /-- By functions that take a lambda. -/
  | lambda (forAll forSome : String)
deriving DecidableEq, Repr

/-- The choices of one dialect. -/
structure Forms where
  quote : QuoteForm
  array : ArrayForm
  /-- The function that counts the items of an array. -/
  arrayLength : String
  index : IndexForm
  /-- The function that counts the characters of a text. -/
  textLength : String
  substring : SubstringForm
  containment : ContainmentForm
  membership : MembershipForm
  concat : ConcatForm
  /-- The type that a text is cast to when a number is wanted. -/
  numericType : String
  remainder : RemainderForm
  iteration : IterationForm
  quantifier : QuantifierForm
deriving DecidableEq, Repr

/-- The choices of each dialect. -/
def forms : Dialect → Forms
  | .bigQuery =>
      { quote := .backslash
        array := .brackets
        arrayLength := "ARRAY_LENGTH"
        index := .offset
        textLength := "LENGTH"
        substring := .call "SUBSTR"
        containment := .call "STRPOS"
        membership := .unnested
        concat := .variadic "ARRAY_CONCAT"
        numericType := "FLOAT64"
        remainder := .call "MOD"
        iteration := .subquery .plain
        quantifier := .rows .plain }
  | .spanner =>
      { quote := .backslash
        array := .brackets
        arrayLength := "ARRAY_LENGTH"
        index := .offset
        textLength := "CHAR_LENGTH"
        substring := .call "SUBSTR"
        containment := .call "STRPOS"
        membership := .unnested
        concat := .variadic "ARRAY_CONCAT"
        numericType := "FLOAT64"
        remainder := .call "MOD"
        iteration := .subquery .plain
        quantifier := .rows .plain }
  | .postgreSQL =>
      { quote := .doubled
        array := .keyword
        arrayLength := "CARDINALITY"
        index := .ordinal
        textLength := "LENGTH"
        substring := .keywords
        containment := .keyword
        membership := .any
        concat := .between "||"
        numericType := "NUMERIC"
        remainder := .between
        iteration := .subquery .plain
        quantifier := .rows .plain }
  | .duckDB =>
      { quote := .doubled
        array := .brackets
        arrayLength := "LEN"
        index := .ordinal
        textLength := "LENGTH"
        substring := .call "SUBSTRING"
        containment := .keyword
        membership := .call "list_contains"
        concat := .binary "list_concat"
        numericType := "DOUBLE"
        remainder := .between
        iteration :=
          .lambda ⟨"list_transform", "list_filter", "list_reduce", true⟩
        quantifier := .rows .column }
  | .clickHouse =>
      { quote := .doubled
        array := .brackets
        arrayLength := "length"
        index := .ordinal
        textLength := "lengthUTF8"
        substring := .call "substring"
        containment := .call "position"
        membership := .call "has"
        concat := .variadic "arrayConcat"
        numericType := "Float64"
        remainder := .between
        iteration := .lambda ⟨"arrayMap", "arrayFilter", "arrayFold", false⟩
        quantifier := .lambda "arrayAll" "arrayExists" }

end Dialect
end RuleClause
