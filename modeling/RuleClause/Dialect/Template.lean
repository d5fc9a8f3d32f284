import RuleClause.Dialect.Forms

/-!
# Templates of SQL text

Each template puts fragments of SQL together in the form of a dialect.  The
fragments are complete as they stand; no template looks inside them.
-/

namespace RuleClause
namespace Dialect

/-- Fragments divided by commas. -/
def commas (fragments : List String) : String :=
  ", ".intercalate fragments

/-- Fragments with an operator between them. -/
def between (symbol : String) (fragments : List String) : String :=
  (" " ++ symbol ++ " ").intercalate fragments

/-- A fragment in parentheses. -/
def parenthesized (fragment : String) : String :=
  "(" ++ fragment ++ ")"

/-- A function with its arguments. -/
def call (function : String) (arguments : List String) : String :=
  function ++ parenthesized (commas arguments)

/-- A function of two arguments, applied from the left to any number of them. -/
def callFromLeft (function : String) : List String → String
  | [] => ""
  | first :: rest => rest.foldl (fun left right => call function [left, right]) first

/-- A character of a text as it stands between quotes. -/
def QuoteForm.escape : QuoteForm → Char → List Char
  | .doubled, '\'' => ['\'', '\'']
  | .backslash, '\'' => ['\\', '\'']
  | .backslash, '\\' => ['\\', '\\']
  | _, character => [character]

/-- A text as a literal. -/
def quote (dialect : Dialect) (text : String) : String :=
  "'" ++ String.ofList (text.toList.flatMap dialect.forms.quote.escape) ++ "'"

/-- An array of the given items. -/
def arrayLiteral (dialect : Dialect) (items : List String) : String :=
  match dialect.forms.array with
  | .brackets => "[" ++ commas items ++ "]"
  | .keyword => "ARRAY[" ++ commas items ++ "]"

/-- The number of items of an array. -/
def arrayLength (dialect : Dialect) (array : String) : String :=
  call dialect.forms.arrayLength [array]

/--
The item of an array with the given number of items before it.  The number is a word,
and so is the one that counts from one: behind the last number comes zero.
-/
def arrayItem (dialect : Dialect) (array : String) (index : UInt64) : String :=
  match dialect.forms.index with
  | .offset => array ++ "[OFFSET(" ++ Nat.repr index.toNat ++ ")]"
  | .ordinal => array ++ "[" ++ Nat.repr (index + 1).toNat ++ "]"

/-- To address an item takes a sum that does not fit a word. -/
def overflows (dialect : Dialect) (index : UInt64) : Bool :=
  match dialect.forms.index with
  | .offset => false
  | .ordinal => UInt64.size ≤ index.toNat + 1

/-- The number of characters of a text. -/
def textLength (dialect : Dialect) (text : String) : String :=
  call dialect.forms.textLength [text]

/-- The part of a text from a place on, up to a length if one is given. -/
def substring
    (dialect : Dialect)
    (text start : String)
    (length : Option String) : String :=
  match dialect.forms.substring, length with
  | .call function, some length => call function [text, start, length]
  | .call function, none => call function [text, start]
  | .keywords, some length =>
      "SUBSTRING(" ++ text ++ " FROM " ++ start ++ " FOR " ++ length ++ ")"
  | .keywords, none => "SUBSTRING(" ++ text ++ " FROM " ++ start ++ ")"

/-- A text holds another. -/
def contains (dialect : Dialect) (haystack needle : String) : String :=
  match dialect.forms.containment with
  | .call function => call function [haystack, needle] ++ " > 0"
  | .keyword => "POSITION(" ++ needle ++ " IN " ++ haystack ++ ") > 0"

/-- An array holds a value. -/
def arrayContains (dialect : Dialect) (array value : String) : String :=
  match dialect.forms.membership with
  | .unnested => value ++ " IN UNNEST(" ++ array ++ ")"
  | .any => value ++ " = ANY(" ++ array ++ ")"
  | .call function => call function [array, value]

/-- The items of some arrays, one array after the other. -/
def arrayConcat (dialect : Dialect) (arrays : List String) : String :=
  match dialect.forms.concat with
  | .variadic function => call function arrays
  | .binary function => callFromLeft function arrays
  | .between symbol => parenthesized (between symbol arrays)

/-- The remainder of the first term by the second, and so on from the left. -/
def remainder (dialect : Dialect) (terms : List String) : String :=
  match dialect.forms.remainder with
  | .between => parenthesized (between "%" terms)
  | .call function => callFromLeft function terms

/-- A value as a number. -/
def numericCast (dialect : Dialect) (value : String) : String :=
  "CAST(" ++ value ++ " AS " ++ dialect.forms.numericType ++ ")"

/-- The name of the current element of an iteration. -/
def elementName : String := "elem"

/-- The name of the running value of a reduction. -/
def accumulatorName : String := "acc"

/-- The items of an array as rows, each under the given name. -/
def NamingForm.unnest (naming : NamingForm) (array element : String) : String :=
  match naming with
  | .plain => "UNNEST(" ++ array ++ ") AS " ++ element
  | .column => "UNNEST(" ++ array ++ ") AS t(" ++ element ++ ")"

/-- The form in which a quantified condition names rows. -/
def quantifierNaming (dialect : Dialect) : NamingForm :=
  match dialect.forms.quantifier with
  | .rows naming => naming
  | .lambda .. => .plain

/-- A function that takes an array and a lambda, with an initial value if one is given. -/
def LambdaForm.apply
    (functions : LambdaForm)
    (function array lambda : String)
    (initial : Option String) : String :=
  let arguments := if functions.arrayFirst then [array, lambda] else [lambda, array]
  call function (arguments ++ initial.toList)

/-- A function of the current element. -/
def elementLambda (body : String) : String :=
  elementName ++ " -> " ++ body

/-- A function of the running value and the current element. -/
def foldLambda (body : String) : String :=
  "(" ++ commas [accumulatorName, elementName] ++ ") -> " ++ body

/-- The array of what an expression gives for each element. -/
def mapped (dialect : Dialect) (array body : String) : String :=
  match dialect.forms.iteration with
  | .subquery naming =>
      "ARRAY(SELECT " ++ body ++ " FROM " ++ naming.unnest array elementName ++ ")"
  | .lambda functions =>
      functions.apply functions.map array (elementLambda body) none

/-- The array of the elements for which a condition holds. -/
def filtered (dialect : Dialect) (array condition : String) : String :=
  match dialect.forms.iteration with
  | .subquery naming =>
      "ARRAY(SELECT " ++ elementName ++ " FROM " ++ naming.unnest array elementName ++
        " WHERE " ++ condition ++ ")"
  | .lambda functions =>
      functions.apply functions.filter array (elementLambda condition) none

/-- The running value after the last element. -/
def LambdaForm.folded
    (functions : LambdaForm)
    (array body initial : String) : String :=
  functions.apply functions.fold array (foldLambda body) (some initial)

/-- The ways to combine a value per element without a running value. -/
inductive Aggregate where
  | sum
  | max
  | min
deriving DecidableEq, Repr

/-- An initial value combined with the values of all elements. -/
def NamingForm.aggregated
    (naming : NamingForm)
    (aggregate : Aggregate)
    (array value initial : String) : String :=
  let combined :=
    match aggregate with
    | .sum =>
        initial ++ " + " ++ call "COALESCE" [call "SUM" [value], "0"]
    | .max =>
        call "GREATEST" [initial, call "COALESCE" [call "MAX" [value], initial]]
    | .min =>
        call "LEAST" [initial, call "COALESCE" [call "MIN" [value], initial]]
  "(SELECT " ++ combined ++ " FROM " ++ naming.unnest array elementName ++ ")"

/-- How many of the elements a condition must hold for. -/
inductive Quantity where
  | all
  | some
  | none
deriving DecidableEq, Repr

/-- There is a row of the array for which a condition holds. -/
def NamingForm.rowExists (naming : NamingForm) (array condition : String) : String :=
  "EXISTS (SELECT 1 FROM " ++ naming.unnest array elementName ++ " WHERE " ++
    condition ++ ")"

/-- A condition holds for all, for some or for none of the elements. -/
def quantified
    (dialect : Dialect)
    (quantity : Quantity)
    (array condition : String) : String :=
  match dialect.forms.quantifier, quantity with
  | .rows naming, .all =>
      "NOT " ++ naming.rowExists array ("NOT " ++ parenthesized condition)
  | .rows naming, .some => naming.rowExists array condition
  | .rows naming, .none => "NOT " ++ naming.rowExists array condition
  | .lambda forAll _, .all => call forAll [elementLambda condition, array]
  | .lambda _ forSome, .some => call forSome [elementLambda condition, array]
  | .lambda _ forSome, .none => "NOT " ++ call forSome [elementLambda condition, array]

end Dialect
end RuleClause
