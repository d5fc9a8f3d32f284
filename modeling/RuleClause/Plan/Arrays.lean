import RuleClause.Plan.Call
import RuleClause.Sql.Literal

/-!
# Arrays

Iterations compile their body in a scope in which names refer to the current
element.  Where a dialect reduces arrays by aggregates only, a reducer must
combine the running value with a value per element, and that value must not
mention the running value.
-/

namespace RuleClause
namespace Arrays

/-- Refuses items that are not among the values of an enum field, from an index on. -/
def checkItems
    (setting : Setting)
    (call : Call)
    (field : Option (String × FieldType)) : Nat → List Rule → Plan Unit
  | _, [] => .done ()
  | inner, item :: rest => do
      setting.checkAgainst call field (call.itemPath 1 inner) item
      checkItems setting call field (inner + 1) rest

/-- The plan of finding a value in a written list. -/
def membershipIn
    (setting : Setting)
    (call : Call)
    (needle : Rule)
    (items : List Rule) : Plan Sql :=
  if items.isEmpty then .done (.bool false)
  else do
    checkItems setting call (setting.field? needle) 0 items
    let value ← setting.ask 0 none
    let items ← setting.askParts 1 (setting.type? needle) 0 items.length
    return .oneOf value items

/-- What is searched. -/
inductive Haystack where
  /-- An array, for an element. -/
  | array
  /-- A text, for a part. -/
  | text
deriving DecidableEq, Repr

/-- The operators that give texts. -/
def givesText (operator : String) : Bool :=
  operator == "cat" || operator == "substr"

/-- What an operand is when it is searched: its field decides, if it reads a declared one. -/
def haystack (setting : Setting) (call : Call) (operand : Rule) : Plan Haystack :=
  match operand, setting.field? operand with
  | .string _, _ => .done .text
  | _, some (_, .array) => .done .array
  | _, some (_, .string) => .done .text
  | _, some (_, .enum) => .done .text
  | _, some (name, type) => call.failAt 1 (.unsearchableField name type)
  | .operation operator _, none =>
      .done (if givesText operator then .text else .array)
  | _, none => .done .array

/-- The plan of finding a value in a list, an array or a text. -/
def membership (setting : Setting) (call : Call) : Plan Sql := do
  let (needle, operand) ← call.listedPair
  match operand with
  | .list items => membershipIn setting call needle items
  | operand =>
      let haystack ← haystack setting call operand
      let value ← setting.ask 0 none
      let target ← setting.ask 1 none
      match haystack with
      | .array => return .arrayContains target value
      | .text => return .contains target value

/-- The array that an iteration runs over. -/
def source (setting : Setting) (call : Call) (operand : Rule) : Plan Sql := do
  setting.gate call .array 0 operand
  setting.ask 0 none

/-- Asks for the second operand, the body of an iteration. -/
def body (scope : Scope) : Plan Sql :=
  .request ⟨.operand 1, scope, none⟩

/-- The plan of an iteration over an array. -/
def iteration
    (setting : Setting)
    (call : Call)
    (build : Sql → Sql → Sql) : Plan Sql := do
  let (operand, _) ← call.listedPair
  let array ← source setting call operand
  return build array (← body .element)

/-- A rule reads exactly the running value. -/
def isAccumulator (rule : Rule) : Bool :=
  rule.variableName? == some "accumulator"

/-- A name reads the running value or a member of it. -/
def namesAccumulator (name : String) : Bool :=
  name == "accumulator" || "accumulator.".toList.isPrefixOf name.toList

mutual

/-- Some variable inside a rule reads the running value. -/
def mentionsAccumulator : Rule → Bool
  | .operation operator arguments =>
      (Rule.operation operator arguments).variableName?.any namesAccumulator ||
        mentionsAccumulator arguments
  | .list items => someMentionsAccumulator items
  | _ => false

/-- Some variable inside some of the rules reads the running value. -/
def someMentionsAccumulator : List Rule → Bool
  | [] => false
  | item :: rest => mentionsAccumulator item || someMentionsAccumulator rest

end

/-- The aggregate that a reducing operator stands for. -/
def aggregate? (operator : String) : Option Dialect.Aggregate :=
  if operator = "+" then some .sum
  else if operator = "max" then some .max
  else if operator = "min" then some .min
  else none

/-- Which of two terms is the value per element, if the other is the running value. -/
def valueIndex? : List Rule → Option Nat
  | [first, second] =>
      if isAccumulator first && ! mentionsAccumulator second then some 1
      else if isAccumulator second && ! mentionsAccumulator first then some 0
      else none
  | _ => none

/-- A reducer as an aggregate, with the number of the term that is its value per element. -/
def aggregateOf? : Rule → Option (Dialect.Aggregate × Nat)
  | .operation operator (.list terms) => do
      let aggregate ← aggregate? operator
      let index ← valueIndex? terms
      return (aggregate, index)
  | _ => none

/-- The plan of a reduction. -/
def reduce (dialect : Dialect) (setting : Setting) (call : Call) : Plan Sql := do
  let (operand, reducer, _) ← call.listedTriple
  let array ← source setting call operand
  let initial ← setting.ask 2 none
  match dialect.forms.iteration with
  | .lambda functions => return .folded functions array (← body .reduction) initial
  | .subquery naming =>
      match aggregateOf? reducer with
      | none => call.fail (.reducerForm dialect)
      | some (aggregate, index) =>
          let value ← Plan.request ⟨.part 1 index, .reduction, some .number⟩
          return .aggregated naming aggregate array value initial

/-- The items of operands that are lists or literals, from an index on. -/
def mergedItems (setting : Setting) : Nat → List Rule → Plan (List Sql)
  | _, [] => .done []
  | index, .list items :: rest => do
      let items ← setting.askParts index none 0 items.length
      let rest ← mergedItems setting (index + 1) rest
      return items ++ rest
  | index, _ :: rest => do
      let item ← setting.ask index none
      let rest ← mergedItems setting (index + 1) rest
      return item :: rest

/-- Each operand as an array, from an index on; a literal is an array of one item. -/
def mergedArrays (setting : Setting) (call : Call) : Nat → List Rule → Plan (List Sql)
  | _, [] => .done []
  | index, operand :: rest => do
      setting.gate call .array index operand
      let expression ← setting.ask index none
      let array := if operand.isLiteral then .array [expression] else expression
      let rest ← mergedArrays setting call (index + 1) rest
      return array :: rest

/-- Arrays one after the other; a single one stands by itself. -/
def concatenated : List Sql → Sql
  | [single] => single
  | arrays => .arrayConcat arrays

/-- The plan of joining arrays; lists and literals alone become one written array. -/
def merge (setting : Setting) (call : Call) : Plan Sql := do
  if call.operands.any Rule.isOperation then
    return concatenated (← mergedArrays setting call 0 call.operands)
  else
    return .array (← mergedItems setting 0 call.operands)

end Arrays
end RuleClause
