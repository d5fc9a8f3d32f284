import RuleClause.Json.Basic

/-!
# Rules

A rule is a literal, a list of rules, or an operation: the name of an operator
with its arguments.  Arguments are usually a list; a single argument may also
stand by itself.
-/

namespace RuleClause

/-- A rule in the form in which it is compiled. -/
inductive Rule where
  | null
  | bool (value : Bool)
  | number (value : Number)
  | string (value : String)
  | list (items : List Rule)
  | operation (operator : String) (arguments : Rule)
deriving Repr

namespace Rule

/-- The word for the kind of a rule. -/
def kind : Rule → String
  | .null => "null"
  | .bool _ => "boolean"
  | .number _ => "number"
  | .string _ => "string"
  | .list _ => "array"
  | .operation .. => "operation"

/-- A rule is a literal when it is neither a list nor an operation. -/
def isLiteral : Rule → Bool
  | .list _ | .operation .. => false
  | _ => true

/-- A rule is an operation. -/
def isOperation : Rule → Bool
  | .operation .. => true
  | _ => false

/-- The arguments of an operation, one by one: a list gives its items. -/
def operands : Rule → List Rule
  | .list items => items
  | argument => [argument]

/-- The text at the front of the arguments of a variable. -/
def leadingText? : Rule → Option String
  | .string name => some name
  | .list (.string name :: _) => some name
  | _ => none

/-- The name of the variable that a rule reads, if it is written as a text. -/
def variableName? : Rule → Option String
  | .operation operator arguments =>
      if operator = "var" then arguments.leadingText? else none
  | _ => none

/-- The text that a literal is compared by; null has none. -/
def literalText? : Rule → Option String
  | .string value => some value
  | .number value => some value.text
  | .bool value => some (if value then "true" else "false")
  | .null | .list _ | .operation .. => none

/-- Whether a literal or a list counts as true; the outcome of an operation is not known. -/
def truth? : Rule → Option Bool
  | .null => some false
  | .bool value => some value
  | .number value => some value.isNonzero
  | .string value => some (value != "")
  | .list items => some (! items.isEmpty)
  | .operation .. => none

mutual

/-- A rule as a JSON value. -/
def toJson : Rule → Json
  | .null => .null
  | .bool value => .bool value
  | .number value => .number value
  | .string value => .string value
  | .list items => .array (toJsonItems items)
  | .operation operator arguments => .object [(operator, arguments.toJson)]

/-- Rules as JSON values, one by one. -/
def toJsonItems : List Rule → List Json
  | [] => []
  | item :: rest => item.toJson :: toJsonItems rest

end

end Rule
end RuleClause
