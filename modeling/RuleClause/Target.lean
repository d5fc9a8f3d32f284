import RuleClause.Compile
import RuleClause.Custom.Registry
import RuleClause.Json.Nesting
import RuleClause.Json.Reader
import RuleClause.Rule.OfJson
import RuleClause.Schema.Document

/-!
# Targets

A target is what rules are compiled for: a dialect, perhaps a schema, custom
operators and a limit on nesting.  Rules come as JSON text, as JSON values or as
they are; each form goes through the checks of the next.
-/

namespace RuleClause

/-- What rules are compiled for. -/
structure Target where
  /-- The dialect of the conditions. -/
  dialect : Dialect
  /-- The schema, if there is one. -/
  schema : Option Schema
  /-- The custom operators. -/
  registry : Registry
  /-- The number of levels that may surround an operation. -/
  maxDepth : Nat

/-- The limit on nesting where none is set. -/
def defaultMaxDepth : Nat := 128

/-- A rule as it is handed in. -/
inductive Source where
  /-- JSON text. -/
  | text (text : String)
  /-- A JSON value. -/
  | json (value : Json)
  /-- A rule. -/
  | rule (rule : Rule)

/-- The keyword in front of a condition that makes it a clause. -/
def clauseKeyword : String := "WHERE "

namespace Context

section

variable {m : Type → Type} [Monad m] [MonadExceptOf Error m] [MonadOverflow m]

/-- The brackets of a text may nest as deep as this: each level opens two at most. -/
def bracketLimit (context : Context m) : Nat :=
  (context.maxDepth + 1) * 2

/-- Reads a rule as JSON text; of a repeated key the last value stands. -/
def readText (context : Context m) (text : String) : Except Error Json :=
  if Json.bracketsExceed context.bracketLimit text then
    .error (.ofFault (.tooDeep context.maxDepth))
  else
    match Json.parse? text with
    | some value => .ok value.merged
    | none => .error (.ofFault .malformedJson)

/-- The rule that is handed in. -/
def readRule (context : Context m) : Source → Except Error Rule
  | .text text => do Rule.ofJson context.maxDepth (← context.readText text)
  | .json value => Rule.ofJson context.maxDepth value
  | .rule rule => .ok rule

/-- The condition that a rule stands for. -/
def condition (context : Context m) (source : Source) : m String := do
  let rule ← MonadExcept.ofExcept (context.readRule source)
  let expression ← context.compile rule
  return expression.render context.dialect

end

end Context

namespace Target

/-- A target for a dialect, with nothing else set. -/
def ofDialect (dialect : Dialect) : Target :=
  ⟨dialect, none, .empty, defaultMaxDepth⟩

/-- Sets the schema, or takes it away. -/
def withSchema (target : Target) (schema : Option Schema) : Target :=
  { target with schema := schema }

/-- Sets the limit on nesting. -/
def withMaxDepth (target : Target) (maxDepth : Nat) : Target :=
  { target with maxDepth := maxDepth }

/-- Registers a custom operator. -/
def register
    (target : Target)
    (name : String)
    (handler : Handler) : Except RegistryError Target :=
  (target.registry.register name handler).map fun registry =>
    { target with registry := registry }

/-- Removes a custom operator, and tells whether there was one. -/
def unregister (target : Target) (name : String) : Bool × Target :=
  let (found, registry) := target.registry.unregister name
  (found, { target with registry := registry })

/-- Removes every custom operator. -/
def clearOperators (target : Target) : Target :=
  { target with registry := .empty }

/-- Takes over the custom operators of another target. -/
def mergeOperators (target other : Target) : Target :=
  { target with registry := target.registry.merge other.registry }

/-- A compilation for the target.  Its custom operators are the registered ones. -/
def context (target : Target) : Context (Except Error) where
  dialect := target.dialect
  schema := target.schema
  maxDepth := target.maxDepth
  custom name := (target.registry.get? name).map fun handler arguments =>
    .ok (handler.answer name arguments target.dialect)

/-- The condition that a rule stands for. -/
def condition (target : Target) (source : Source) : Except Error String :=
  target.context.condition source

/-- The condition that a rule stands for, as a clause. -/
def clause (target : Target) (source : Source) : Except Error String := do
  return clauseKeyword ++ (← target.condition source)

end Target
end RuleClause
