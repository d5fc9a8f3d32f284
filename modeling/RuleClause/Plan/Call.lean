import RuleClause.Plan.Basic
import RuleClause.Rule.Basic
import RuleClause.Schema.Basic

/-!
# Operations under way

A call is an operation together with its place.  This module holds what the plans
of all operators share: counting arguments, asking for operands, and checking the
fields among the operands against the schema.
-/

namespace RuleClause

/-- An operation and its place. -/
structure Call where
  /-- The name of the operator. -/
  operator : String
  /-- The arguments: a list, or a single rule that stands by itself. -/
  arguments : Rule
  /-- The place of the operation. -/
  path : Path
deriving Repr

namespace Call

/-- The arguments, one by one. -/
def operands (call : Call) : List Rule :=
  call.arguments.operands

/-- The place of an operand. -/
def operandPath (call : Call) (index : Nat) : Path :=
  match call.arguments with
  | .list _ => call.path.item index
  | _ => call.path

/-- The place of an item of an operand that is a list. -/
def itemPath (call : Call) (index inner : Nat) : Path :=
  (call.operandPath index).item inner

/-- An error of this operation at a place. -/
def errorAt (call : Call) (path : Path) (fault : Fault) : Error :=
  ((Error.ofFault fault).raisedBy call.operator).foundAt path

/-- An error of this operation. -/
def error (call : Call) (fault : Fault) : Error :=
  call.errorAt call.path fault

/-- Ends with an error of this operation. -/
def fail {α : Type} (call : Call) (fault : Fault) : Plan α :=
  .fail (call.error fault)

/-- Ends with an error at the place of an operand. -/
def failAt {α : Type} (call : Call) (index : Nat) (fault : Fault) : Plan α :=
  .fail (call.errorAt (call.operandPath index) fault)

/-- Ends with a complaint about too few arguments. -/
def failFew {α : Type} (call : Call) (required : Nat) : Plan α :=
  call.fail (.tooFewArguments call.operator required call.operands.length)

/-- Ends with a complaint about the number of arguments. -/
def failCount {α : Type} (call : Call) (least most : Nat) : Plan α :=
  if call.operands.length < least then call.failFew least
  else call.fail (.tooManyArguments call.operator most call.operands.length)

/-- The arguments, which must be listed. -/
def listed (call : Call) : Plan (List Rule) :=
  match call.arguments with
  | .list items => .done items
  | _ => call.fail (.needsArray call.operator)

/-- The arguments, of which there must be at least a number. -/
def atLeast (call : Call) (required : Nat) : Plan (List Rule) :=
  if call.operands.length < required then call.failFew required
  else .done call.operands

/-- The single argument. -/
def single (call : Call) : Plan Rule :=
  match call.operands with
  | [operand] => .done operand
  | _ => call.failCount 1 1

/-- The two arguments. -/
def pair (call : Call) : Plan (Rule × Rule) :=
  match call.operands with
  | [first, second] => .done (first, second)
  | _ => call.failCount 2 2

/-- The two arguments, which must be listed. -/
def listedPair (call : Call) : Plan (Rule × Rule) := do
  let _ ← call.listed
  call.pair

/-- The three arguments, which must be listed. -/
def listedTriple (call : Call) : Plan (Rule × Rule × Rule) := do
  match ← call.listed with
  | [first, second, third] => .done (first, second, third)
  | _ => call.failCount 3 3

/-- The arguments, which must be listed and at least a number. -/
def listedAtLeast (call : Call) (required : Nat) : Plan (List Rule) := do
  let _ ← call.listed
  call.atLeast required

end Call

/-- What the plans of operators depend on besides the operation. -/
structure Setting where
  /-- The schema, if there is one. -/
  schema : Option Schema
  /-- What names refer to. -/
  scope : Scope

namespace Setting

/-- The request for an operand whose literals meet a field of the given type. -/
def operandRequest (setting : Setting) (hint : Option FieldType) (index : Nat) : Request :=
  ⟨.operand index, setting.scope, hint⟩

/-- The request for a part of an operand. -/
def partRequest
    (setting : Setting)
    (index : Nat)
    (hint : Option FieldType)
    (inner : Nat) : Request :=
  ⟨.part index inner, setting.scope, hint⟩

/-- Asks for an operand whose literals meet a field of the given type. -/
def ask (setting : Setting) (index : Nat) (hint : Option FieldType) : Plan Sql :=
  .request (setting.operandRequest hint index)

/-- Asks for a number of operands, from an index on. -/
def askEach
    (setting : Setting)
    (hint : Option FieldType)
    (index count : Nat) : Plan (List Sql) :=
  .requestEach (setting.operandRequest hint) index count

/-- Asks for a number of parts of an operand, from an inner index on. -/
def askParts
    (setting : Setting)
    (index : Nat)
    (hint : Option FieldType)
    (inner count : Nat) : Plan (List Sql) :=
  .requestEach (setting.partRequest index hint) inner count

/-- The declared field that a rule reads: its name and its type. -/
def field? (setting : Setting) (rule : Rule) : Option (String × FieldType) :=
  match setting.scope, setting.schema, rule.variableName? with
  | .row, some schema, some name => (schema.type? name).map (name, ·)
  | _, _, _ => none

/-- The type of the declared field that a rule reads. -/
def type? (setting : Setting) (rule : Rule) : Option FieldType :=
  (setting.field? rule).map (·.2)

/-- Refuses an operand that reads a field which the operator cannot use. -/
def gate
    (setting : Setting)
    (call : Call)
    (usage : Usage)
    (index : Nat)
    (rule : Rule) : Plan Unit :=
  match setting.field? rule with
  | some (name, type) =>
      .ofExcept ((Schema.checkType usage call.operator name type).mapError
        (·.foundAt (call.operandPath index)))
  | none => .done ()

/-- Refuses operands that read fields which the operator cannot use, from an index on. -/
def gateEach
    (setting : Setting)
    (call : Call)
    (usage : Usage) : Nat → List Rule → Plan Unit
  | _, [] => .done ()
  | index, rule :: rest => do
      setting.gate call usage index rule
      setting.gateEach call usage (index + 1) rest

/-- Refuses a literal at a place that is not among the values of an enum field. -/
def checkValue
    (setting : Setting)
    (call : Call)
    (name : String)
    (path : Path)
    (value : Rule) : Plan Unit :=
  match setting.schema, value.literalText? with
  | some schema, some text =>
      .ofExcept ((schema.checkValue name text).mapError
        fun error => (error.raisedBy call.operator).foundAt path)
  | _, _ => .done ()

/-- Refuses a literal that meets an enum field and is not among its values. -/
def checkAgainst
    (setting : Setting)
    (call : Call)
    (field : Option (String × FieldType))
    (path : Path)
    (value : Rule) : Plan Unit :=
  match field with
  | some (name, .enum) => setting.checkValue call name path value
  | _ => .done ()

/-- Refuses a name at a place that the schema does not know. -/
def require (setting : Setting) (name : String) (path : Path) : Plan Unit :=
  match setting.schema with
  | some schema => .ofExcept ((schema.require name).mapError (·.foundAt path))
  | none => .done ()

end Setting
end RuleClause
