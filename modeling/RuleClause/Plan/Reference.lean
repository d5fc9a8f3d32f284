import RuleClause.Plan.Call
import RuleClause.Sql.Literal

/-!
# Variables and missing fields

Outside of iterations a variable names a column.  Inside one it names the current
element, a member of it or an item of it; inside a reduction it names the element
or the running value explicitly.
-/

namespace RuleClause
namespace Reference

/-- The part of a name before its first dot, and the part after it. -/
def splitName (name : String) : String × Option String :=
  match name.toList.span (· != '.') with
  | (head, []) => (String.ofList head, none)
  | (head, _ :: rest) => (String.ofList head, some (String.ofList rest))

/-- What a name inside an iteration refers to: the element, or a member of it. -/
def inIteration (name : String) : Sql :=
  .bound .element (if name = "" then none else some name)

/-- What a name inside a reduction refers to; `none` if it refers to nothing. -/
def inReduction? (name : String) : Option Sql :=
  let (head, member) := splitName name
  if head = "" ∨ head = "current" then some (.bound .element member)
  else if head = "accumulator" then some (.bound .accumulator member)
  else none

/-- What a name refers to where it does not refer to a column. -/
def bound? : Scope → String → Option Sql
  | .row, _ => none
  | .element, name => some (inIteration name)
  | .reduction, name => inReduction? name

/-- The column, the element or the running value that a name at a place refers to. -/
def named
    (setting : Setting)
    (call : Call)
    (path : Path)
    (name : String) : Plan Sql :=
  match setting.scope with
  | .row => do
      setting.require name path
      return .column name
  | scope =>
      match bound? scope name with
      | some reference => .done reference
      | none => call.fail (.unknownReducerVariable name)

/-- What a variable with a text for its name refers to. -/
def textual (setting : Setting) (call : Call) (name : String) : Plan Sql :=
  if setting.scope = .row ∧ name = "" then call.fail .elementOutsideIteration
  else named setting call call.path name

/-- What a variable with a number for its name refers to. -/
def positional (setting : Setting) (call : Call) (value : Number) : Plan Sql :=
  match value.toIndex? with
  | none => call.fail (.positionNotNatural value.text)
  | some index =>
      if setting.scope = .row then call.fail .positionOutsideIteration
      else .done (.elementItem index)

/-- The item of the current element that a variable addresses, if it addresses one. -/
def item? (scope : Scope) (call : Call) : Option UInt64 :=
  if scope = .row then none
  else
    match call.operands with
    | [.number value] | [.number value, _] => value.toIndex?
    | _ => none

/-- What a variable refers to. -/
def reference (setting : Setting) (call : Call) : Rule → Plan Sql
  | .string name => textual setting call name
  | .number value => positional setting call value
  | other => call.failAt 0 (.variableKind other.kind)

/-- The type of the field that a variable's default stands in for. -/
def defaultType? (setting : Setting) : Rule → Option FieldType
  | .string name =>
      if setting.scope = .row then setting.schema.bind (·.type? name) else none
  | _ => none

/-- Refuses a default that is not among the values of an enum field. -/
def checkDefault
    (setting : Setting)
    (call : Call)
    (name default : Rule) : Plan Unit :=
  match defaultType? setting name, name with
  | some .enum, .string field =>
      setting.checkValue call field (call.operandPath 1) default
  | _, _ => .done ()

/-- A variable that takes a default where it is null. -/
def withDefault
    (setting : Setting)
    (call : Call)
    (name default : Rule) : Plan Sql := do
  let reference ← reference setting call name
  match Sql.ofLiteral? (defaultType? setting name) default with
  | none => call.failAt 1 (.defaultKind default.kind)
  | some fallback =>
      checkDefault setting call name default
      return .call .coalesce [reference, fallback]

/-- The plan of a variable. -/
def var (setting : Setting) (call : Call) : Plan Sql :=
  match call.operands with
  | [name] => reference setting call name
  | [name, default] => withDefault setting call name default
  | _ => call.failCount 1 2

/-- The fields that a list names, each at the place that `place` gives for its number. -/
def fields
    (setting : Setting)
    (call : Call)
    (place : Nat → Path) : Nat → List Rule → Plan (List Sql)
  | _, [] => .done []
  | index, .string name :: rest => do
      let first ← named setting call (place index) name
      let rest ← fields setting call place (index + 1) rest
      return first :: rest
  | index, other :: _ => .fail (call.errorAt (place index) (.fieldNameKind other.kind))

/-- The tests that each of the fields is null, with an operator between them. -/
def nullTests (operator : BinaryOp) (references : List Sql) : Sql :=
  .joined operator (references.map (.test · .isNull))

/-- The fields of which none must be missing; they may be listed once more. -/
def missingFields (setting : Setting) (call : Call) : Plan (List Sql) :=
  match call.operands with
  | [.list names] => fields setting call (call.itemPath 0) 0 names
  | operands => fields setting call call.operandPath 0 operands

/-- The plan of a test that some field is missing. -/
def missing (setting : Setting) (call : Call) : Plan Sql := do
  let references ← missingFields setting call
  if references.isEmpty then call.fail (.tooFewArguments call.operator 1 0)
  else return nullTests .or references

/-- One where a field is present, and zero where it is null. -/
def presence (reference : Sql) : Sql :=
  .cases [(.test reference .isNotNull, .integer 1)] (.integer 0)

/-- Fewer of the fields than the minimum are present. -/
def fewerThan (minimum : Int) (references : List Sql) : Sql :=
  if minimum ≤ 0 then .bool false
  else if (references.length : Int) < minimum then .bool true
  else if minimum = references.length then nullTests .or references
  else if minimum = 1 then nullTests .and references
  else
    .binary .less (.group .add (references.map presence)) (.integer minimum)

/-- The least number of fields that must be present. -/
def minimum (call : Call) : Rule → Plan Int
  | .number value =>
      match value.toSigned? with
      | some minimum => .done minimum
      | none => call.fail (.minimumNotInteger value.text)
  | other => call.failAt 0 (.minimumKind other.kind)

/-- The plan of a test that too few fields are present. -/
def missingSome (setting : Setting) (call : Call) : Plan Sql := do
  let (least, names) ← call.listedPair
  let least ← minimum call least
  match names with
  | .list names =>
      let references ← fields setting call (call.itemPath 1) 0 names
      return fewerThan least references
  | other => call.failAt 1 (.fieldListKind other.kind)

end Reference
end RuleClause
