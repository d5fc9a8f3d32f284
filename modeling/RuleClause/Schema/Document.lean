import RuleClause.Json.Nesting
import RuleClause.Json.Reader
import RuleClause.Schema.Basic

/-!
# Schema documents

A document lists the fields of a schema, either by itself or under the key
`fields`.  A field is an object with its parts under their names, or a list of
its parts in order.  Other keys are ignored; a part must not be given twice.
-/

namespace RuleClause
namespace Schema

/-- The value under any of the given keys: `none` if it is given twice. -/
def part? (keys : List String) (members : List (String × Json)) : Option (Option Json) :=
  match members.filter (keys.contains ·.1) with
  | [] => some none
  | [(_, value)] => some (some value)
  | _ => none

/-- A field type: its name, or an object that holds null under its name. -/
def typeOfJson? : Json → Option FieldType
  | .string name => FieldType.ofName? name
  | .object [(name, .null)] => FieldType.ofName? name
  | _ => none

/-- A text. -/
def textOfJson? : Json → Option String
  | .string text => some text
  | _ => none

/-- A list of texts. -/
def textsOfJson? : Json → Option (List String)
  | .array items => items.mapM textOfJson?
  | _ => none

/-- The keys under which the values of an enum field may stand. -/
def allowedKeys : List String := ["allowedValues", "allowed_values"]

/-- A field from its parts. -/
def fieldOfParts? (name type : Json) (allowed : Option Json) : Option Field := do
  let name ← textOfJson? name
  let type ← typeOfJson? type
  let allowed ← match allowed with
    | some allowed => textsOfJson? allowed
    | none => some []
  return ⟨name, type, allowed⟩

/-- The declaration of a field. -/
def fieldOfJson? : Json → Option Field
  | .object members => do
      let name ← part? ["name"] members
      let type ← part? ["type"] members
      let allowed ← part? allowedKeys members
      fieldOfParts? (← name) (← type) allowed
  | .array [name, type] => fieldOfParts? name type none
  | .array [name, type, allowed] => fieldOfParts? name type (some allowed)
  | _ => none

/-- The declarations of a document. -/
def fieldsOfJson? : Json → Option (List Field)
  | .array items => items.mapM fieldOfJson?
  | .object members =>
      match part? ["fields"] members with
      | some (some (.array items)) => items.mapM fieldOfJson?
      | _ => none
  | _ => none

/-- The error for a document that describes no schema. -/
def malformed : Error := .ofFault .malformedSchema

/-- The schema that a document describes. -/
def ofJson (document : Json) : Except Error Schema :=
  match fieldsOfJson? document with
  | some fields => ofFields fields
  | none => .error malformed

/-- The brackets of a written document may nest as deep as this. -/
def documentDepth : Nat := 127

/-- The schema that a written document describes. -/
def ofText (text : String) : Except Error Schema :=
  if Json.bracketsExceed documentDepth text then .error malformed
  else
    match Json.parse? text with
    | some document => ofJson document
    | none => .error malformed

end Schema
end RuleClause
