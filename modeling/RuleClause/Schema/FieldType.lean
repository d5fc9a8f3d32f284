/-!
# Types of fields and what operators accept

An operator that reads a field uses it in one of five ways, and each way admits
some of the field types.
-/

namespace RuleClause

/-- The declared type of a field. -/
inductive FieldType where
  | string
  | integer
  | number
  | boolean
  | array
  | object
  | enum
deriving DecidableEq, Repr

namespace FieldType

/-- Every field type. -/
def all : List FieldType :=
  [.string, .integer, .number, .boolean, .array, .object, .enum]

/-- The name of a type in schema documents and in messages. -/
def name : FieldType → String
  | .string => "string"
  | .integer => "integer"
  | .number => "number"
  | .boolean => "boolean"
  | .array => "array"
  | .object => "object"
  | .enum => "enum"

/-- The type with the given name. -/
def ofName? (name : String) : Option FieldType :=
  all.find? (·.name == name)

@[simp]
theorem mem_all (type : FieldType) : type ∈ all := by
  cases type <;> decide

@[simp]
theorem ofName?_name (type : FieldType) : ofName? type.name = some type := by
  cases type <;> decide

/-- Fields of this type hold numbers. -/
def isNumeric : FieldType → Bool
  | .integer | .number => true
  | _ => false

/-- Fields of this type hold text. -/
def isTextual : FieldType → Bool
  | .string | .enum => true
  | _ => false

end FieldType

/-- The ways in which operators use a field. -/
inductive Usage where
  | numeric
  | string
  | array
  | ordering
  | equality
deriving DecidableEq, Repr

namespace Usage

/-- The types of the fields that may be used in this way. -/
def accepts : Usage → FieldType → Bool
  | .numeric, type => type.isNumeric
  | .string, type => type.isNumeric || type.isTextual
  | .array, type => type == .array
  | .ordering, type => type.isNumeric || type.isTextual
  | .equality, _ => true

/-- The word for an operator that uses fields in this way. -/
def name : Usage → String
  | .numeric => "numeric"
  | .string => "string"
  | .array => "array"
  | .ordering => "comparison"
  | .equality => "equality"

end Usage
end RuleClause
