import RuleClause.Dialect.Basic
import RuleClause.Error.Code
import RuleClause.Schema.FieldType

/-!
# What can go wrong

A fault says what is wrong with a rule, a schema or a use of an operator.  Its
code and its wording follow from it.
-/

namespace RuleClause

/-- A reason to refuse a rule or a schema. -/
inductive Fault where
  /-- A rule nests deeper than the limit. -/
  | tooDeep (limit : Nat)
  /-- An object has some other number of keys than one. -/
  | keyCount (count : Nat)
  /-- A whole rule is a list. -/
  | bareArray
  /-- A whole rule is a literal of the given kind. -/
  | barePrimitive (kind : String)
  /-- A text is not JSON. -/
  | malformedJson
  /-- A document does not describe a schema. -/
  | malformedSchema
  /-- A schema declares a field without a name. -/
  | emptyFieldName
  /-- A schema declares an enum field without values. -/
  | enumWithoutValues (name : String)
  /-- A schema declares a field twice. -/
  | duplicateField (name : String)
  /-- No operator has the name. -/
  | unsupportedOperator (operator : String)
  /-- An operator is given a single argument in place of a list. -/
  | needsArray (operator : String)
  /-- The handler of a custom operator failed. -/
  | customFailed (operator : String)
  /-- The schema does not declare a field. -/
  | undeclaredField (name : String)
  /-- A field cannot be used by an operator. -/
  | incompatibleField
      (name : String) (type : FieldType) (usage : Usage) (operator : String)
  /-- A field is neither a text nor an array that could be searched. -/
  | unsearchableField (name : String) (type : FieldType)
  /-- A value is not among those of an enum field. -/
  | valueNotAllowed (value name : String) (allowed : List String)
  /-- An operator has too few arguments. -/
  | tooFewArguments (operator : String) (required received : Nat)
  /-- An operator has too many arguments. -/
  | tooManyArguments (operator : String) (allowed received : Nat)
  /-- A variable is named by neither a text nor a number. -/
  | variableKind (kind : String)
  /-- A listed field is not named by a text. -/
  | fieldNameKind (kind : String)
  /-- The least number of fields is not a number. -/
  | minimumKind (kind : String)
  /-- The fields of which some must be present are not listed. -/
  | fieldListKind (kind : String)
  /-- The least number of fields is not an integer. -/
  | minimumNotInteger (text : String)
  /-- The current element is asked for outside of an iteration. -/
  | elementOutsideIteration
  /-- A position of the current element is asked for outside of an iteration. -/
  | positionOutsideIteration
  /-- A position is negative or not an integer. -/
  | positionNotNatural (text : String)
  /-- A reducer names something else than the element and the accumulator. -/
  | unknownReducerVariable (name : String)
  /-- A substring offset leaves the range of 64-bit integers. -/
  | offsetOutOfRange
  /-- The dialect has no aggregate for the reducer. -/
  | reducerForm (dialect : Dialect)
  /-- The default of a variable is not a literal. -/
  | defaultKind (kind : String)
  /-- A fault of the given code, in words of its own. -/
  | stated (code : ErrorCode) (message : String)
deriving DecidableEq, Repr

namespace Fault

/-- The code of a fault. -/
def code : Fault → ErrorCode
  | .tooDeep .. => .maxDepthExceeded
  | .keyCount .. => .multipleKeys
  | .bareArray => .arrayNotAllowed
  | .barePrimitive .. => .primitiveNotAllowed
  | .malformedJson | .malformedSchema => .invalidJson
  | .emptyFieldName | .enumWithoutValues .. | .duplicateField .. => .validation
  | .unsupportedOperator .. => .unsupportedOperator
  | .needsArray .. => .operatorRequiresArray
  | .customFailed .. => .customOperatorFailed
  | .undeclaredField .. => .fieldNotInSchema
  | .incompatibleField .. | .unsearchableField .. => .invalidFieldType
  | .valueNotAllowed .. => .invalidEnumValue
  | .tooFewArguments .. => .insufficientArgs
  | .tooManyArguments .. => .tooManyArgs
  | .variableKind .. | .fieldNameKind .. | .minimumKind .. | .fieldListKind .. =>
      .invalidArgType
  | .minimumNotInteger .. | .elementOutsideIteration | .positionOutsideIteration
  | .positionNotNatural .. | .unknownReducerVariable .. | .offsetOutOfRange
  | .reducerForm .. =>
      .invalidArgument
  | .defaultKind .. => .invalidDefaultValue
  | .stated code _ => code

/-- The iterations inside which the current element has a meaning. -/
def iterations : String := "map, filter, reduce, all, some or none"

/-- The wording of a fault. -/
def message : Fault → String
  | .tooDeep limit =>
      "expression nesting exceeds the maximum depth of " ++ Nat.repr limit
  | .keyCount count =>
      "operator object must have exactly one key, found " ++ Nat.repr count
  | .bareArray => "expression must be an operator object, not an array"
  | .barePrimitive kind => "expression must be an operator object, not a " ++ kind
  | .malformedJson => "invalid JSON"
  | .malformedSchema => "invalid schema document"
  | .emptyFieldName => "invalid schema: field name must not be empty"
  | .enumWithoutValues name =>
      "invalid schema: enum field '" ++ name ++ "' must declare allowedValues"
  | .duplicateField name => "invalid schema: duplicate field '" ++ name ++ "'"
  | .unsupportedOperator operator => "unsupported operator '" ++ operator ++ "'"
  | .needsArray operator =>
      "operator '" ++ operator ++ "' requires an array of arguments"
  | .customFailed operator => "custom operator '" ++ operator ++ "' failed"
  | .undeclaredField name =>
      "field '" ++ name ++ "' is not defined in the schema"
  | .incompatibleField name type usage operator =>
      "field '" ++ name ++ "' of type " ++ type.name ++ " cannot be used with " ++
        usage.name ++ " operator '" ++ operator ++ "'"
  | .unsearchableField name type =>
      "field '" ++ name ++ "' of type " ++ type.name ++
        " cannot be searched by 'in'; expected array or string"
  | .valueNotAllowed value name allowed =>
      "invalid value '" ++ value ++ "' for enum field '" ++ name ++
        "'; allowed values: [" ++ ", ".intercalate allowed ++ "]"
  | .tooFewArguments operator required received =>
      "operator '" ++ operator ++ "' requires at least " ++ Nat.repr required ++
        " argument(s), got " ++ Nat.repr received
  | .tooManyArguments operator allowed received =>
      "operator '" ++ operator ++ "' accepts at most " ++ Nat.repr allowed ++
        " argument(s), got " ++ Nat.repr received
  | .variableKind kind => "var name must be a string or number, got " ++ kind
  | .fieldNameKind kind => "field names must be strings, got " ++ kind
  | .minimumKind kind => "missing_some minimum must be a number, got " ++ kind
  | .fieldListKind kind =>
      "missing_some requires an array of field names, got " ++ kind
  | .minimumNotInteger text =>
      "missing_some minimum must be an integer, got " ++ text
  | .elementOutsideIteration =>
      "an empty var refers to the current array element and is only valid inside " ++
        iterations
  | .positionOutsideIteration =>
      "a numeric var indexes the current array element and is only valid inside " ++
        iterations
  | .positionNotNatural text =>
      "var index must be a non-negative integer, got " ++ text
  | .unknownReducerVariable name =>
      "inside reduce, var must reference 'current' or 'accumulator', got '" ++
        name ++ "'"
  | .offsetOutOfRange => "substr offset is out of range"
  | .reducerForm dialect =>
      "reduce on " ++ dialect.name ++ " supports reducers of the form " ++
        "\x7b\"+\"|\"max\"|\"min\": [\x7b\"var\": \"accumulator\"\x7d, <expr>]\x7d"
  | .defaultKind kind => "var default must be a primitive value, got " ++ kind
  | .stated _ message => message

end Fault
end RuleClause
