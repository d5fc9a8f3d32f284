/-!
# Error codes

Every failure has a stable code, and every code belongs to one of four
categories.
-/

namespace RuleClause

/-- What a failure is about. -/
inductive ErrorCategory where
  | structural
  | operator
  | typeSchema
  | argument
deriving DecidableEq, Repr

/-- The stable name of a kind of failure. -/
inductive ErrorCode where
  | invalidExpression
  | emptyArray
  | multipleKeys
  | primitiveNotAllowed
  | arrayNotAllowed
  | validation
  | invalidJson
  | maxDepthExceeded
  | unsupportedOperator
  | operatorRequiresArray
  | customOperatorFailed
  | typeMismatch
  | fieldNotInSchema
  | invalidFieldType
  | invalidEnumValue
  | insufficientArgs
  | tooManyArgs
  | invalidArgument
  | invalidArgType
  | invalidDefaultValue
deriving DecidableEq, Repr

namespace ErrorCode

/-- The text of a code. -/
def text : ErrorCode → String
  | .invalidExpression => "E001"
  | .emptyArray => "E002"
  | .multipleKeys => "E003"
  | .primitiveNotAllowed => "E004"
  | .arrayNotAllowed => "E005"
  | .validation => "E006"
  | .invalidJson => "E007"
  | .maxDepthExceeded => "E008"
  | .unsupportedOperator => "E100"
  | .operatorRequiresArray => "E101"
  | .customOperatorFailed => "E102"
  | .typeMismatch => "E200"
  | .fieldNotInSchema => "E201"
  | .invalidFieldType => "E202"
  | .invalidEnumValue => "E203"
  | .insufficientArgs => "E300"
  | .tooManyArgs => "E301"
  | .invalidArgument => "E302"
  | .invalidArgType => "E303"
  | .invalidDefaultValue => "E304"

/-- The category of a code. -/
def category : ErrorCode → ErrorCategory
  | .invalidExpression | .emptyArray | .multipleKeys | .primitiveNotAllowed
  | .arrayNotAllowed | .validation | .invalidJson | .maxDepthExceeded =>
      .structural
  | .unsupportedOperator | .operatorRequiresArray | .customOperatorFailed =>
      .operator
  | .typeMismatch | .fieldNotInSchema | .invalidFieldType | .invalidEnumValue =>
      .typeSchema
  | .insufficientArgs | .tooManyArgs | .invalidArgument | .invalidArgType
  | .invalidDefaultValue =>
      .argument

end ErrorCode
end RuleClause
