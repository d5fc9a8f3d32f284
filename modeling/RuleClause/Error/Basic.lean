import RuleClause.Error.Fault
import RuleClause.Path

/-!
# Errors

An error is a fault together with the operator that raised it, the place where
it arose and, for a custom operator, the words of its handler.  An error that
travels outwards through operations takes on what it does not know yet and keeps
what it knows.
-/

namespace RuleClause

/-- A failure of a compilation or of reading a schema. -/
structure Error where
  /-- What is wrong. -/
  fault : Fault
  /-- The operator that found it, if known. -/
  operator : Option String
  /-- Where it is, if known. -/
  path : Option Path
  /-- The words of the failure behind this one, if there is one. -/
  cause : Option String
deriving DecidableEq, Repr

namespace Error

/-- A fault of which nothing else is known. -/
def ofFault (fault : Fault) : Error :=
  ⟨fault, none, none, none⟩

/-- Names the operator, whatever was named before. -/
def raisedBy (error : Error) (operator : String) : Error :=
  { error with operator := some operator }

/-- Gives the place, whatever was given before. -/
def foundAt (error : Error) (path : Path) : Error :=
  { error with path := some path }

/-- Gives the failure behind this one. -/
def causedBy (error : Error) (cause : String) : Error :=
  { error with cause := some cause }

/-- Names the operator and the place as far as they are not known. -/
def completedBy (error : Error) (operator : String) (path : Path) : Error :=
  { error with
    operator := error.operator.or (some operator)
    path := error.path.or (some path) }

/-- The code of an error. -/
def code (error : Error) : ErrorCode :=
  error.fault.code

/-- Completing an error does not change what is wrong. -/
@[simp]
theorem code_completedBy (error : Error) (operator : String) (path : Path) :
    (error.completedBy operator path).code = error.code :=
  rfl

/-- The wording of an error, without its place. -/
def message (error : Error) : String :=
  error.fault.message

/-- The full text of an error: code, place, wording and cause. -/
def text (error : Error) : String :=
  "[" ++ error.code.text ++ "]" ++
    (match error.path with
      | some path => " at " ++ path.text
      | none => "") ++
    ": " ++ error.message ++
    (match error.cause with
      | some cause => ": " ++ cause
      | none => "")

end Error
end RuleClause
