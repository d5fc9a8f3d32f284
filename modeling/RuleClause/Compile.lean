import RuleClause.Plan.Operator
import RuleClause.Sql.Render

/-!
# Compiling rules

Compilation takes a rule apart, lets each operator make its plan, and meets the
requests of the plans with the SQL of the operands.  It runs in any monad with
errors: calling a custom operator is the only step that may do more than fail, and
a sum that does not fit a word is the only one that may end it otherwise.
-/

namespace RuleClause

/-- Computations that say what becomes of a sum that does not fit a word. -/
class MonadOverflow (m : Type → Type) where
  /-- Goes on with as much of the sum as fits, or stops. -/
  overflow : m Unit

/-- A computation that may fail goes on. -/
instance : MonadOverflow (Except Error) := ⟨.ok ()⟩

/-- What a compilation depends on. -/
structure Context (m : Type → Type) where
  /-- The dialect of the result. -/
  dialect : Dialect
  /-- The schema, if there is one. -/
  schema : Option Schema
  /-- The number of levels that may surround an operation. -/
  maxDepth : Nat
  /--
  The custom operators: each turns the SQL of its arguments into SQL, or fails
  with a message.
  -/
  custom : String → Option (List String → m (Except String String))

/-- A way to compile a rule, given what its names refer to and what its literals meet. -/
abbrev Compiler (m : Type → Type) : Type :=
  Scope → Option FieldType → m Sql

/-- The ways to compile an operand and each of its parts. -/
structure OperandCompiler (m : Type → Type) where
  /-- Compiles the operand. -/
  whole : Compiler m
  /-- Compiles the items of a list, or the listed arguments of an operation. -/
  parts : List (Compiler m)

section

variable {m : Type → Type} [Monad m] [MonadExceptOf Error m] [MonadOverflow m]

/-- The compiler of the selected part, if there is such a part. -/
def OperandCompiler.select
    (operands : List (OperandCompiler m)) : Selection → Option (Compiler m)
  | .operand index => operands[index]?.map (·.whole)
  | .part index inner => operands[index]?.bind (·.parts[inner]?)

/--
Meets a request with the SQL of the selected part.  Operators ask only for parts
that are there; any other would count as null.
-/
def OperandCompiler.answer
    (operands : List (OperandCompiler m))
    (request : Request) : m Sql :=
  match select operands request.selection with
  | some compiler => compiler request.scope request.hint
  | none => pure .null

/-- Compiles rules one after the other. -/
def compileEach
    (scope : Scope)
    (hint : Option FieldType) : List (Compiler m) → m (List Sql)
  | [] => pure []
  | compiler :: rest => do
      let first ← compiler scope hint
      let rest ← compileEach scope hint rest
      return first :: rest

namespace Context

/-- Calls a custom operator with the SQL of its operands. -/
def callCustom
    (context : Context m)
    (call : Call)
    (handler : List String → m (Except String String))
    (scope : Scope)
    (operands : List (OperandCompiler m)) : m Sql := do
  let arguments ← compileEach scope none (operands.map (·.whole))
  match ← handler (Sql.renderAll context.dialect arguments) with
  | .ok text => return .fragment text
  | .error cause => throw ((call.error (.customFailed call.operator)).causedBy cause)

/-- Takes the sum that a built-in operator needs to address an item. -/
def count
    (context : Context m)
    (operator : Operator)
    (call : Call)
    (scope : Scope) : m Unit :=
  if operator.overflows context.dialect scope call then MonadOverflow.overflow else pure ()

/-- Applies the operator of a call: a custom one, or else a built-in one. -/
def apply
    (context : Context m)
    (call : Call)
    (scope : Scope)
    (operands : List (OperandCompiler m)) : m Sql :=
  match context.custom call.operator with
  | some handler => context.callCustom call handler scope operands
  | none =>
      match Operator.ofName? call.operator with
      | some operator => do
          context.count operator call scope
          (operator.plan context.dialect ⟨context.schema, scope⟩ call).run
            (OperandCompiler.answer operands)
      | none => throw (call.error (.unsupportedOperator call.operator))

/--
Compiles an operation.  An error that comes out of it takes on the operator and
the place as far as it lacks them; an operation that is too deep is not its own
to report.
-/
def operation
    (context : Context m)
    (operator : String)
    (arguments : Rule)
    (position : Position)
    (scope : Scope)
    (operands : List (OperandCompiler m)) : m Sql :=
  let path := position.operationPath operator
  if context.maxDepth < position.depth then
    throw ((Error.ofFault (.tooDeep context.maxDepth)).foundAt path)
  else
    tryCatch (context.apply ⟨operator, arguments, path⟩ scope operands) fun error =>
      throw (error.completedBy operator path)

end Context

mutual

/-- Compiles a rule at a position. -/
def compileAt (context : Context m) : Rule → Position → Compiler m
  | .null, _ => fun _ _ => pure .null
  | .bool value, _ => fun _ _ => pure (.bool value)
  | .number value, _ => fun _ _ => pure (.ofNumber value)
  | .string value, _ => fun _ hint => pure (.ofText hint value)
  | .list items, position => fun scope hint => do
      let compilers := itemCompilers context items position.valuePath (position.depth + 1) 0
      return .array (← compileEach scope hint compilers)
  | .operation operator (.list items), position => fun scope _ =>
      context.operation operator (.list items) position scope
        (operandCompilers context items (position.operationPath operator)
          (position.depth + 1) 0)
  | .operation operator argument, position => fun scope _ =>
      context.operation operator argument position scope
        [{ whole := compileAt context argument (position.argument operator none)
           parts := partCompilers context argument (position.argument operator none) }]
termination_by structural rule => rule

/-- The compilers of the items at a place, counted from an index. -/
def itemCompilers
    (context : Context m) : List Rule → Path → Nat → Nat → List (Compiler m)
  | [], _, _, _ => []
  | item :: rest, path, depth, index =>
      compileAt context item ⟨path, some index, depth⟩ ::
        itemCompilers context rest path depth (index + 1)
termination_by structural rules => rules

/-- The compilers of the operands of an operation, counted from an index. -/
def operandCompilers
    (context : Context m) : List Rule → Path → Nat → Nat → List (OperandCompiler m)
  | [], _, _, _ => []
  | operand :: rest, path, depth, index =>
      { whole := compileAt context operand ⟨path, some index, depth⟩
        parts := partCompilers context operand ⟨path, some index, depth⟩ } ::
        operandCompilers context rest path depth (index + 1)
termination_by structural rules => rules

/-- The compilers of the parts of an operand at a position. -/
def partCompilers (context : Context m) : Rule → Position → List (Compiler m)
  | .list items, position =>
      itemCompilers context items position.valuePath (position.depth + 1) 0
  | .operation operator (.list items), position =>
      itemCompilers context items (position.operationPath operator) (position.depth + 1) 0
  | _, _ => []
termination_by structural rule => rule

end

namespace Context

/-- Compiles a whole rule, which must be an operation. -/
def compile (context : Context m) : Rule → m Sql
  | .operation operator arguments =>
      compileAt context (.operation operator arguments) .start .row none
  | .list _ => throw ((Error.ofFault .bareArray).foundAt .start)
  | literal => throw ((Error.ofFault (.barePrimitive literal.kind)).foundAt .start)

end Context

end

end RuleClause
