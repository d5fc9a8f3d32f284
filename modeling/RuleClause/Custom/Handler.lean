import RuleClause.Dialect.Template
import RuleClause.Operator

/-!
# Handlers of custom operators

A handler turns the SQL of its arguments into SQL, or fails with a message.  It
learns the name under which it was called and, if it is aware of dialects, the
dialect.  It may also ask for changes to the operators of a target, given by the
number of that target; they take effect for later compilations only.
-/

namespace RuleClause

/-- A change to registered operators, over a type of handlers. -/
inductive Change (η : Type) where
  /-- Registers a handler under a name. -/
  | register (name : String) (handler : η)
  /-- Removes the operator with a name. -/
  | unregister (name : String)
  /-- Removes every operator. -/
  | clear

/-- A change to the operators of the target with the given number. -/
structure Edit (η : Type) where
  /-- The number of the target. -/
  target : Nat
  /-- What to change. -/
  change : Change η

/-- What a handler gives back. -/
structure Reply (η : Type) where
  /-- The SQL, or the message of a failure. -/
  answer : Except String String
  /-- The changes that the handler has made, in order. -/
  edits : List (Edit η)

/-- A handler of a custom operator. -/
inductive Handler where
  /-- Writes the same for every dialect. -/
  | uniform (reply : String → List String → Reply Handler)
  /-- Writes what suits the dialect. -/
  | dialectAware (reply : String → List String → Dialect → Reply Handler)

namespace Handler

/-- The handler is aware of dialects. -/
def isDialectAware : Handler → Bool
  | .uniform _ => false
  | .dialectAware _ => true

/-- Calls a handler with the operator's name, the arguments and the dialect. -/
def reply
    (handler : Handler)
    (operator : String)
    (arguments : List String)
    (dialect : Dialect) : Reply Handler :=
  match handler with
  | .uniform reply => reply operator arguments
  | .dialectAware reply => reply operator arguments dialect

/-- The SQL that a handler answers, or the message of its failure. -/
def answer
    (handler : Handler)
    (operator : String)
    (arguments : List String)
    (dialect : Dialect) : Except String String :=
  (handler.reply operator arguments dialect).answer

/-- A handler that changes nothing. -/
def pureUniform (answer : String → List String → Except String String) : Handler :=
  .uniform fun operator arguments => ⟨answer operator arguments, []⟩

/-- A handler that is aware of dialects and changes nothing. -/
def pureAware
    (answer : String → List String → Dialect → Except String String) : Handler :=
  .dialectAware fun operator arguments dialect =>
    ⟨answer operator arguments dialect, []⟩

/-- Calls a function with the arguments. -/
def function (name : String) : Handler :=
  pureUniform fun _ arguments => .ok (Dialect.call name arguments)

/-- Writes the arguments with a separator between them. -/
def separated (separator : String) : Handler :=
  pureUniform fun _ arguments => .ok (separator.intercalate arguments)

/-- Picks the argument with the given number. -/
def argument (index : Nat) : Handler :=
  pureUniform fun _ arguments =>
    match arguments[index]? with
    | some argument => .ok argument
    | none => .error ("argument " ++ Nat.repr index ++ " missing")

/-- Fails with a message. -/
def failing (message : String) : Handler :=
  pureUniform fun _ _ => .error message

/-- Shows the operator's name and the arguments. -/
def labelled : Handler :=
  pureUniform fun operator arguments =>
    .ok (operator ++ "[" ++ "|".intercalate arguments ++ "]")

/-- Shows the operator's name, the dialect and the arguments. -/
def labelledByDialect : Handler :=
  pureAware fun operator arguments dialect =>
    .ok (Dialect.call (operator ++ "@" ++ dialect.name) arguments)

/-- Calls the function that is given for the dialect's name. -/
def functionByDialect (functions : List (String × String)) : Handler :=
  pureAware fun _ arguments dialect =>
    match functions.lookup dialect.name with
    | some function => .ok (Dialect.call function arguments)
    | none => .error ("no rendering for " ++ dialect.name)

end Handler
end RuleClause
