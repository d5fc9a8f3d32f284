import RuleClause.Manual.Overview
import RuleClause.Text.Blank

/-!
# The command line

What the commands print, apart from reading arguments, standard input and files.
-/

namespace RuleClause
namespace CommandLine

/-- A reason for a command to fail. -/
inductive Failure where
  /-- The rule or the schema is refused. -/
  | refused (error : Error)
  /-- No dialect has the name. -/
  | unknownDialect (name : String)
  /-- A file or standard input cannot be read. -/
  | unreadable (reason : String)
  /-- There is no rule. -/
  | noInput
  /-- No page of the manual has the name. -/
  | unknownTopic (name : String)
deriving DecidableEq, Repr

/-- The wording of a failure. -/
def Failure.message : Failure → String
  | .refused error => "Transpile error: " ++ error.text
  | .unknownDialect name => Dialect.unknownMessage name
  | .unreadable reason => "IO error: " ++ reason
  | .noInput =>
      "No expression provided. Pass it as an argument or pipe JSON to stdin."
  | .unknownTopic name =>
      "Unknown category: '" ++ name ++
        "'\nRun 'jsonlogic2sql docs' to see available categories."

/-- A rule to compile, as the command line gives it. -/
structure Request where
  /-- The rule, if there is one. -/
  expression : Option String
  /-- The name of the dialect. -/
  dialect : String
  /-- The contents of the schema file, or why it cannot be read. -/
  schema : Option (Except String String)
  /-- Whether the condition is wanted without its keyword. -/
  condition : Bool
  /-- The limit on nesting, if one is set. -/
  maxDepth : Option Nat

/-- The dialect where none is named. -/
def defaultDialect : String := Dialect.bigQuery.name

/-- The schema of a request. -/
def readSchema : Option (Except String String) → Except Failure (Option Schema)
  | none => .ok none
  | some (.error reason) => .error (.unreadable reason)
  | some (.ok text) => do
      return some (← (Schema.ofText text).mapError .refused)

/-- Compiles the rule of a request. -/
def compile (request : Request) : Except Failure String := do
  let expression := Text.trim (request.expression.getD "")
  if expression = "" then throw .noInput
  let some dialect := Dialect.ofName? request.dialect
    | throw (.unknownDialect request.dialect)
  let schema ← readSchema request.schema
  let target :=
    ((Target.ofDialect dialect).withSchema schema).withMaxDepth
      (request.maxDepth.getD defaultMaxDepth)
  let compileSource := if request.condition then target.condition else target.clause
  (compileSource (.text expression)).mapError .refused

/-- The page of the manual with a name. -/
def page (name : String) : Except Failure String :=
  match Manual.Topic.ofName? name with
  | some topic => .ok (Manual.text topic.page)
  | none => .error (.unknownTopic name)

end CommandLine
end RuleClause
