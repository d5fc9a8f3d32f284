import RuleClause.CommandLine

/-!
# The program

Reads arguments, standard input and files, and prints what the commands give.
-/

namespace RuleClause
namespace Program

/-- What the program says when it does not understand its arguments. -/
def usage : String :=
  Manual.text
    ["Compile JSON Logic rules into SQL WHERE conditions",
     "",
     "Usage: jsonlogic2sql <COMMAND>",
     "",
     "Commands:",
     "  transpile [OPTIONS] [EXPRESSION]  Compile a rule",
     "  docs                              List the topics of the manual",
     "  doc <CATEGORY>                    Show a page of the manual",
     "  dialects                          Compare dialect renderings",
     "",
     "Options of transpile:",
     "  -d, --dialect <DIALECT>    The dialect of the condition",
     "  -s, --schema <FILE>        A file that holds a schema",
     "  -c, --condition            Leave out the WHERE keyword",
     "      --max-depth <DEPTH>    The limit on nesting"]

/-- The arguments of a compilation. -/
structure CompileArguments where
  /-- The rule, if there is one. -/
  expression : Option String
  /-- The name of the dialect. -/
  dialect : String
  /-- The name of the schema file, if there is one. -/
  schema : Option String
  /-- Whether the condition is wanted without its keyword. -/
  condition : Bool
  /-- The limit on nesting, if one is set. -/
  maxDepth : Option Nat

/-- A number in decimal digits. -/
def digitsOnly? (text : String) : Option Nat :=
  if text.isEmpty || ! text.toList.all Char.isDigit then none else text.toNat?

/-- A long option and its value may be joined by an equals sign. -/
def separate (argument : String) : List String :=
  match argument.toList.span (· != '=') with
  | ('-' :: '-' :: name, _ :: value) =>
      [String.ofList ('-' :: '-' :: name), String.ofList value]
  | _ => [argument]

/-- Reads the arguments of a compilation; `none` if they make no sense. -/
def readArguments (arguments : CompileArguments) : List String → Option CompileArguments
  | [] => some arguments
  | "-d" :: name :: rest | "--dialect" :: name :: rest =>
      readArguments { arguments with dialect := name } rest
  | "-s" :: file :: rest | "--schema" :: file :: rest =>
      readArguments { arguments with schema := some file } rest
  | "-c" :: rest | "--condition" :: rest =>
      readArguments { arguments with condition := true } rest
  | "--max-depth" :: depth :: rest =>
      (digitsOnly? depth).bind fun depth =>
        readArguments { arguments with maxDepth := some depth } rest
  | expression :: rest =>
      if arguments.expression.isSome || expression.startsWith "-" then none
      else readArguments { arguments with expression := some expression } rest

/-- Reads everything from a stream. -/
def readAll (stream : IO.FS.Stream) : IO String := do
  let mut text := ""
  repeat
    let line ← stream.getLine
    if line.isEmpty then break
    text := text ++ line
  return text

/-- The rule of a compilation: an argument, or else standard input if it is no terminal. -/
def readExpression (expression : Option String) : IO (Option String) := do
  if expression.isSome then return expression
  let input ← IO.getStdin
  if ← input.isTty then return none
  return some (← readAll input)

/-- Prints what a command gives, or why it fails. -/
def report (result : Except CommandLine.Failure String) : IO UInt32 := do
  match result with
  | .ok text =>
      IO.print text
      return 0
  | .error failure =>
      IO.eprintln failure.message
      return 1

/-- Compiles a rule. -/
def runCompile (arguments : CompileArguments) : IO UInt32 := do
  try
    let expression ← readExpression arguments.expression
    let schema ← match arguments.schema with
      | none => pure none
      | some file =>
          try pure (some (.ok (← IO.FS.readFile file)))
          catch error => pure (some (.error (toString error)))
    let result := CommandLine.compile
      ⟨expression, arguments.dialect, schema, arguments.condition, arguments.maxDepth⟩
    report (result.map (· ++ "\n"))
  catch error => report (.error (.unreadable (toString error)))

/-- Runs the command that the arguments name. -/
def run (arguments : List String) : IO UInt32 := do
  match arguments with
  | ["docs"] => report (.ok Manual.overview)
  | ["doc", topic] => report (CommandLine.page topic)
  | ["dialects"] => report (.ok Manual.dialects)
  | ["help"] | ["-h"] | ["--help"] => report (.ok usage)
  | "transpile" :: rest =>
      match readArguments ⟨none, CommandLine.defaultDialect, none, false, none⟩
          (rest.flatMap separate) with
      | some arguments => runCompile arguments
      | none =>
          IO.eprint usage
          return 2
  | _ =>
      IO.eprint usage
      return 2

end Program
end RuleClause

/-- The entry point of the program. -/
def main (arguments : List String) : IO UInt32 :=
  RuleClause.Program.run arguments
