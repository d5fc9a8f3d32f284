import RuleClause.Target

/-!
# Workspaces

A workspace holds numbered targets and numbered snapshots of their operators.  A
handler that runs during a compilation may change the operators of any target.
The compilation itself goes on with the operators as they were when it started,
and the changes stand even if it fails.
-/

namespace RuleClause

/-- Targets and snapshots, by number. -/
structure Workspace where
  /-- The targets. -/
  targets : List Target
  /-- Operators of targets as they were at some time. -/
  snapshots : List Registry

namespace Workspace

/-- A workspace without targets. -/
def empty : Workspace := ⟨[], []⟩

/-- The target with a number. -/
def target? (workspace : Workspace) (number : Nat) : Option Target :=
  workspace.targets[number]?

/-- The snapshot with a number. -/
def snapshot? (workspace : Workspace) (number : Nat) : Option Registry :=
  workspace.snapshots[number]?

/-- Changes the target with a number. -/
def modify
    (workspace : Workspace)
    (number : Nat)
    (change : Target → Target) : Workspace :=
  { workspace with targets := workspace.targets.modify number change }

/-- Puts a target in place of the one with a number. -/
def set (workspace : Workspace) (number : Nat) (target : Target) : Workspace :=
  { workspace with targets := workspace.targets.set number target }

/-- Adds a target under the next number. -/
def add (workspace : Workspace) (target : Target) : Workspace :=
  { workspace with targets := workspace.targets ++ [target] }

/-- Keeps the operators of a target under the next number of a snapshot. -/
def addSnapshot (workspace : Workspace) (registry : Registry) : Workspace :=
  { workspace with snapshots := workspace.snapshots ++ [registry] }

/-- Makes a change that a handler asks for. -/
def applyEdit (workspace : Workspace) (edit : Edit Handler) : Workspace :=
  workspace.modify edit.target fun target =>
    { target with registry := target.registry.apply edit.change }

/-- Makes the changes that a handler asks for, in order. -/
def applyEdits (workspace : Workspace) (edits : List (Edit Handler)) : Workspace :=
  edits.foldl applyEdit workspace

/-- Computations that change a workspace and may fail; a failure undoes no change. -/
abbrev Live (α : Type) : Type :=
  ExceptT Error (StateM Workspace) α

/-- A sum that does not fit a word does not end a compilation. -/
instance : MonadOverflow Live := ⟨pure ()⟩

/-- Calls a handler and makes the changes that it asks for. -/
def callHandler
    (handler : Handler)
    (operator : String)
    (arguments : List String)
    (dialect : Dialect) : Live (Except String String) := do
  let reply := handler.reply operator arguments dialect
  modifyThe Workspace (·.applyEdits reply.edits)
  return reply.answer

/-- A compilation for a target in which handlers may change the workspace. -/
def context (target : Target) : Context Live where
  dialect := target.dialect
  schema := target.schema
  maxDepth := target.maxDepth
  custom name := (target.registry.get? name).map fun handler arguments =>
    callHandler handler name arguments target.dialect

/-- The condition that a rule stands for, and the workspace after its handlers have run. -/
def condition
    (workspace : Workspace)
    (target : Target)
    (source : Source) : Except Error String × Workspace :=
  (((context target).condition source).run).run workspace

/-- The clause that a rule stands for, and the workspace after its handlers have run. -/
def clause
    (workspace : Workspace)
    (target : Target)
    (source : Source) : Except Error String × Workspace :=
  let (result, workspace) := workspace.condition target source
  (result.map (clauseKeyword ++ ·), workspace)

end Workspace
end RuleClause
