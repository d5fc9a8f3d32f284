import RuleClause.Proofs.Compile.Correspondence
import RuleClause.Workspace

/-!
# Compilations see one state of the operators

Handlers may change the operators of the very target that they are compiled for.  A
compilation does not see that: its outcome is the one for the operators at its start,
as if no handler had changed anything.  The changes are there when the next compilation
starts, in the order in which the handlers were called.

To say which handlers these are, a compilation is also run in a monad that does nothing
but note its calls.  The other two ways of running it are read off from that one.
-/

namespace RuleClause

/-- A call of a custom operator. -/
structure HandlerCall where
  /-- The handler that is called. -/
  handler : Handler
  /-- The name under which it is called. -/
  operator : String
  /-- The SQL of its arguments. -/
  arguments : List String
  /-- The dialect of the compilation. -/
  dialect : Dialect

/-- What the handler gives back. -/
def HandlerCall.reply (call : HandlerCall) : Reply Handler :=
  call.handler.reply call.operator call.arguments call.dialect

/-- An outcome together with the calls that were made on the way to it. -/
structure Recorded (α : Type) where
  /-- The outcome. -/
  outcome : Except Error α
  /-- The calls, in order. -/
  calls : List HandlerCall

namespace Recorded

variable {α β : Type}

/-- The changes that the called handlers ask for, in order. -/
def edits (recorded : Recorded α) : List (Edit Handler) :=
  recorded.calls.flatMap (·.reply.edits)

/-- The same outcome, with some calls before the others. -/
def after (recorded : Recorded α) (calls : List HandlerCall) : Recorded α :=
  ⟨recorded.outcome, calls ++ recorded.calls⟩

theorem edits_after (recorded : Recorded α) (calls : List HandlerCall) :
    (recorded.after calls).edits = calls.flatMap (·.reply.edits) ++ recorded.edits :=
  List.flatMap_append

instance : Monad Recorded where
  pure value := ⟨.ok value, []⟩
  bind first next :=
    match first.outcome with
    | .ok value => (next value).after first.calls
    | .error error => ⟨.error error, first.calls⟩

instance : MonadExceptOf Error Recorded where
  throw error := ⟨.error error, []⟩
  tryCatch first handler :=
    match first.outcome with
    | .ok value => ⟨.ok value, first.calls⟩
    | .error error => (handler error).after first.calls

instance : MonadOverflow Recorded := ⟨pure ()⟩

/-- A recorded computation has a certain outcome and makes only calls of a certain kind. -/
def outcomes (permitted : HandlerCall → Prop) : Correspondence Recorded (Except Error) where
  related recorded outcome :=
    recorded.outcome = outcome ∧ ∀ call ∈ recorded.calls, permitted call
  pure value := ⟨rfl, by simp [pure]⟩
  throw error := ⟨rfl, by simp [throw, throwThe, MonadExceptOf.throw]⟩
  bind := by
    rintro _ _ ⟨outcome, calls⟩ _ firstNext secondNext ⟨rfl, permits⟩ next
    cases outcome with
    | error error => exact ⟨rfl, permits⟩
    | ok value =>
        obtain ⟨same, permitsNext⟩ := next value
        exact ⟨same, List.forall_mem_append.mpr ⟨permits, permitsNext⟩⟩
  tryCatch := by
    rintro _ ⟨outcome, calls⟩ _ firstHandler secondHandler ⟨rfl, permits⟩ handled
    cases outcome with
    | ok value => exact ⟨rfl, permits⟩
    | error error =>
        obtain ⟨same, permitsNext⟩ := handled error
        exact ⟨same, List.forall_mem_append.mpr ⟨permits, permitsNext⟩⟩

end Recorded

namespace Workspace

theorem applyEdits_append (workspace : Workspace) (first second : List (Edit Handler)) :
    workspace.applyEdits (first ++ second) = (workspace.applyEdits first).applyEdits second :=
  List.foldl_append

namespace Live

variable {α β : Type}

/-- Runs a computation in a workspace. -/
def runIn (computation : Live α) (workspace : Workspace) : Except Error α × Workspace :=
  (computation.run).run workspace

theorem runIn_bind (computation : Live α) (next : α → Live β) (workspace : Workspace) :
    Live.runIn (computation >>= next) workspace =
      match computation.runIn workspace with
      | (.ok value, after) => (next value).runIn after
      | (.error error, after) => (.error error, after) := by
  unfold runIn ExceptT.run StateT.run
  simp only [bind, ExceptT.bind, ExceptT.mk, StateT.bind, ExceptT.bindCont]
  cases computation workspace with
  | mk outcome after => cases outcome <;> rfl

theorem runIn_tryCatch
    (computation : Live α)
    (handler : Error → Live α)
    (workspace : Workspace) :
    Live.runIn (tryCatch computation handler) workspace =
      match computation.runIn workspace with
      | (.ok value, after) => (.ok value, after)
      | (.error error, after) => (handler error).runIn after := by
  unfold runIn ExceptT.run StateT.run
  simp only [tryCatch, tryCatchThe, MonadExceptOf.tryCatch, ExceptT.tryCatch, ExceptT.mk, bind,
    StateT.bind]
  cases computation workspace with
  | mk outcome after => cases outcome <;> rfl

end Live
end Workspace

/-- A computation has the recorded outcome in every workspace, and makes the recorded changes. -/
def Recorded.effects : Correspondence Recorded Workspace.Live where
  related recorded computation := ∀ workspace, Workspace.Live.runIn computation workspace =
    (recorded.outcome, workspace.applyEdits recorded.edits)
  pure value workspace := rfl
  throw error workspace := rfl
  bind := by
    rintro _ _ ⟨outcome, calls⟩ computation firstNext secondNext first next workspace
    rw [Workspace.Live.runIn_bind, first workspace]
    cases outcome with
    | error error => rfl
    | ok value =>
        change (secondNext value).runIn _ =
          ((firstNext value).outcome, workspace.applyEdits ((firstNext value).after calls).edits)
        rw [next value, edits_after, Workspace.applyEdits_append]
        rfl
  tryCatch := by
    rintro _ ⟨outcome, calls⟩ computation firstHandler secondHandler first handled workspace
    rw [Workspace.Live.runIn_tryCatch, first workspace]
    cases outcome with
    | ok value => rfl
    | error error =>
        change (secondHandler error).runIn _ =
          ((firstHandler error).outcome,
            workspace.applyEdits ((firstHandler error).after calls).edits)
        rw [handled error, edits_after, Workspace.applyEdits_append]
        rfl

/-! ## Compilations -/

namespace Target

/-- A compilation for the target that notes its calls of handlers. -/
def recording (target : Target) : Context Recorded where
  dialect := target.dialect
  schema := target.schema
  maxDepth := target.maxDepth
  custom name := (target.registry.get? name).map fun handler arguments =>
    ⟨.ok (handler.answer name arguments target.dialect),
      [⟨handler, name, arguments, target.dialect⟩]⟩

/-- The condition that a rule stands for, with the calls of handlers that it takes. -/
def recorded (target : Target) (source : Source) : Recorded String :=
  target.recording.condition source

variable (target : Target)

/-- The target has the handler under the name by which it is called. -/
def Registers (call : HandlerCall) : Prop :=
  target.registry.get? call.operator = some call.handler

theorem corresponds_recording (rule : Rule) :
    Context.Corresponds (Recorded.outcomes target.Registers) target.recording target.context
      rule where
  dialect _ _ _ _ := rfl
  maxDepth := rfl
  custom operator _ _ := by
    simp only [recording, context]
    cases found : target.registry.get? operator with
    | none => exact .none
    | some handler =>
        apply Option.Rel.some
        intro texts
        exact ⟨rfl, by simpa [Registers] using found⟩
  count _ _ _ _ _ := by
    rw [Context.count_eq_pure rfl, Context.count_eq_pure rfl]
    exact Correspondence.pure _ ()

theorem corresponds_live (rule : Rule) :
    Context.Corresponds Recorded.effects target.recording (Workspace.context target) rule where
  dialect _ _ _ _ := rfl
  maxDepth := rfl
  custom operator _ _ := by
    simp only [recording, Workspace.context]
    cases target.registry.get? operator with
    | none => exact .none
    | some handler =>
        apply Option.Rel.some
        intro texts workspace
        simp only [Recorded.edits, List.flatMap_singleton]
        rfl
  count _ _ _ _ _ := by
    rw [Context.count_eq_pure rfl, Context.count_eq_pure rfl]
    exact Correspondence.pure _ ()

/-- Noting the calls does not change the outcome, and they go to registered handlers. -/
theorem related_recorded (source : Source) :
    (target.recorded source).outcome = target.condition source ∧
      ∀ call ∈ (target.recorded source).calls, target.Registers call :=
  Context.related_condition target.corresponds_recording rfl rfl source

end Target

/-- A compilation in a workspace has the recorded outcome and makes the recorded changes. -/
theorem Workspace.condition_eq_recorded
    (workspace : Workspace)
    (target : Target)
    (source : Source) :
    workspace.condition target source =
      ((target.recorded source).outcome,
        workspace.applyEdits (target.recorded source).edits) :=
  Context.related_condition target.corresponds_live rfl rfl source workspace

/-! ## Changes -/

/-- The target with a number after a change. -/
def Target.edit (number : Nat) (target : Target) (edit : Edit Handler) : Target :=
  if edit.target = number then { target with registry := target.registry.apply edit.change }
  else target

namespace Workspace

theorem target?_applyEdit (workspace : Workspace) (edit : Edit Handler) (number : Nat) :
    (workspace.applyEdit edit).target? number =
      (workspace.target? number).map (·.edit number edit) := by
  unfold applyEdit target? modify Target.edit
  rw [List.getElem?_modify]
  split <;> simp

theorem target?_applyEdits
    (workspace : Workspace)
    (edits : List (Edit Handler))
    (number : Nat) :
    (workspace.applyEdits edits).target? number =
      (workspace.target? number).map (edits.foldl (Target.edit number) ·) := by
  induction edits generalizing workspace with
  | nil => simp [applyEdits]
  | cons edit rest inductionHypothesis =>
      change ((workspace.applyEdit edit).applyEdits rest).target? number = _
      rw [inductionHypothesis, target?_applyEdit, Option.map_map]
      rfl

end Workspace

namespace Target

/-- The target with a number as a compilation leaves it. -/
def afterCondition (target : Target) (number : Nat) (source : Source) : Target :=
  (target.recorded source).edits.foldl (edit number) target

/-- The conditions of some rules, each for the target as the one before has left it. -/
def conditions (target : Target) (number : Nat) : List Source → List (Except Error String)
  | [] => []
  | source :: rest =>
      target.condition source :: (target.afterCondition number source).conditions number rest

end Target

/-- The conditions of some rules for the target with a number, compiled one after the other. -/
def Workspace.conditions
    (workspace : Workspace)
    (number : Nat) : List Source → List (Except Error String)
  | [] => []
  | source :: rest =>
      match workspace.target? number with
      | none => []
      | some target =>
          let (outcome, after) := workspace.condition target source
          outcome :: after.conditions number rest

namespace Workspace

variable {workspace : Workspace} {number : Nat} {target : Target}

/-- A compilation does not see the changes that it makes, and leaves them for the next one. -/
theorem condition_step
    (held : workspace.target? number = some target)
    (source : Source) :
    (workspace.condition target source).1 = target.condition source ∧
      (workspace.condition target source).2.target? number =
        some (target.afterCondition number source) := by
  rw [condition_eq_recorded]
  refine ⟨(target.related_recorded source).1, ?_⟩
  rw [target?_applyEdits, held]
  rfl

/-- Compilations one after the other see what the earlier ones have left. -/
theorem conditions_eq
    (held : workspace.target? number = some target)
    (sources : List Source) :
    workspace.conditions number sources = target.conditions number sources := by
  induction sources generalizing workspace target with
  | nil => rfl
  | cons source rest inductionHypothesis =>
      -- the rest starts in the workspace and with the target that the first one leaves
      obtain ⟨outcome, next⟩ := condition_step held source
      simp only [conditions, held, Target.conditions]
      rw [outcome, inductionHypothesis next]

end Workspace

/--
Compilations are isolated from the changes of their handlers.  In every workspace, a
compilation has the outcome for the operators at its start with all changes left out, and
each handler that it calls was registered then.  The target then holds the changes, made
in order, and so they are seen from the next compilation on.
-/
theorem condition_isolated_from_edits
    (workspace : Workspace)
    (number : Nat)
    (target : Target)
    (held : workspace.target? number = some target) :
    (∀ source,
      (workspace.condition target source).1 = target.condition source ∧
      (∀ call ∈ (target.recorded source).calls, target.Registers call) ∧
      (workspace.condition target source).2.target? number =
        some (target.afterCondition number source)) ∧
    ∀ sources, workspace.conditions number sources = target.conditions number sources := by
  refine ⟨fun source => ?_, Workspace.conditions_eq held⟩
  obtain ⟨outcome, next⟩ := Workspace.condition_step held source
  exact ⟨outcome, (target.related_recorded source).2, next⟩

/-- A handler that replaces an operator of the first target and removes its own. -/
def switchHandler : Handler :=
  .editing 0 [.register "extra" (.function "NEW"), .unregister "switch"] "SWITCH"

/-- A target with that handler and with an operator for it to replace. -/
def switchTarget : Target :=
  { Target.ofDialect .duckDB with
    registry :=
      (Registry.empty.insert "extra" (.function "OLD") rfl).insert "switch" switchHandler rfl }

/-- The operator that is replaced. -/
def extraRule : Rule :=
  .operation "extra" (.operation "var" (.string "b"))

/-- Both operators, used after the changes have been made. -/
def switchRule : Rule :=
  .operation "and" (.list
    [.operation "switch" (.operation "var" (.string "a")),
     extraRule,
     .operation "switch" (.operation "var" (.string "c"))])

theorem condition_isolated_switchTarget :
    ((Workspace.mk [switchTarget] []).conditions 0
        [.rule switchRule, .rule extraRule, .rule switchRule]).map Except.toOption =
      [some "(SWITCH(a) AND OLD(b) AND SWITCH(c))", some "NEW(b)", none] ∧
    ((Workspace.mk [switchTarget] []).condition switchTarget (.rule switchRule)).1 =
      switchTarget.condition (.rule switchRule) := by
  obtain ⟨one, sequence⟩ := condition_isolated_from_edits ⟨[switchTarget], []⟩ 0 switchTarget rfl
  rw [sequence]
  exact ⟨rfl, (one _).1⟩

end RuleClause
