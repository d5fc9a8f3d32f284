import Mathlib.Logic.Relation
import RuleClause.Proofs.Compile.Success
import RuleClause.Proofs.Plan.Requests

/-!
# The jobs of a compilation

To compile a rule is a job, and a job starts others: for the items of a list, for the
arguments of a custom operator, and for what a built-in operator asks for.  A job that
comes to its end has had all the jobs that it started come to theirs.
-/

namespace RuleClause

/-- A rule to compile: where it stands, what its names refer to and what its literals meet. -/
structure Job where
  /-- The rule. -/
  rule : Rule
  /-- Where it stands. -/
  position : Position
  /-- What its names refer to. -/
  scope : Scope
  /-- The type of the field that its literals meet, if there is one. -/
  hint : Option FieldType

namespace Job

/-- The job of compiling a whole rule. -/
def whole (rule : Rule) : Job :=
  ⟨rule, .start, .row, none⟩

/-- The outcome of a job. -/
def outcome (context : Context (Except Error)) (job : Job) : Except Error Sql :=
  compileAt context job.rule job.position job.scope job.hint

/-- A job starts another. -/
inductive Starts (context : Context (Except Error)) : Job → Job → Prop
  /-- For an item of a list. -/
  | item
      {items : List Rule}
      {item : Rule}
      {index : Nat}
      {position : Position}
      {scope : Scope}
      {hint : Option FieldType}
      (found : items[index]? = some item) :
      Starts context ⟨.list items, position, scope, hint⟩
        ⟨item, ⟨position.valuePath, some index, position.depth + 1⟩, scope, hint⟩
  /-- For an argument of a custom operator. -/
  | argument
      {operator : String}
      {arguments operand : Rule}
      {index : Nat}
      {position : Position}
      {scope : Scope}
      {hint : Option FieldType}
      (registered : (context.custom operator).isSome = true)
      (found : arguments.operands[index]? = some operand) :
      Starts context ⟨.operation operator arguments, position, scope, hint⟩
        ⟨operand, position.operand operator arguments index, scope, none⟩
  /-- For what the plan of a built-in operator asks for. -/
  | request
      {operator : Operator}
      {arguments inner : Rule}
      {position place : Position}
      {scope : Scope}
      {hint : Option FieldType}
      {request : Request}
      (unregistered : context.custom operator.name = none)
      (asks :
        (operator.plan context.dialect ⟨context.schema, scope⟩
          ⟨operator.name, arguments, position.operationPath operator.name⟩).Asks
          (OperandCompiler.answer (operandsAt context operator.name arguments position)) request)
      (picked : request.selection.pick? operator.name arguments position = some (inner, place)) :
      Starts context ⟨.operation operator.name arguments, position, scope, hint⟩
        ⟨inner, place, request.scope, request.hint⟩

/-- A job is started by another, or by one that is. -/
abbrev Reaches (context : Context (Except Error)) : Job → Job → Prop :=
  Relation.ReflTransGen (Starts context)

variable {context : Context (Except Error)} {job inner : Job}

theorem Starts.exists_outcome
    (starts : job.Starts context inner)
    {expression : Sql}
    (ended : job.outcome context = .ok expression) :
    ∃ part, inner.outcome context = .ok part := by
  cases starts with
  | @item items item index position scope hint found =>
      simp only [outcome, compileAt] at ended
      cases each : compileEach scope hint
          (itemCompilers context items position.valuePath (position.depth + 1) 0) with
      | error error => simp [each, bind, Except.bind] at ended
      | ok expressions =>
          have compiler : (itemCompilers context items position.valuePath
              (position.depth + 1) 0)[index]? =
                some (compileAt context item ⟨position.valuePath, some index,
                  position.depth + 1⟩) := by
            rw [itemCompilers_getElem?, found, Nat.zero_add, Option.map_some]
          obtain ⟨part, _, compiled⟩ := ((compileEach_eq_ok_iff _ _ _ _).mp each).exists_of_mem_left
            (List.mem_of_getElem? compiler)
          exact ⟨part, compiled⟩
  | @argument operator arguments operand index position scope hint registered found =>
      rw [outcome, compileAt_operation, Context.operation_eq_ok_iff] at ended
      rcases Context.of_apply ended.2 with ⟨handler, _, called⟩ | ⟨_, unregistered, _⟩
      · obtain ⟨_, parts, each⟩ := Context.of_callCustom called
        have compiler := operandsAt_getElem? context operator arguments position index
        rw [found, Option.map_some] at compiler
        obtain ⟨part, _, compiled⟩ := each.exists_of_mem_left (List.mem_of_getElem? compiler)
        exact ⟨part, compiled⟩
      · simp [unregistered] at registered
  | @request operator arguments rule position place scope hint request unregistered asks picked =>
      rw [outcome, compileAt_operation, Context.operation_eq_ok_iff] at ended
      rcases Context.of_apply ended.2 with ⟨handler, registered, _⟩ | ⟨builtin, _, named, run⟩
      · simp [unregistered] at registered
      · obtain rfl := Operator.name_injective named
        obtain ⟨part, answered⟩ := asks.answered run
        rw [answer_operandsAt, picked] at answered
        exact ⟨part, answered⟩

/-- A job starts others for what is inside of its rule. -/
theorem Starts.contains (starts : job.Starts context inner) :
    job.rule.Contains inner.rule := by
  cases starts with
  | item found => exact .of_mem_children (List.mem_of_getElem? found)
  | argument _ found => exact .of_mem_children (List.mem_of_getElem? found)
  | request _ _ picked => exact Selection.contains_of_pick? picked

theorem Starts.sizeOf_lt (starts : job.Starts context inner) :
    sizeOf inner.rule < sizeOf job.rule := by
  cases starts with
  | @item items item _ _ _ _ found =>
      exact Rule.sizeOf_child_lt
        (show item ∈ (Rule.list items).children from List.mem_of_getElem? found)
  | @argument operator arguments operand _ _ _ _ _ found =>
      exact Rule.sizeOf_child_lt
        (show operand ∈ (Rule.operation operator arguments).children from
          List.mem_of_getElem? found)
  | request _ _ picked => exact Selection.sizeOf_lt_of_pick? picked

/-- Whatever a job reaches comes to its end if the job does. -/
theorem Reaches.exists_outcome
    (reaches : job.Reaches context inner)
    {expression : Sql}
    (ended : job.outcome context = .ok expression) :
    ∃ part, inner.outcome context = .ok part := by
  induction reaches with
  | refl => exact ⟨expression, ended⟩
  | tail _ starts inductionHypothesis =>
      obtain ⟨part, outer⟩ := inductionHypothesis
      exact starts.exists_outcome outer

end Job
end RuleClause
