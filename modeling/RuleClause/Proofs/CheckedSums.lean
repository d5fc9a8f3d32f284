import RuleClause.Checked
import RuleClause.Proofs.Compile.Correspondence
import RuleClause.Proofs.Compile.Origin
import RuleClause.Proofs.Target

/-!
# Where checked compilations stop

A compilation that checks its sums goes the same way as any other, up to the first sum that
does not fit a word.  There it stops; otherwise it has the same outcome.  The only sum is the
number of an item, where items are counted from one, so that it stops exactly at a variable
that addresses the item behind all others: the largest number that fits a word.
-/

namespace RuleClause

/-! ## Checked computations beside others -/

namespace Checked

variable {α β : Type} {computation : Checked α} {outcome : Except Error α}

theorem run_bind_of_stopped (stopped : computation.run = none) (next : α → Checked β) :
    (computation >>= next).run = none := by
  rw [ExceptT.run_bind, stopped]
  rfl

theorem run_bind_of_ok
    {value : α}
    (ended : computation.run = some (.ok value))
    (next : α → Checked β) :
    (computation >>= next).run = (next value).run := by
  rw [ExceptT.run_bind, ended]
  rfl

theorem run_bind_of_error
    {error : Error}
    (failed : computation.run = some (.error error))
    (next : α → Checked β) :
    (computation >>= next).run = some (.error error) := by
  rw [ExceptT.run_bind, failed]
  rfl

/-- A checked computation has stopped, or it has the outcome of another. -/
def Follows (outcome : Except Error α) (computation : Checked α) : Prop :=
  computation.run = none ∨ computation.run = some outcome

/-- Every step keeps a checked computation behind the other. -/
def following : Correspondence (Except Error) Checked where
  related := Follows
  pure _ := .inr rfl
  throw _ := .inr rfl
  bind := by
    rintro _ _ outcome computation _ _ (stopped | ended) next
    · exact .inl (run_bind_of_stopped stopped _)
    · cases outcome with
      | error error => exact .inr (run_bind_of_error ended _)
      | ok value =>
          rw [Follows, run_bind_of_ok ended]
          exact next value
  tryCatch := by
    rintro _ outcome computation _ _ (stopped | ended) handled
    · refine .inl ?_
      change (computation.run >>= _) = none
      rw [stopped]
      rfl
    · change (computation.run >>= _) = none ∨ (computation.run >>= _) = _
      rw [ended]
      cases outcome with
      | ok value => exact .inr rfl
      | error error => exact handled error

/-- A sequence stops in its first part, or in the second if the first ends well. -/
theorem Follows.run_bind_eq_none_iff
    (follows : Follows outcome computation)
    (next : α → Checked β) :
    (computation >>= next).run = none ↔
      computation.run = none ∨ ∃ value, outcome = .ok value ∧ (next value).run = none := by
  rcases follows with stopped | ended
  · simp [run_bind_of_stopped stopped, stopped]
  · cases outcome with
    | error error => simp [run_bind_of_error ended, ended]
    | ok value => simp [run_bind_of_ok ended, ended]

/-- A sequence whose second part does not stop stops in the first. -/
theorem run_bind_eq_none_iff
    (computation : Checked α)
    {next : α → Checked β}
    (goesOn : ∀ value, (next value).run ≠ none) :
    (computation >>= next).run = none ↔ computation.run = none := by
  cases ended : computation.run with
  | none => simp [run_bind_of_stopped ended]
  | some outcome =>
      have follows : Follows outcome computation := .inr ended
      rw [follows.run_bind_eq_none_iff, ended]
      simp [goesOn]

theorem run_map_eq_none_iff (computation : Checked α) (function : α → β) :
    (computation >>= fun value => pure (function value)).run = none ↔ computation.run = none :=
  run_bind_eq_none_iff computation fun _ => Option.some_ne_none _

/-- What is done with an error does not make a computation stop. -/
theorem run_tryCatch_eq_none_iff (computation : Checked α) (function : Error → Error) :
    (tryCatch computation fun error => throw (function error)).run = none ↔
      computation.run = none := by
  change (computation.run >>= _) = none ↔ _
  cases computation.run with
  | none => exact Iff.rfl
  | some outcome =>
      refine iff_of_false ?_ (Option.some_ne_none _)
      cases outcome <;> exact Option.some_ne_none _

end Checked

open Checked (Follows)

/-- A plan stops where a request that it makes does. -/
theorem Plan.run_checked_eq_none_iff
    {α : Type}
    {answer : Request → Except Error Sql}
    {checked : Request → Checked Sql}
    (follows : ∀ request, Follows (answer request) (checked request))
    (plan : Plan α) :
    (plan.run checked).run = none ↔
      ∃ request, plan.Asks answer request ∧ (checked request).run = none := by
  induction plan with
  | done value =>
      refine iff_of_false (by simp [run]) ?_
      rintro ⟨_, ⟨⟩, _⟩
  | fail error =>
      refine iff_of_false (Option.some_ne_none _) ?_
      rintro ⟨_, ⟨⟩, _⟩
  | ask first next inductionHypothesis =>
      rw [run, (follows first).run_bind_eq_none_iff]
      simp only [inductionHypothesis]
      constructor
      · rintro (stopped | ⟨expression, answered, request, asks, stopped⟩)
        · exact ⟨first, .here, stopped⟩
        · exact ⟨request, .later answered asks, stopped⟩
      · rintro ⟨request, asks, stopped⟩
        cases asks with
        | here => exact .inl stopped
        | later answered asks => exact .inr ⟨_, answered, request, asks, stopped⟩

/-- Rules are compiled from left to right, up to the first one that stops. -/
theorem compileEach_checked_eq_none_iff
    {scope : Scope}
    {hint : Option FieldType}
    {rules : List Rule}
    {compilers : List (Compiler Checked)}
    {plain : Nat → Rule → Compiler (Except Error)}
    {checked : Nat → Rule → Compiler Checked}
    (each : ∀ index, compilers[index]? = rules[index]?.map (checked index))
    (follows : ∀ index rule,
      Follows (plain index rule scope hint) (checked index rule scope hint)) :
    (compileEach scope hint compilers).run = none ↔
      ∃ index rule, rules[index]? = some rule ∧ (checked index rule scope hint).run = none ∧
        ∀ before < index, ∀ first, rules[before]? = some first →
          ∃ expression, plain before first scope hint = .ok expression := by
  induction rules generalizing compilers plain checked with
  | nil =>
      obtain rfl : compilers = [] := by simpa using each 0
      simp [compileEach]
  | cons rule rest inductionHypothesis =>
      cases compilers with
      | nil => simpa using each 0
      | cons compiler others =>
          obtain rfl : compiler = checked 0 rule := by simpa using each 0
          have later := inductionHypothesis (fun index => each (index + 1))
            (fun index => follows (index + 1))
          rw [compileEach, (follows 0 rule).run_bind_eq_none_iff]
          simp only [Checked.run_map_eq_none_iff, later]
          constructor
          · rintro (stopped | ⟨expression, ended, index, other, found, stopped, earlier⟩)
            · exact ⟨0, rule, rfl, stopped, by simp⟩
            · refine ⟨index + 1, other, found, stopped, fun before bound first located => ?_⟩
              cases before with
              | zero =>
                  obtain rfl : rule = first := by simpa using located
                  exact ⟨expression, ended⟩
              | succ before => exact earlier before (by omega) first located
          · rintro ⟨index, other, found, stopped, earlier⟩
            cases index with
            | zero =>
                obtain rfl : rule = other := by simpa using found
                exact .inl stopped
            | succ index =>
                obtain ⟨expression, ended⟩ := earlier 0 (Nat.succ_pos index) rule rfl
                refine .inr ⟨expression, ended, index, other, found, stopped, ?_⟩
                exact fun before bound first located =>
                  earlier (before + 1) (by omega) first located

/-! ## Jobs that stop -/

theorem Context.corresponds_checked (context : Context (Except Error)) (rule : Rule) :
    Corresponds Checked.following context context.checked rule where
  dialect _ _ _ _ := rfl
  maxDepth := rfl
  custom operator _ _ := by
    simp only [checked]
    cases context.custom operator with
    | none => exact .none
    | some handler => exact .some fun texts => .inr rfl
  count operator arguments path scope _ := by
    rw [count_eq_pure rfl, count]
    split
    · exact .inl rfl
    · exact .inr rfl

namespace Job

variable {context : Context (Except Error)} {job inner : Job}

/-- The outcome of a job with checked sums, unless it stops. -/
def checkedOutcome (context : Context (Except Error)) (job : Job) : Option (Except Error Sql) :=
  (compileAt context.checked job.rule job.position job.scope job.hint).run

theorem follows_outcome (context : Context (Except Error)) (job : Job) :
    Follows (job.outcome context)
      (compileAt context.checked job.rule job.position job.scope job.hint) :=
  (context.corresponds_checked job.rule).compileAt job.position (fun _ => rfl) job.hint

/-- A job takes a sum that does not fit a word. -/
def Overflows (context : Context (Except Error)) (job : Job) : Prop :=
  ∃ (operator : Operator) (arguments : Rule), job.rule = .operation operator.name arguments ∧
    job.position.depth ≤ context.maxDepth ∧ context.custom operator.name = none ∧
    operator.overflows context.dialect job.scope
      ⟨operator.name, arguments, job.position.operationPath operator.name⟩ = true

theorem checkedOutcome_list_eq_none_iff
    {items : List Rule}
    {position : Position}
    {scope : Scope}
    {hint : Option FieldType} :
    checkedOutcome context ⟨.list items, position, scope, hint⟩ = none ↔
      ∃ inner, Begins context ⟨.list items, position, scope, hint⟩ inner ∧
        inner.checkedOutcome context = none := by
  have each (index : Nat) :
      (itemCompilers context.checked items position.valuePath (position.depth + 1) 0)[index]? =
        items[index]?.map fun item =>
          compileAt context.checked item ⟨position.valuePath, some index, position.depth + 1⟩ := by
    rw [itemCompilers_getElem?, Nat.zero_add]
  rw [checkedOutcome, compileAt, Checked.run_map_eq_none_iff,
    compileEach_checked_eq_none_iff each fun index item => follows_outcome context
      ⟨item, ⟨position.valuePath, some index, position.depth + 1⟩, scope, hint⟩]
  constructor
  · rintro ⟨index, item, found, stopped, earlier⟩
    exact ⟨_, .item found earlier, stopped⟩
  · rintro ⟨_, ⟨found, earlier⟩, stopped⟩
    exact ⟨_, _, found, stopped, earlier⟩

section

variable
  {operator : String}
  {arguments : Rule}
  {position : Position}
  {scope : Scope}
  {hint : Option FieldType}

/-- What an operation begins is an argument of a custom operator, or asked for by a built-in one. -/
theorem Begins.of_operation
    (begins : Begins context ⟨.operation operator arguments, position, scope, hint⟩ inner) :
    position.depth ≤ context.maxDepth ∧
      ((∃ index operand, (context.custom operator).isSome = true ∧
        arguments.operands[index]? = some operand ∧
        (∀ before < index, ∀ first, arguments.operands[before]? = some first → ∃ expression,
          compileAt context first (position.operand operator arguments before) scope none =
            .ok expression) ∧
        inner = ⟨operand, position.operand operator arguments index, scope, none⟩) ∨
      ∃ (builtin : Operator) (request : Request) (rule : Rule) (place : Position),
        operator = builtin.name ∧ context.custom operator = none ∧
        (builtin.plan context.dialect ⟨context.schema, scope⟩
          ⟨operator, arguments, position.operationPath operator⟩).Asks
          (OperandCompiler.answer (operandsAt context operator arguments position)) request ∧
        request.selection.pick? operator arguments position = some (rule, place) ∧
        inner = ⟨rule, place, request.scope, request.hint⟩) := by
  generalize same : Job.mk (.operation operator arguments) position scope hint = job at begins
  cases begins with
  | item => simp at same
  | argument shallow registered found earlier =>
      simp only [mk.injEq, Rule.operation.injEq] at same
      obtain ⟨⟨rfl, rfl⟩, rfl, rfl, rfl⟩ := same
      exact ⟨shallow, .inl ⟨_, _, registered, found, earlier, rfl⟩⟩
  | request shallow unregistered asks picked =>
      simp only [mk.injEq, Rule.operation.injEq] at same
      obtain ⟨⟨rfl, rfl⟩, rfl, rfl, rfl⟩ := same
      exact ⟨shallow, .inr ⟨_, _, _, _, rfl, unregistered, asks, picked, rfl⟩⟩

/-- Of the operations, only those of built-in operators that are not too deep take sums. -/
theorem Overflows.of_operation
    (overflows : Overflows context ⟨.operation operator arguments, position, scope, hint⟩) :
    position.depth ≤ context.maxDepth ∧ context.custom operator = none ∧
      ∃ builtin : Operator, operator = builtin.name ∧
        builtin.overflows context.dialect scope
          ⟨operator, arguments, position.operationPath operator⟩ = true := by
  obtain ⟨builtin, _, same, shallow, unregistered, overflows⟩ := overflows
  obtain ⟨rfl, rfl⟩ := Rule.operation.inj same
  exact ⟨shallow, unregistered, builtin, rfl, overflows⟩

/-- The arguments of a custom operator are compiled up to the first one that stops. -/
theorem callCustom_checked_eq_none_iff
    (shallow : position.depth ≤ context.maxDepth)
    {handler : List String → Except Error (Except String String)}
    (registered : context.custom operator = some handler)
    (call : Call) :
    (context.checked.callCustom call (fun texts => .mk (some (handler texts))) scope
        (operandsAt context.checked operator arguments position)).run = none ↔
      ∃ inner, Begins context ⟨.operation operator arguments, position, scope, hint⟩ inner ∧
        inner.checkedOutcome context = none := by
  have each (index : Nat) :
      ((operandsAt context.checked operator arguments position).map (·.whole))[index]? =
        arguments.operands[index]?.map fun operand =>
          compileAt context.checked operand (position.operand operator arguments index) := by
    rw [List.getElem?_map, operandsAt_getElem?, Option.map_map]
    rfl
  rw [Context.callCustom, Checked.run_bind_eq_none_iff,
    compileEach_checked_eq_none_iff each fun index operand => follows_outcome context
      ⟨operand, position.operand operator arguments index, scope, none⟩]
  · constructor
    · rintro ⟨index, operand, found, stopped, earlier⟩
      exact ⟨_, .argument shallow (by simp [registered]) found earlier, stopped⟩
    · rintro ⟨_, begins, stopped⟩
      obtain ⟨_, ⟨index, operand, _, found, earlier, rfl⟩ | ⟨_, _, _, _, _, unregistered, _⟩⟩ :=
        begins.of_operation
      · exact ⟨index, operand, found, stopped, earlier⟩
      · simp [unregistered] at registered
  · -- the handler itself takes no sums
    intro expressions
    cases handler (Sql.renderAll context.checked.dialect expressions) with
    | error error => exact Option.some_ne_none _
    | ok reply => cases reply <;> exact Option.some_ne_none _

theorem count_checked_eq_none_iff (operator : Operator) (call : Call) (scope : Scope) :
    (context.checked.count operator call scope).run = none ↔
      operator.overflows context.dialect scope call = true := by
  rw [Context.count]
  split
  · rename_i overflows
    exact iff_of_true rfl overflows
  · rename_i fits
    exact iff_of_false (Option.some_ne_none _) fits

/-- A custom operator stops where one of its arguments does. -/
theorem apply_custom_checked_eq_none_iff
    (shallow : position.depth ≤ context.maxDepth)
    (registered : (context.custom operator).isSome = true) :
    (context.checked.apply ⟨operator, arguments, position.operationPath operator⟩ scope
        (operandsAt context.checked operator arguments position)).run = none ↔
      Overflows context ⟨.operation operator arguments, position, scope, hint⟩ ∨
        ∃ inner, Begins context ⟨.operation operator arguments, position, scope, hint⟩ inner ∧
          inner.checkedOutcome context = none := by
  obtain ⟨handler, found⟩ := Option.isSome_iff_exists.mp registered
  have called : context.checked.custom operator = some fun texts => .mk (some (handler texts)) := by
    simp [Context.checked, found]
  have fits : ¬ Overflows context ⟨.operation operator arguments, position, scope, hint⟩ := by
    intro overflows
    obtain ⟨_, unregistered, _⟩ := overflows.of_operation
    simp [unregistered] at registered
  simp only [Context.apply, called]
  rw [callCustom_checked_eq_none_iff shallow found, or_iff_right fits]

/-- A built-in operator stops by itself, or where something that it asks for does. -/
theorem apply_builtin_checked_eq_none_iff
    {operator : Operator}
    (shallow : position.depth ≤ context.maxDepth)
    (unregistered : context.custom operator.name = none) :
    (context.checked.apply ⟨operator.name, arguments, position.operationPath operator.name⟩ scope
        (operandsAt context.checked operator.name arguments position)).run = none ↔
      Overflows context ⟨.operation operator.name arguments, position, scope, hint⟩ ∨
        ∃ inner, Begins context ⟨.operation operator.name arguments, position, scope, hint⟩ inner ∧
          inner.checkedOutcome context = none := by
  have absent : context.checked.custom operator.name = none := by
    simp [Context.checked, unregistered]
  have counted := (context.corresponds_checked (.operation operator.name arguments)).count
    operator arguments (position.operationPath operator.name) scope (.refl _)
  rw [Context.count_eq_pure rfl] at counted
  have answers (request : Request) :
      Follows (OperandCompiler.answer (operandsAt context operator.name arguments position) request)
        (OperandCompiler.answer (operandsAt context.checked operator.name arguments position)
          request) := by
    rw [answer_operandsAt, answer_operandsAt]
    cases picked : request.selection.pick? operator.name arguments position with
    | none => exact .inr rfl
    | some target =>
        exact follows_outcome context ⟨target.1, target.2, request.scope, request.hint⟩
  simp only [Context.apply, absent, Operator.ofName?_name]
  rw [Checked.Follows.run_bind_eq_none_iff counted, count_checked_eq_none_iff]
  refine or_congr ?_ ?_
  · constructor
    · intro overflows
      exact ⟨operator, arguments, rfl, shallow, unregistered, overflows⟩
    · intro overflows
      obtain ⟨_, _, builtin, named, sum⟩ := overflows.of_operation
      obtain rfl := Operator.name_injective named
      exact sum
  · constructor
    · rintro ⟨_, _, stopped⟩
      obtain ⟨request, asks, stopped⟩ := (Plan.run_checked_eq_none_iff answers _).mp stopped
      rw [answer_operandsAt] at stopped
      cases picked : request.selection.pick? operator.name arguments position with
      | none =>
          rw [picked] at stopped
          cases stopped
      | some target =>
          rw [picked] at stopped
          exact ⟨_, .request shallow unregistered asks picked, stopped⟩
    · rintro ⟨_, begins, stopped⟩
      refine ⟨(), rfl, (Plan.run_checked_eq_none_iff answers _).mpr ?_⟩
      obtain ⟨_, ⟨_, _, registered, _⟩ | ⟨builtin, request, _, _, named, _, asks, picked, rfl⟩⟩ :=
        begins.of_operation
      · simp [unregistered] at registered
      · obtain rfl := Operator.name_injective named
        refine ⟨request, asks, ?_⟩
        rw [answer_operandsAt, picked]
        exact stopped

/-- An operator that is neither custom nor built-in is refused before anything is begun. -/
theorem apply_unknown_checked_eq_none_iff
    (unregistered : context.custom operator = none)
    (unknown : Operator.ofName? operator = none) :
    (context.checked.apply ⟨operator, arguments, position.operationPath operator⟩ scope
        (operandsAt context.checked operator arguments position)).run = none ↔
      Overflows context ⟨.operation operator arguments, position, scope, hint⟩ ∨
        ∃ inner, Begins context ⟨.operation operator arguments, position, scope, hint⟩ inner ∧
          inner.checkedOutcome context = none := by
  have other (builtin : Operator) : operator ≠ builtin.name := by
    rintro rfl
    simp at unknown
  have absent : context.checked.custom operator = none := by
    simp [Context.checked, unregistered]
  simp only [Context.apply, absent, unknown]
  refine iff_of_false (Option.some_ne_none _) ?_
  rintro (overflows | ⟨_, begins, _⟩)
  · obtain ⟨_, _, builtin, named, _⟩ := overflows.of_operation
    exact other builtin named
  · obtain ⟨_, ⟨_, _, registered, _⟩ | ⟨builtin, _, _, _, named, _⟩⟩ := begins.of_operation
    · simp [unregistered] at registered
    · exact other builtin named

end

/-- An operation that is not too deep stops where its operator does. -/
theorem checkedOutcome_operation_eq_none_iff
    (operator : String)
    (arguments : Rule)
    (position : Position)
    (scope : Scope)
    (hint : Option FieldType) :
    checkedOutcome context ⟨.operation operator arguments, position, scope, hint⟩ = none ↔
      position.depth ≤ context.maxDepth ∧
        (context.checked.apply ⟨operator, arguments, position.operationPath operator⟩ scope
          (operandsAt context.checked operator arguments position)).run = none := by
  rw [checkedOutcome, compileAt_operation, Context.operation]
  by_cases deep : context.maxDepth < position.depth
  · rw [if_pos (show context.checked.maxDepth < position.depth from deep)]
    refine iff_of_false (Option.some_ne_none _) ?_
    rintro ⟨shallow, _⟩
    omega
  · rw [if_neg (show ¬ context.checked.maxDepth < position.depth from deep),
      Checked.run_tryCatch_eq_none_iff]
    exact (and_iff_right (Nat.not_lt.mp deep)).symm

/-- A job stops by itself, or where one that it has begun does. -/
theorem checkedOutcome_eq_none_iff_begins (context : Context (Except Error)) (job : Job) :
    job.checkedOutcome context = none ↔
      job.Overflows context ∨
        ∃ inner, job.Begins context inner ∧ inner.checkedOutcome context = none := by
  obtain ⟨rule, position, scope, hint⟩ := job
  cases rule with
  | null | bool | number | string =>
      refine iff_of_false (Option.some_ne_none _) ?_
      rintro (⟨_, _, ⟨⟩, _⟩ | ⟨_, ⟨⟩, _⟩)
  | list items =>
      rw [checkedOutcome_list_eq_none_iff, or_iff_right]
      rintro ⟨_, _, ⟨⟩, _⟩
  | operation operator arguments =>
      rw [checkedOutcome_operation_eq_none_iff]
      by_cases shallow : position.depth ≤ context.maxDepth
      · rw [and_iff_right shallow]
        cases registered : context.custom operator with
        | some handler => exact apply_custom_checked_eq_none_iff shallow (by simp [registered])
        | none =>
            cases named : Operator.ofName? operator with
            | none => exact apply_unknown_checked_eq_none_iff registered named
            | some builtin =>
                obtain rfl := (Operator.ofName?_eq_some_iff operator builtin).mp named
                exact apply_builtin_checked_eq_none_iff shallow registered
      · -- what is too deep is refused as it is
        refine iff_of_false (fun stopped => shallow stopped.1) ?_
        rintro (overflows | ⟨_, begins, _⟩)
        · exact shallow overflows.of_operation.1
        · exact shallow begins.of_operation.1

/-- A job stops exactly if one that it comes to run takes a sum that does not fit a word. -/
theorem checkedOutcome_eq_none_iff (context : Context (Except Error)) (job : Job) :
    job.checkedOutcome context = none ↔
      ∃ inner, job.Runs context inner ∧ inner.Overflows context := by
  rw [checkedOutcome_eq_none_iff_begins]
  constructor
  · rintro (overflows | ⟨inner, begins, stopped⟩)
    · exact ⟨job, .refl, overflows⟩
    · have smaller := begins.starts.sizeOf_lt
      obtain ⟨last, runs, overflows⟩ := (checkedOutcome_eq_none_iff context inner).mp stopped
      exact ⟨last, .head begins runs, overflows⟩
  · rintro ⟨last, runs, overflows⟩
    rcases runs.cases_head with rfl | ⟨inner, begins, runs⟩
    · exact .inl overflows
    · have smaller := begins.starts.sizeOf_lt
      exact .inr ⟨inner, begins,
        (checkedOutcome_eq_none_iff context inner).mpr ⟨last, runs, overflows⟩⟩
termination_by sizeOf job.rule

end Job

/-! ## The last number of a word -/

/-- The largest number that fits a 64-bit word. -/
def lastNumber : Int := 18446744073709551615

theorem Dialect.overflows_iff (dialect : Dialect) (index : UInt64) :
    dialect.overflows index = true ↔ dialect.forms.index = .ordinal ∧ index.toNat = lastNumber := by
  have bound := index.toNat_lt
  unfold overflows
  cases dialect.forms.index with
  | offset => simp
  | ordinal =>
      simp only [decide_eq_true_eq, true_and, lastNumber, UInt64.size]
      omega

/-- Only the last number overflows when it is counted from one. -/
theorem Number.any_overflows_toIndex?_iff (dialect : Dialect) (value : Number) :
    value.toIndex?.any dialect.overflows = true ↔
      dialect.forms.index = .ordinal ∧ value = .integer lastNumber := by
  cases value with
  | float value => simp [toIndex?]
  | integer value =>
      simp only [toIndex?, Number.integer.injEq]
      split
      · rename_i range
        have fits : value.toNat < UInt64.size := by omega
        rw [Option.any_some, Dialect.overflows_iff, UInt64.toNat_ofNat_of_lt' fits]
        refine and_congr_right fun _ => ?_
        omega
      · rename_i outside
        refine iff_of_false (by simp) ?_
        rintro ⟨_, rfl⟩
        exact outside (by decide)

/-- A variable overflows if it addresses the item with the last number. -/
theorem Reference.any_overflows_item?_iff (dialect : Dialect) (scope : Scope) (call : Call) :
    (item? scope call).any dialect.overflows = true ↔
      dialect.forms.index = .ordinal ∧ scope ≠ .row ∧
        (call.operands = [.number (.integer lastNumber)] ∨
          ∃ default, call.operands = [.number (.integer lastNumber), default]) := by
  unfold item?
  split
  · rename_i row
    simp [row]
  · rename_i inside
    split
    · rename_i value operands
      simp [Number.any_overflows_toIndex?_iff, operands, inside]
    · rename_i value default operands
      simp [Number.any_overflows_toIndex?_iff, operands, inside]
    · rename_i single pair
      refine iff_of_false (by simp) ?_
      rintro ⟨_, _, operands | ⟨default, operands⟩⟩
      · exact single _ operands
      · exact pair _ default operands

namespace Job

/-- A job compiles a variable that addresses the item with the last number. -/
def AddressesLast (job : Job) : Prop :=
  job.scope ≠ .row ∧ ∃ arguments, job.rule = .operation Operator.var.name arguments ∧
    (arguments.operands = [.number (.integer lastNumber)] ∨
      ∃ default, arguments.operands = [.number (.integer lastNumber), default])

/-- For a target, only variables take sums. -/
theorem overflows_context_iff (target : Target) (job : Job) :
    job.Overflows target.context ↔
      target.dialect.forms.index = .ordinal ∧ job.AddressesLast ∧
        job.position.depth ≤ target.maxDepth := by
  constructor
  · rintro ⟨operator, arguments, same, shallow, _, overflows⟩
    cases operator with
    | var =>
        obtain ⟨ordinal, inside, operands⟩ :=
          (Reference.any_overflows_item?_iff _ _ _).mp overflows
        exact ⟨ordinal, ⟨inside, arguments, same, operands⟩, shallow⟩
    | _ => cases overflows
  · rintro ⟨ordinal, ⟨inside, arguments, same, operands⟩, shallow⟩
    refine ⟨.var, arguments, same, shallow, target.custom_context_operator_name .var, ?_⟩
    exact (Reference.any_overflows_item?_iff _ _ _).mpr ⟨ordinal, inside, operands⟩

theorem Runs.contains
    {context : Context (Except Error)}
    {job inner : Job}
    (runs : job.Runs context inner) :
    job.rule.Contains inner.rule := by
  induction runs with
  | refl => exact .refl _
  | tail _ begins inductionHypothesis => exact inductionHypothesis.trans begins.starts.contains

end Job

/-- Some variable of the rule has the last number for its name. -/
def Rule.NumbersLast (rule : Rule) : Prop :=
  ∃ arguments rest, rule.Contains (.operation Operator.var.name arguments) ∧
    arguments.operands = .number (.integer lastNumber) :: rest

/-! ## Conditions with checked sums -/

namespace Target

/--
A compilation takes a sum that does not fit a word: items are counted from one, and a variable
that it comes to addresses the one with the last number.
-/
def Overflows (target : Target) (source : Source) : Prop :=
  target.dialect.forms.index = .ordinal ∧ ∃ operator arguments job,
    target.context.readRule source = .ok (.operation operator arguments) ∧
    (Job.whole (.operation operator arguments)).Runs target.context job ∧
    job.AddressesLast ∧ job.position.depth ≤ target.maxDepth

variable {target : Target} {source : Source}

theorem not_overflows_of_not_numbersLast
    (apart : ∀ rule, target.context.readRule source = .ok rule → ¬ rule.NumbersLast) :
    ¬ target.Overflows source := by
  rintro ⟨_, operator, arguments, job, read, runs, ⟨_, operands, same, last⟩, _⟩
  have contains := runs.contains
  rw [same] at contains
  refine apart _ read ?_
  rcases last with single | ⟨default, pair⟩
  · exact ⟨operands, [], contains, single⟩
  · exact ⟨operands, [default], contains, pair⟩

theorem compile_checked_eq_none_iff (rule : Rule) :
    (target.context.checked.compile rule).run = none ↔
      ∃ operator arguments, rule = .operation operator arguments ∧
        (Job.whole rule).checkedOutcome target.context = none := by
  cases rule with
  | operation operator arguments =>
      constructor
      · intro stopped
        exact ⟨operator, arguments, rfl, stopped⟩
      · rintro ⟨_, _, _, stopped⟩
        exact stopped
  | null | bool | number | string | list =>
      refine iff_of_false (Option.some_ne_none _) ?_
      rintro ⟨_, _, ⟨⟩, _⟩

/-- Checked sums leave out a condition or an error exactly where one does not fit a word. -/
theorem checkedCondition_eq_none_iff :
    target.checkedCondition source = none ↔ target.Overflows source := by
  have stops : target.checkedCondition source = none ↔ ∃ rule,
      target.context.readRule source = .ok rule ∧
        (target.context.checked.compile rule).run = none := by
    have same : target.context.checked.readRule source = target.context.readRule source :=
      Context.readRule_eq rfl source
    rw [checkedCondition, Context.condition, same]
    cases target.context.readRule source with
    | error error => exact iff_of_false (Option.some_ne_none _) (by simp)
    | ok rule =>
        have taken : (MonadExcept.ofExcept (.ok rule : Except Error Rule) : Checked Rule).run =
            some (.ok rule) := rfl
        rw [Checked.run_bind_of_ok taken, Checked.run_map_eq_none_iff]
        simp
  rw [stops]
  constructor
  · rintro ⟨rule, read, stopped⟩
    obtain ⟨operator, arguments, rfl, stopped⟩ := (compile_checked_eq_none_iff rule).mp stopped
    obtain ⟨job, runs, overflows⟩ := (Job.checkedOutcome_eq_none_iff _ _).mp stopped
    obtain ⟨ordinal, last, shallow⟩ := (Job.overflows_context_iff target job).mp overflows
    exact ⟨ordinal, operator, arguments, job, read, runs, last, shallow⟩
  · rintro ⟨ordinal, operator, arguments, job, read, runs, last, shallow⟩
    have overflows := (Job.overflows_context_iff target job).mpr ⟨ordinal, last, shallow⟩
    refine ⟨_, read, (compile_checked_eq_none_iff _).mpr ⟨operator, arguments, rfl, ?_⟩⟩
    exact (Job.checkedOutcome_eq_none_iff _ _).mpr ⟨job, runs, overflows⟩

/-- Otherwise they make no difference. -/
theorem checkedCondition_eq_some (fits : ¬ target.Overflows source) :
    target.checkedCondition source = some (target.condition source) := by
  have follows : Checked.Follows (target.condition source)
      (target.context.checked.condition source) :=
    Context.related_condition target.context.corresponds_checked rfl rfl source
  rcases follows with stopped | ended
  · exact absurd (checkedCondition_eq_none_iff.mp stopped) fits
  · exact ended

end Target
end RuleClause
