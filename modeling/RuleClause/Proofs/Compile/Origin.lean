import RuleClause.Proofs.Compile.Place
import RuleClause.Proofs.Plan.Faults

/-!
# Where the errors of a compilation come from

A job fails by itself, or because of a job that it has begun.  What it has begun
before that one has come to its end, so that the first failure is the one that is
reported.  On its way out an error keeps its fault, its place and its cause, and it
keeps its operator once it has one.  Hence behind every failure stands a job that
has raised the error itself.
-/

namespace RuleClause

/-! ## Errors on their way out -/

namespace Error

/--
An error tells the same as another: the same fault at the same place, with the same
cause, and found by the same operator if that one is known.
-/
structure Retells (error reason : Error) : Prop where
  fault : error.fault = reason.fault
  path : error.path = reason.path
  cause : error.cause = reason.cause
  operator : ∀ name, reason.operator = some name → error.operator = some name

namespace Retells

variable {error middle reason : Error}

theorem refl (error : Error) : error.Retells error :=
  ⟨rfl, rfl, rfl, fun _ => id⟩

theorem trans (outer : error.Retells middle) (inner : middle.Retells reason) :
    error.Retells reason where
  fault := outer.fault.trans inner.fault
  path := outer.path.trans inner.path
  cause := outer.cause.trans inner.cause
  operator name named := outer.operator name (inner.operator name named)

theorem code_eq (retells : error.Retells reason) : error.code = reason.code :=
  congrArg Fault.code retells.fault

/-- Nothing can be added to an error that names its operator. -/
theorem eq_of_operator
    {name : String}
    (retells : error.Retells reason)
    (named : reason.operator = some name) :
    error = reason := by
  have operator := retells.operator name named
  rw [← named] at operator
  obtain ⟨fault, _, path, cause⟩ := error
  obtain ⟨fault', _, path', cause'⟩ := reason
  obtain ⟨rfl, rfl, rfl, _⟩ := retells
  cases operator
  rfl

end Retells

theorem retells_completedBy
    {error : Error}
    {place : Path}
    (located : error.path = some place)
    (operator : String)
    (path : Path) :
    (error.completedBy operator path).Retells error where
  fault := rfl
  path := by simp [completedBy, located]
  cause := rfl
  operator name named := by simp [completedBy, named]

end Error

/-- Rules are compiled from left to right, up to the first one that fails. -/
theorem compileEach_eq_error_iff
    (scope : Scope)
    (hint : Option FieldType)
    (compilers : List (Compiler (Except Error)))
    (error : Error) :
    compileEach scope hint compilers = .error error ↔
      ∃ (index : Nat) (compiler : Compiler (Except Error)),
        compilers[index]? = some compiler ∧ compiler scope hint = .error error ∧
          ∀ before < index, ∀ earlier : Compiler (Except Error),
            compilers[before]? = some earlier → ∃ expression, earlier scope hint = .ok expression := by
  induction compilers with
  | nil => simp [compileEach, pure, Except.pure]
  | cons compiler rest inductionHypothesis =>
      cases first : compiler scope hint with
      | error refused =>
          simp only [compileEach, first]
          constructor
          · intro failed
            cases failed
            exact ⟨0, compiler, rfl, first, by simp⟩
          · rintro ⟨index, other, found, failed, earlier⟩
            cases index with
            | zero =>
                obtain rfl := Option.some.inj found
                rw [first] at failed
                cases failed
                rfl
            | succ index =>
                obtain ⟨expression, ended⟩ := earlier 0 (Nat.succ_pos index) compiler rfl
                rw [first] at ended
                cases ended
      | ok expression =>
          have tail : compileEach scope hint (compiler :: rest) = .error error ↔
              compileEach scope hint rest = .error error := by
            simp only [compileEach, first]
            cases compileEach scope hint rest with
            | error refused => rfl
            | ok others => simp [bind, Except.bind, pure, Except.pure]
          rw [tail, inductionHypothesis]
          constructor
          · rintro ⟨index, other, found, failed, earlier⟩
            refine ⟨index + 1, other, found, failed, ?_⟩
            intro before bound candidate located
            cases before with
            | zero =>
                obtain rfl := Option.some.inj located
                exact ⟨expression, first⟩
            | succ before => exact earlier before (by omega) candidate located
          · rintro ⟨index, other, found, failed, earlier⟩
            cases index with
            | zero =>
                obtain rfl := Option.some.inj found
                rw [first] at failed
                cases failed
            | succ index =>
                refine ⟨index, other, found, failed, ?_⟩
                intro before bound candidate located
                exact earlier (before + 1) (by omega) candidate located

/-- The same where each compiler is that of a rule in a list. -/
theorem compileEach_eq_error_iff_of_getElem?
    {rules : List Rule}
    {compilers : List (Compiler (Except Error))}
    {compiler : Nat → Rule → Compiler (Except Error)}
    (each : ∀ index, compilers[index]? = rules[index]?.map (compiler index))
    (scope : Scope)
    (hint : Option FieldType)
    (error : Error) :
    compileEach scope hint compilers = .error error ↔
      ∃ index rule, rules[index]? = some rule ∧ compiler index rule scope hint = .error error ∧
        ∀ before < index, ∀ first, rules[before]? = some first →
          ∃ expression, compiler before first scope hint = .ok expression := by
  rw [compileEach_eq_error_iff]
  constructor
  · rintro ⟨index, _, located, failed, earlier⟩
    rw [each] at located
    obtain ⟨rule, found, rfl⟩ := Option.map_eq_some_iff.mp located
    refine ⟨index, rule, found, failed, ?_⟩
    intro before bound first foundFirst
    apply earlier before bound
    rw [each, foundFirst, Option.map_some]
  · rintro ⟨index, rule, found, failed, earlier⟩
    refine ⟨index, compiler index rule, ?_, failed, ?_⟩
    · rw [each, found, Option.map_some]
    · intro before bound other located
      rw [each] at located
      obtain ⟨first, foundFirst, rfl⟩ := Option.map_eq_some_iff.mp located
      exact earlier before bound first foundFirst

section

variable (context : Context (Except Error)) (position : Position) (scope : Scope) (error : Error)

theorem compileEach_items_eq_error_iff (items : List Rule) (hint : Option FieldType) :
    compileEach scope hint
        (itemCompilers context items position.valuePath (position.depth + 1) 0) = .error error ↔
      ∃ index item, items[index]? = some item ∧
        compileAt context item ⟨position.valuePath, some index, position.depth + 1⟩ scope hint =
          .error error ∧
        ∀ before < index, ∀ first, items[before]? = some first → ∃ expression,
          compileAt context first ⟨position.valuePath, some before, position.depth + 1⟩ scope hint =
            .ok expression := by
  apply compileEach_eq_error_iff_of_getElem?
  intro index
  rw [itemCompilers_getElem?, Nat.zero_add]

theorem compileEach_operands_eq_error_iff (operator : String) (arguments : Rule) :
    compileEach scope none ((operandsAt context operator arguments position).map (·.whole)) =
        .error error ↔
      ∃ index operand, arguments.operands[index]? = some operand ∧
        compileAt context operand (position.operand operator arguments index) scope none =
          .error error ∧
        ∀ before < index, ∀ first, arguments.operands[before]? = some first → ∃ expression,
          compileAt context first (position.operand operator arguments before) scope none =
            .ok expression := by
  apply compileEach_eq_error_iff_of_getElem?
  intro index
  rw [List.getElem?_map, operandsAt_getElem?, Option.map_map]
  rfl

end

/-- The handlers of custom operators reply, and do not break off the compilation. -/
def Context.Replies (context : Context (Except Error)) : Prop :=
  ∀ name handler, context.custom name = some handler →
    ∀ arguments, ∃ reply, handler arguments = .ok reply

namespace Job

/-! ## Jobs that are begun -/

/-- A job begins another, having brought to their ends the ones that it has begun before. -/
inductive Begins (context : Context (Except Error)) : Job → Job → Prop
  /-- For an item of a list. -/
  | item
      {items : List Rule}
      {item : Rule}
      {index : Nat}
      {position : Position}
      {scope : Scope}
      {hint : Option FieldType}
      (found : items[index]? = some item)
      (earlier : ∀ before < index, ∀ first, items[before]? = some first → ∃ expression,
        compileAt context first ⟨position.valuePath, some before, position.depth + 1⟩ scope hint =
          .ok expression) :
      Begins context ⟨.list items, position, scope, hint⟩
        ⟨item, ⟨position.valuePath, some index, position.depth + 1⟩, scope, hint⟩
  /-- For an argument of a custom operator. -/
  | argument
      {operator : String}
      {arguments operand : Rule}
      {index : Nat}
      {position : Position}
      {scope : Scope}
      {hint : Option FieldType}
      (shallow : position.depth ≤ context.maxDepth)
      (registered : (context.custom operator).isSome = true)
      (found : arguments.operands[index]? = some operand)
      (earlier : ∀ before < index, ∀ first, arguments.operands[before]? = some first →
        ∃ expression, compileAt context first (position.operand operator arguments before)
          scope none = .ok expression) :
      Begins context ⟨.operation operator arguments, position, scope, hint⟩
        ⟨operand, position.operand operator arguments index, scope, none⟩
  /-- For what the plan of a built-in operator asks for. -/
  | request
      {operator : Operator}
      {arguments inner : Rule}
      {position place : Position}
      {scope : Scope}
      {hint : Option FieldType}
      {request : Request}
      (shallow : position.depth ≤ context.maxDepth)
      (unregistered : context.custom operator.name = none)
      (asks :
        (operator.plan context.dialect ⟨context.schema, scope⟩
          ⟨operator.name, arguments, position.operationPath operator.name⟩).Asks
          (OperandCompiler.answer (operandsAt context operator.name arguments position)) request)
      (picked : request.selection.pick? operator.name arguments position = some (inner, place)) :
      Begins context ⟨.operation operator.name arguments, position, scope, hint⟩
        ⟨inner, place, request.scope, request.hint⟩

/-- A job is begun by another, or by one that is. -/
abbrev Runs (context : Context (Except Error)) : Job → Job → Prop :=
  Relation.ReflTransGen (Begins context)

variable {context : Context (Except Error)} {job inner origin : Job} {error reason : Error}

theorem Begins.starts (begins : job.Begins context inner) : job.Starts context inner := by
  cases begins with
  | item found _ => exact .item found
  | argument _ registered found _ => exact .argument registered found
  | request _ unregistered asks picked => exact .request unregistered asks picked

theorem Runs.reaches (runs : job.Runs context inner) : job.Reaches context inner :=
  Relation.ReflTransGen.mono (fun _ _ => Begins.starts) _ _ runs

/-- An error of a job that this one has begun, as this one reports it. -/
def report (job : Job) (error : Error) : Error :=
  match job.rule with
  | .operation operator _ => error.completedBy operator (job.position.operationPath operator)
  | _ => error

theorem retells_report {place : Path} (job : Job) (located : error.path = some place) :
    (job.report error).Retells error := by
  unfold report
  split
  · exact Error.retells_completedBy located _ _
  · exact .refl error

/-- An operation reports the error with which its operator fails. -/
theorem outcome_eq_error_of_apply
    {operator : String}
    {arguments : Rule}
    {position : Position}
    {scope : Scope}
    {hint : Option FieldType}
    (shallow : position.depth ≤ context.maxDepth)
    (failed : context.apply ⟨operator, arguments, position.operationPath operator⟩ scope
      (operandsAt context operator arguments position) = .error error) :
    outcome context ⟨.operation operator arguments, position, scope, hint⟩ =
      .error (error.completedBy operator (position.operationPath operator)) := by
  rw [outcome, compileAt_operation, Context.operation_eq, if_neg (Nat.not_lt.mpr shallow), failed]
  rfl

/-! ## Errors that a job raises -/

/-- A job raises an error itself. -/
inductive Raises (context : Context (Except Error)) : Job → Error → Prop
  /-- There are too many levels around an operation. -/
  | tooDeep
      {operator : String}
      {arguments : Rule}
      {position : Position}
      {scope : Scope}
      {hint : Option FieldType}
      (deep : context.maxDepth < position.depth) :
      Raises context ⟨.operation operator arguments, position, scope, hint⟩
        ((Error.ofFault (.tooDeep context.maxDepth)).foundAt (position.operationPath operator))
  /-- No operator has the name. -/
  | unsupported
      {operator : String}
      {arguments : Rule}
      {position : Position}
      {scope : Scope}
      {hint : Option FieldType}
      (shallow : position.depth ≤ context.maxDepth)
      (unregistered : context.custom operator = none)
      (unknown : Operator.ofName? operator = none) :
      Raises context ⟨.operation operator arguments, position, scope, hint⟩
        (Call.error ⟨operator, arguments, position.operationPath operator⟩
          (.unsupportedOperator operator))
  /-- The handler of a custom operator fails on the SQL of the operands. -/
  | handler
      {operator : String}
      {arguments : Rule}
      {position : Position}
      {scope : Scope}
      {hint : Option FieldType}
      {handler : List String → Except Error (Except String String)}
      {parts : List Sql}
      {cause : String}
      (shallow : position.depth ≤ context.maxDepth)
      (registered : context.custom operator = some handler)
      (compiled : List.Forall₂ (fun operand part => operand.whole scope none = .ok part)
        (operandsAt context operator arguments position) parts)
      (replied : handler (Sql.renderAll context.dialect parts) = .ok (.error cause)) :
      Raises context ⟨.operation operator arguments, position, scope, hint⟩
        ((Call.error ⟨operator, arguments, position.operationPath operator⟩
          (.customFailed operator)).causedBy cause)
  /-- The plan of a built-in operator ends with an error of its own. -/
  | plan
      {operator : Operator}
      {arguments : Rule}
      {position : Position}
      {scope : Scope}
      {hint : Option FieldType}
      {error : Error}
      (shallow : position.depth ≤ context.maxDepth)
      (unregistered : context.custom operator.name = none)
      (raises :
        (operator.plan context.dialect ⟨context.schema, scope⟩
          ⟨operator.name, arguments, position.operationPath operator.name⟩).Raises
          (OperandCompiler.answer (operandsAt context operator.name arguments position)) error) :
      Raises context ⟨.operation operator.name arguments, position, scope, hint⟩
        (error.completedBy operator.name (position.operationPath operator.name))

/--
A job that raises an error compiles an operation.  It is either too deep, or the error
names its operator and a place that the operation speaks of.
-/
theorem Raises.owned (raises : job.Raises context error) :
    ∃ operator arguments path, job.rule = .operation operator arguments ∧
      error.path = some path ∧
      ((error.code = .maxDepthExceeded ∧ context.maxDepth < job.position.depth) ∨
        (error.code ≠ .maxDepthExceeded ∧ error.operator = some operator ∧
          Call.Covers ⟨operator, arguments, job.position.operationPath operator⟩ path)) := by
  cases raises with
  | @tooDeep operator arguments position _ _ deep =>
      exact ⟨operator, arguments, _, rfl, rfl, .inl ⟨rfl, deep⟩⟩
  | @unsupported operator arguments position =>
      exact ⟨operator, arguments, _, rfl, rfl, .inr ⟨nofun, rfl, .own⟩⟩
  | @handler operator arguments position =>
      exact ⟨operator, arguments, _, rfl, rfl, .inr ⟨nofun, rfl, .own⟩⟩
  | @plan operator arguments position _ _ error _ _ raises =>
      obtain ⟨named, ⟨path, located, covers⟩, _, fault⟩ :=
        (operator.blames_plan context.dialect).of_raises raises
      refine ⟨operator.name, arguments, path, rfl, ?_, .inr ⟨?_, ?_, covers⟩⟩
      · simp [Error.completedBy, located]
      · rw [Error.code_completedBy]
        exact fault.1
      · rcases named with unnamed | named
        · simp [Error.completedBy, unnamed]
        · simp [Error.completedBy, named]

/-- Only the handler of a custom operator fails as a custom operator does. -/
theorem Raises.handler_of_code
    (raises : job.Raises context error)
    (code : error.code = .customOperatorFailed) :
    ∃ operator arguments handler parts cause, job.rule = .operation operator arguments ∧
      context.custom operator = some handler ∧
      List.Forall₂ (fun operand part => operand.whole job.scope none = .ok part)
        (operandsAt context operator arguments job.position) parts ∧
      handler (Sql.renderAll context.dialect parts) = .ok (.error cause) ∧
      error.cause = some cause := by
  cases raises with
  | tooDeep => cases code
  | unsupported => cases code
  | handler _ registered compiled replied =>
      exact ⟨_, _, _, _, _, rfl, registered, compiled, replied, rfl⟩
  | @plan operator _ _ _ _ error _ _ raises =>
      have own := ((operator.blames_plan context.dialect).of_raises raises).fault
      rw [Error.code_completedBy] at code
      exact absurd code own.2

/-- What a job raises is its outcome. -/
theorem Raises.outcome_eq_error (raises : job.Raises context error) :
    job.outcome context = .error error := by
  cases raises with
  | tooDeep deep => rw [outcome, compileAt_operation, Context.operation_eq, if_pos deep]
  | @unsupported operator arguments position scope _ shallow unregistered unknown =>
      have applied : context.apply ⟨operator, arguments, position.operationPath operator⟩ scope
          (operandsAt context operator arguments position) =
            .error (Call.error ⟨operator, arguments, position.operationPath operator⟩
              (.unsupportedOperator operator)) := by
        simp only [Context.apply_eq, unregistered, unknown]
      exact (outcome_eq_error_of_apply shallow applied).trans rfl
  | @handler operator arguments position scope _ _ parts cause shallow registered compiled
      replied =>
      have each : compileEach scope none
          ((operandsAt context operator arguments position).map (·.whole)) = .ok parts := by
        rw [compileEach_eq_ok_iff, List.forall₂_map_left_iff]
        exact compiled
      have applied : context.apply ⟨operator, arguments, position.operationPath operator⟩ scope
          (operandsAt context operator arguments position) =
            .error ((Call.error ⟨operator, arguments, position.operationPath operator⟩
              (.customFailed operator)).causedBy cause) := by
        simp only [Context.apply_eq, registered, Context.callCustom, each, bind, Except.bind, replied]
        rfl
      exact (outcome_eq_error_of_apply shallow applied).trans rfl
  | plan shallow unregistered raises =>
      apply outcome_eq_error_of_apply shallow
      simp only [Context.apply_eq, unregistered, Operator.ofName?_name, raises.run_eq_error]

/-! ## What is behind a failure -/

theorem begins_of_compileAt_list
    {items : List Rule}
    {position : Position}
    {scope : Scope}
    {hint : Option FieldType}
    (failed : compileAt context (.list items) position scope hint = .error error) :
    ∃ inner, Begins context ⟨.list items, position, scope, hint⟩ inner ∧
      inner.outcome context = .error error := by
  have each : compileEach scope hint
      (itemCompilers context items position.valuePath (position.depth + 1) 0) =
        .error error := by
    simp only [compileAt] at failed
    cases outcome : compileEach scope hint
        (itemCompilers context items position.valuePath (position.depth + 1) 0) with
    | error refused => simpa [outcome, bind, Except.bind] using failed
    | ok expressions => simp [outcome, bind, Except.bind, pure, Except.pure] at failed
  rw [compileEach_items_eq_error_iff] at each
  obtain ⟨index, item, found, refused, earlier⟩ := each
  exact ⟨_, .item found earlier, refused⟩

theorem raises_or_begins_of_apply
    {operator : String}
    {arguments : Rule}
    {position : Position}
    {scope : Scope}
    {hint : Option FieldType}
    (replies : context.Replies)
    (shallow : position.depth ≤ context.maxDepth)
    (failed : context.apply ⟨operator, arguments, position.operationPath operator⟩ scope
      (operandsAt context operator arguments position) = .error error) :
    Raises context ⟨.operation operator arguments, position, scope, hint⟩
        (error.completedBy operator (position.operationPath operator)) ∨
      ∃ inner, Begins context ⟨.operation operator arguments, position, scope, hint⟩ inner ∧
        inner.outcome context = .error error := by
  rw [Context.apply_eq] at failed
  split at failed
  · rename_i handler registered
    simp only [Context.callCustom] at failed
    cases each : compileEach scope none
        ((operandsAt context operator arguments position).map (·.whole)) with
    | error refused =>
        obtain rfl : refused = error := by simpa [each, bind, Except.bind] using failed
        rw [compileEach_operands_eq_error_iff] at each
        obtain ⟨index, operand, found, refused, earlier⟩ := each
        exact .inr ⟨_, .argument shallow (by simp [registered]) found earlier, refused⟩
    | ok parts =>
        have compiled := (compileEach_eq_ok_iff _ _ _ _).mp each
        rw [List.forall₂_map_left_iff] at compiled
        obtain ⟨reply, replied⟩ :=
          replies operator handler registered (Sql.renderAll context.dialect parts)
        cases reply with
        | ok text =>
            simp [each, replied, bind, Except.bind, pure, Except.pure] at failed
        | error cause =>
            obtain rfl : (Call.error ⟨operator, arguments, position.operationPath operator⟩
                (.customFailed operator)).causedBy cause = error := by
              simpa [each, replied, bind, Except.bind, throw, throwThe, MonadExceptOf.throw]
                using failed
            exact .inl (.handler shallow registered compiled replied)
  · rename_i unregistered
    split at failed
    · rename_i builtin named
      obtain rfl := (Operator.ofName?_eq_some_iff operator builtin).mp named
      rcases Plan.raises_or_asks failed with raises | ⟨request, asks, refused⟩
      · exact .inl (.plan shallow unregistered raises)
      · rw [answer_operandsAt] at refused
        cases picked : request.selection.pick? builtin.name arguments position with
        | none =>
            rw [picked] at refused
            cases refused
        | some target =>
            rw [picked] at refused
            exact .inr ⟨_, .request shallow unregistered asks picked, refused⟩
    · rename_i unknown
      obtain rfl := Except.error.inj failed
      exact .inl (.unsupported shallow unregistered unknown)

/-- A job fails by itself, or it reports the failure of one that it has begun. -/
theorem raises_or_begins
    (replies : context.Replies)
    (failed : job.outcome context = .error error) :
    job.Raises context error ∨
      ∃ inner reason, job.Begins context inner ∧ inner.outcome context = .error reason ∧
        error = job.report reason := by
  obtain ⟨rule, position, scope, hint⟩ := job
  cases rule with
  | list items =>
      obtain ⟨inner, begins, refused⟩ := begins_of_compileAt_list failed
      exact .inr ⟨inner, error, begins, refused, rfl⟩
  | operation operator arguments =>
      rw [outcome, compileAt_operation, Context.operation_eq] at failed
      split at failed
      · rename_i deep
        obtain rfl := Except.error.inj failed
        exact .inl (.tooDeep deep)
      · rename_i shallow
        cases applied : context.apply ⟨operator, arguments, position.operationPath operator⟩ scope
            (operandsAt context operator arguments position) with
        | ok expression => simp [applied, Except.mapError] at failed
        | error reason =>
            rw [applied] at failed
            obtain rfl := Except.error.inj failed
            rcases raises_or_begins_of_apply replies (Nat.not_lt.mp shallow) applied with
              raises | ⟨inner, begins, refused⟩
            · exact .inl raises
            · exact .inr ⟨inner, reason, begins, refused, rfl⟩
  | null | bool | number | string => cases failed

/-- The failure of a job that is begun is the failure of the one that begins it. -/
theorem Begins.outcome_eq_error
    (begins : job.Begins context inner)
    (failed : inner.outcome context = .error reason) :
    job.outcome context = .error (job.report reason) := by
  cases begins with
  | @item items item index position scope hint found earlier =>
      have each : compileEach scope hint
          (itemCompilers context items position.valuePath (position.depth + 1) 0) =
            .error reason :=
        (compileEach_items_eq_error_iff _ _ _ _ _ _).mpr ⟨index, item, found, failed, earlier⟩
      simp only [outcome, compileAt, each]
      rfl
  | @argument operator arguments operand index position scope hint shallow registered found
      earlier =>
      obtain ⟨handler, registered⟩ := Option.isSome_iff_exists.mp registered
      have each : compileEach scope none
          ((operandsAt context operator arguments position).map (·.whole)) = .error reason :=
        (compileEach_operands_eq_error_iff _ _ _ _ _ _).mpr
          ⟨index, operand, found, failed, earlier⟩
      apply outcome_eq_error_of_apply shallow
      simp only [Context.apply_eq, registered, Context.callCustom, each]
      rfl
  | @request operator arguments rule position place scope hint request shallow unregistered asks
      picked =>
      have refused : OperandCompiler.answer (operandsAt context operator.name arguments position)
          request = .error reason := by
        rw [answer_operandsAt, picked]
        exact failed
      apply outcome_eq_error_of_apply shallow
      simp only [Context.apply_eq, unregistered, Operator.ofName?_name]
      exact asks.run_eq_error refused

/-- Behind every failure stands a job that has raised the error itself. -/
theorem exists_origin
    {job : Job}
    {error : Error}
    (replies : context.Replies)
    (failed : job.outcome context = .error error) :
    ∃ origin reason, job.Runs context origin ∧ origin.Raises context reason ∧
      error.Retells reason := by
  rcases raises_or_begins replies failed with raises | ⟨inner, middle, begins, refused, rfl⟩
  · exact ⟨job, error, .refl, raises, .refl error⟩
  · have smaller := begins.starts.sizeOf_lt
    obtain ⟨origin, reason, runs, raises, retells⟩ := exists_origin replies refused
    obtain ⟨_, _, path, _, located, _⟩ := raises.owned
    have outer := retells_report job (retells.path.trans located)
    exact ⟨origin, reason, .head begins runs, raises, outer.trans retells⟩
termination_by sizeOf job.rule

end Job
end RuleClause
