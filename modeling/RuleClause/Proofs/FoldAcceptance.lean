import RuleClause.Proofs.Compile.Reach
import RuleClause.Proofs.DialectVerdict
import RuleClause.Proofs.Plan.Steadiness

/-!
# Folds and aggregates accept the same rules, almost

Where a reduction is a fold, its reducer is compiled as it is written.  Where it is an
aggregate, the reducer is recognised by its shape, and the term that reads the running value
is not compiled at all: its name is looked at, and neither what follows the name nor how
deep it stands.  So a rule that gives a condition with aggregates gives one with folds,
unless such a term could not be compiled.  Dialects with folds count items from one, so that
with checked sums the last number of an item speaks against a condition there as well.
-/

namespace RuleClause

/-! ## What a reduction asks for -/

namespace Arrays

variable {answer : Request → Except Error Sql} {setting : Setting} {call : Call}

/-- What a reduction asks of its reducer: all of it, or the value that is recognised in it. -/
def reducerRequest? (dialect : Dialect) (reducer : Rule) : Option Request :=
  match dialect.forms.iteration with
  | .lambda _ => some ⟨.operand 1, .reduction, none⟩
  | .subquery _ =>
      (aggregateOf? reducer).map fun outcome => ⟨.part 1 outcome.2, .reduction, some .number⟩

theorem reducerRequest?_of_folds
    {dialect : Dialect}
    (folds : ¬ dialect.Aggregates)
    (reducer : Rule) :
    reducerRequest? dialect reducer = some ⟨.operand 1, .reduction, none⟩ := by
  cases form : dialect.forms.iteration with
  | lambda functions => simp [reducerRequest?, form]
  | subquery naming => exact absurd ⟨naming, form⟩ folds

theorem reducerRequest?_of_aggregates
    {dialect : Dialect}
    (aggregates : dialect.Aggregates)
    {reducer : Rule}
    {aggregate : Dialect.Aggregate}
    {index : Nat}
    (recognised : aggregateOf? reducer = some (aggregate, index)) :
    reducerRequest? dialect reducer = some ⟨.part 1 index, .reduction, some .number⟩ := by
  obtain ⟨naming, form⟩ := aggregates
  simp [reducerRequest?, form, recognised]

section

variable {dialect : Dialect} {operand reducer initial : Rule} {array inner first : Sql}

/-- Where arrays are folded, a reduction folds the whole reducer. -/
theorem run_reduce_of_lambda
    {functions : Dialect.LambdaForm}
    (form : dialect.forms.iteration = .lambda functions)
    (arguments : call.arguments = .list [operand, reducer, initial])
    (admitted : setting.Admits .array operand)
    (askedArray : answer (setting.operandRequest none 0) = .ok array)
    (askedFirst : answer (setting.operandRequest none 2) = .ok first)
    (asked : answer ⟨.operand 1, .reduction, none⟩ = .ok inner) :
    (reduce dialect setting call).run answer = .ok (.folded functions array inner first) := by
  simp only [reduce, source, body, Plan.run_bind_eq_ok_iff, Call.run_listedTriple_eq_ok_iff,
    Setting.run_gate_eq_ok_iff, Setting.run_ask]
  refine ⟨(operand, reducer, initial), arguments, array, ⟨(), admitted, askedArray⟩, first,
    askedFirst, ?_⟩
  simp only [form, Plan.run_bind_eq_ok_iff, Plan.run_request]
  exact ⟨inner, asked, rfl⟩

/-- Where arrays are queried, a reduction aggregates the value that is recognised. -/
theorem run_reduce_of_subquery
    {naming : Dialect.NamingForm}
    {aggregate : Dialect.Aggregate}
    {index : Nat}
    (form : dialect.forms.iteration = .subquery naming)
    (arguments : call.arguments = .list [operand, reducer, initial])
    (recognised : aggregateOf? reducer = some (aggregate, index))
    (admitted : setting.Admits .array operand)
    (askedArray : answer (setting.operandRequest none 0) = .ok array)
    (askedFirst : answer (setting.operandRequest none 2) = .ok first)
    (asked : answer ⟨.part 1 index, .reduction, some .number⟩ = .ok inner) :
    (reduce dialect setting call).run answer =
      .ok (.aggregated naming aggregate array inner first) := by
  simp only [reduce, source, Plan.run_bind_eq_ok_iff, Call.run_listedTriple_eq_ok_iff,
    Setting.run_gate_eq_ok_iff, Setting.run_ask]
  refine ⟨(operand, reducer, initial), arguments, array, ⟨(), admitted, askedArray⟩, first,
    askedFirst, ?_⟩
  simp only [form, recognised, Plan.run_bind_eq_ok_iff, Plan.run_request]
  exact ⟨inner, asked, rfl⟩

end

theorem exists_run_reduce_iff
    {dialect : Dialect}
    {operand reducer initial : Rule}
    (arguments : call.arguments = .list [operand, reducer, initial]) :
    (∃ expression, (reduce dialect setting call).run answer = .ok expression) ↔
      (setting.Admits .array operand ∧
        (∃ array, answer (setting.operandRequest none 0) = .ok array) ∧
        ∃ first, answer (setting.operandRequest none 2) = .ok first) ∧
      ∃ request ∈ reducerRequest? dialect reducer, ∃ inner, answer request = .ok inner := by
  constructor
  · rintro ⟨expression, ended⟩
    obtain ⟨_, _, _, array, first, listed, admitted, askedArray, askedFirst, outcome⟩ :=
      of_run_reduce ended
    obtain ⟨rfl, rfl, rfl⟩ : operand = _ ∧ reducer = _ ∧ initial = _ := by
      simpa [arguments] using listed
    refine ⟨⟨admitted, ⟨array, askedArray⟩, first, askedFirst⟩, ?_⟩
    rcases outcome with ⟨_, inner, form, asked, _⟩ | ⟨_, _, _, inner, form, recognised, asked, _⟩
    · exact ⟨_, by simp [reducerRequest?, form], inner, asked⟩
    · exact ⟨_, by simp [reducerRequest?, form, recognised], inner, asked⟩
  · rintro ⟨⟨admitted, ⟨array, askedArray⟩, first, askedFirst⟩, request, member, inner, asked⟩
    unfold reducerRequest? at member
    cases form : dialect.forms.iteration with
    | lambda functions =>
        obtain rfl : _ = request := by simpa [form] using member
        exact ⟨_, run_reduce_of_lambda form arguments admitted askedArray askedFirst asked⟩
    | subquery naming =>
        rw [form, Option.mem_def, Option.map_eq_some_iff] at member
        obtain ⟨⟨aggregate, index⟩, recognised, rfl⟩ := member
        exact ⟨_, run_reduce_of_subquery form arguments recognised admitted askedArray askedFirst
          asked⟩

end Arrays

namespace Reference

/-- The operands of a variable are a name, perhaps with a literal for its default. -/
def isComplete : List Rule → Bool
  | [_] => true
  | [_, default] => default.isLiteral
  | _ => false

variable {answer : Request → Except Error Sql} {setting : Setting} {call : Call}

/-- Inside a reduction, the running value can be read wherever a variable is complete. -/
theorem exists_run_var_accumulator_iff
    (inside : setting.scope = .reduction)
    {rest : List Rule}
    (operands : call.operands = .string "accumulator" :: rest) :
    (∃ expression, (var setting call).run answer = .ok expression) ↔
      isComplete call.operands = true := by
  have reads : reference setting call (.string "accumulator") =
      .done (.bound .accumulator none) := by
    simp [reference, textual, named, inside, bound?]
    rfl
  unfold var
  rw [operands]
  rcases rest with _ | ⟨default, _ | ⟨_, _⟩⟩
  · simp [reads, isComplete]
  · have unchecked : checkDefault setting call (.string "accumulator") default = .done () :=
      checkDefault_inside (by simp [inside]) _ _
    have literal := isSome_ofLiteral? (defaultType? setting (.string "accumulator")) default
    cases written : Sql.ofLiteral? (defaultType? setting (.string "accumulator")) default with
    | none =>
        rw [written] at literal
        have refused : (withDefault setting call (.string "accumulator") default).run answer =
            .error (call.errorAt (call.operandPath 1) (.defaultKind default.kind)) := by
          simp only [withDefault, reads, written]
          rfl
        simp [refused, isComplete, ← literal]
    | some fallback =>
        rw [written] at literal
        have ended : (withDefault setting call (.string "accumulator") default).run answer =
            .ok (.call .coalesce [.bound .accumulator none, fallback]) := by
          simp only [withDefault, reads, written, unchecked]
          rfl
        simp [ended, isComplete, ← literal]
  · simp [isComplete, Call.failCount, Call.fail, operands]

end Reference

namespace Arithmetic

variable {answer : Request → Except Error Sql} {setting : Setting} {call : Call}

/-- Inside of iterations, two terms are asked for as numbers and nothing is checked. -/
theorem exists_run_terms_iff
    (inside : setting.scope ≠ .row)
    {first second : Rule}
    (operands : call.operands = [first, second]) :
    (∃ expressions, (terms setting call).run answer = .ok expressions) ↔
      (∃ left, answer (setting.operandRequest (some .number) 0) = .ok left) ∧
        ∃ right, answer (setting.operandRequest (some .number) 1) = .ok right := by
  simp only [run_terms_eq_ok_iff]
  constructor
  · rintro ⟨expressions, _, length, answered⟩
    have two : expressions.length = 2 := by rw [length, operands]; rfl
    exact ⟨answered.of_lt (by omega), answered.of_lt (by omega)⟩
  · rintro ⟨⟨left, askedLeft⟩, right, askedRight⟩
    refine ⟨[left, right], fun operand _ => ?_, by rw [operands]; rfl, ?_⟩
    · simp [Setting.Admits, inside]
    · simp [askedLeft, askedRight]

end Arithmetic

/-! ## Reducers -/

namespace Arrays

/-- The running value is a variable whose operands start with its name. -/
theorem operands_of_isAccumulator
    {rule : Rule}
    (running : isAccumulator rule = true) :
    ∃ arguments rest, rule = .operation Operator.var.name arguments ∧
      arguments.operands = .string "accumulator" :: rest := by
  cases rule with
  | operation operator arguments =>
      simp only [isAccumulator, Rule.variableName?, beq_iff_eq] at running
      split at running
      · rename_i named
        subst named
        unfold Rule.leadingText? at running
        split at running
        · obtain rfl := Option.some.inj running
          exact ⟨_, [], rfl, rfl⟩
        · obtain rfl := Option.some.inj running
          exact ⟨_, _, rfl, rfl⟩
        · simp at running
      · simp at running
  | null | bool | number | string | list => simp [isAccumulator, Rule.variableName?] at running

theorem combines_of_aggregateOf?
    {combining : Operator}
    {terms : List Rule}
    {outcome : Dialect.Aggregate × Nat}
    (recognised : aggregateOf? (.operation combining.name (.list terms)) = some outcome) :
    combining = .add ∨ combining = .max ∨ combining = .min := by
  cases combining <;> simp [aggregateOf?, aggregate?, Operator.name] at recognised ⊢

end Arrays

/-- Inside of iterations, an operator that combines two terms needs nothing but the terms. -/
theorem Operator.exists_run_plan_iff_terms
    {answer : Request → Except Error Sql}
    {dialect : Dialect}
    {setting : Setting}
    {call : Call}
    {combining : Operator}
    {first second : Rule}
    (combines : combining = .add ∨ combining = .max ∨ combining = .min)
    (inside : setting.scope ≠ .row)
    (operands : call.operands = [first, second]) :
    (∃ expression, (combining.plan dialect setting call).run answer = .ok expression) ↔
      (∃ left, answer (setting.operandRequest (Option.some .number) 0) = .ok left) ∧
        ∃ right, answer (setting.operandRequest (Option.some .number) 1) = .ok right := by
  rw [← Arithmetic.exists_run_terms_iff inside operands]
  rcases combines with rfl | rfl | rfl
  · have chained : Arithmetic.add setting call = Arithmetic.chain setting call .add := by
      simp [Arithmetic.add, Call.atLeast, operands]
      rfl
    simp [plan, chained, Arithmetic.run_chain_eq_ok_iff, operands]
  · simp [plan, Arithmetic.run_extremum_eq_ok_iff, operands]
  · simp [plan, Arithmetic.run_extremum_eq_ok_iff, operands]

section

variable {context : Context (Except Error)}
  (builtin : ∀ operator : Operator, context.custom operator.name = none)
include builtin

/-- The running value compiles where it is not too deep and complete. -/
theorem exists_compileAt_accumulator_iff
    {arguments : Rule}
    {rest : List Rule}
    (operands : arguments.operands = .string "accumulator" :: rest)
    (place : Position)
    (hint : Option FieldType) :
    (∃ expression,
      compileAt context (.operation Operator.var.name arguments) place .reduction hint =
        .ok expression) ↔
      place.depth ≤ context.maxDepth ∧ Reference.isComplete arguments.operands = true := by
  simp only [compileAt_operator_eq_ok_iff (builtin .var), exists_and_left]
  refine and_congr_right fun _ => ?_
  exact Reference.exists_run_var_accumulator_iff rfl operands

/-- A reducer of two terms compiles where both terms do. -/
theorem exists_compileAt_combining_iff
    {combining : Operator}
    (combines : combining = .add ∨ combining = .max ∨ combining = .min)
    (first second : Rule)
    (place : Position)
    (hint : Option FieldType) :
    (∃ expression,
      compileAt context (.operation combining.name (.list [first, second])) place .reduction hint =
        .ok expression) ↔
      place.depth ≤ context.maxDepth ∧
        (∃ left, compileAt context first (place.argument combining.name (some 0)) .reduction
          (some .number) = .ok left) ∧
        ∃ right, compileAt context second (place.argument combining.name (some 1)) .reduction
          (some .number) = .ok right := by
  simp only [compileAt_operator_eq_ok_iff (builtin combining), exists_and_left]
  refine and_congr_right fun _ => ?_
  rw [Operator.exists_run_plan_iff_terms combines (by simp) rfl, Setting.operandRequest,
    Setting.operandRequest, answer_operand rfl, answer_operand rfl]
  rfl

/-- A recognised reducer compiles where its value and its running value do. -/
theorem exists_compileAt_reducer_iff
    {reducer : Rule}
    {aggregate : Dialect.Aggregate}
    {index : Nat}
    (recognised : Arrays.aggregateOf? reducer = some (aggregate, index))
    (place : Position)
    (hint : Option FieldType) :
    ∃ value arguments, reducer.parts[index]? = some value ∧
      reducer.parts[1 - index]? = some (.operation Operator.var.name arguments) ∧
      ((∃ expression, compileAt context reducer place .reduction hint = .ok expression) ↔
        (∃ inner, compileAt context value (place.part reducer index) .reduction (some .number) =
          .ok inner) ∧
        place.depth + 1 ≤ context.maxDepth ∧
          Reference.isComplete arguments.operands = true) := by
  obtain ⟨combining, first, second, rfl, placed⟩ := Accepted.of_aggregateOf? recognised
  have combines := Arrays.combines_of_aggregateOf? recognised
  have whole := exists_compileAt_combining_iff builtin combines first second place hint
  rcases placed with ⟨rfl, running⟩ | ⟨rfl, running⟩
  · obtain ⟨arguments, rest, rfl, operands⟩ := Arrays.operands_of_isAccumulator running
    refine ⟨second, arguments, rfl, rfl, ?_⟩
    rw [whole, exists_compileAt_accumulator_iff builtin operands]
    constructor
    · rintro ⟨_, complete, value⟩
      exact ⟨value, complete⟩
    · rintro ⟨value, fits, complete⟩
      exact ⟨by omega, ⟨fits, complete⟩, value⟩
  · obtain ⟨arguments, rest, rfl, operands⟩ := Arrays.operands_of_isAccumulator running
    refine ⟨first, arguments, rfl, rfl, ?_⟩
    rw [whole, exists_compileAt_accumulator_iff builtin operands]
    constructor
    · rintro ⟨_, value, complete⟩
      exact ⟨value, complete⟩
    · rintro ⟨value, fits, complete⟩
      exact ⟨by omega, value, fits, complete⟩

end

/-! ## Jobs with aggregates and with folds -/

/-- Rules are compiled one after the other if each of them is. -/
theorem exists_compileEach
    {scope : Scope}
    {hint : Option FieldType}
    {compilers : List (Compiler (Except Error))}
    (each : ∀ compiler ∈ compilers, ∃ expression, compiler scope hint = .ok expression) :
    ∃ expressions, compileEach scope hint compilers = .ok expressions := by
  simp only [compileEach_eq_ok_iff]
  induction compilers with
  | nil => exact ⟨[], .nil⟩
  | cons compiler rest inductionHypothesis =>
      obtain ⟨first, others⟩ := List.forall_mem_cons.mp each
      obtain ⟨expression, compiled⟩ := first
      obtain ⟨expressions, remaining⟩ := inductionHypothesis others
      exact ⟨expression :: expressions, .cons compiled remaining⟩

/-- Two ways to compile that differ in how they write reductions. -/
structure Context.Contrasts (aggregating folding : Context (Except Error)) : Prop where
  aggregates : aggregating.dialect.Aggregates
  folds : ¬ folding.dialect.Aggregates
  schema : folding.schema = aggregating.schema
  maxDepth : folding.maxDepth = aggregating.maxDepth
  builtin : ∀ operator : Operator, folding.custom operator.name = none

namespace Job

/--
A job is a reduction with a recognised reducer.  What follows the name of the running value
in it, among the given arguments, plays no part in an aggregate.
-/
def LeavesOut (job : Job) (arguments : Rule) : Prop :=
  ∃ operand reducer initial aggregate index,
    job.rule = .operation Operator.reduce.name (.list [operand, reducer, initial]) ∧
    Arrays.aggregateOf? reducer = some (aggregate, index) ∧
    reducer.parts[1 - index]? = some (.operation Operator.var.name arguments)

/-- A reduction leaves out the term of its reducer that is not the value. -/
theorem leavesOut_reduce_iff
    {operand reducer initial arguments : Rule}
    {aggregate : Dialect.Aggregate}
    {index : Nat}
    {position : Position}
    {scope : Scope}
    {hint : Option FieldType}
    (recognised : Arrays.aggregateOf? reducer = some (aggregate, index)) :
    LeavesOut ⟨.operation Operator.reduce.name (.list [operand, reducer, initial]), position, scope,
        hint⟩ arguments ↔
      reducer.parts[1 - index]? = some (.operation Operator.var.name arguments) := by
  constructor
  · rintro ⟨_, _, _, _, _, same, other, found⟩
    obtain ⟨rfl, rfl, rfl⟩ : operand = _ ∧ reducer = _ ∧ initial = _ := by simpa using same
    obtain ⟨rfl, rfl⟩ := Prod.mk.inj (Option.some.inj (recognised.symm.trans other))
    exact found
  · intro found
    exact ⟨operand, reducer, initial, aggregate, index, rfl, recognised, found⟩

variable {aggregating folding : Context (Except Error)} {job : Job}

/-- What an operation starts comes to its end elsewhere if its plan does with the answers there. -/
theorem forall_starts_iff_exists_run
    {operator : Operator}
    {arguments : Rule}
    {position : Position}
    {scope : Scope}
    {hint : Option FieldType}
    {expression : Sql}
    (unregistered : aggregating.custom operator.name = none)
    (ended : (operator.plan aggregating.dialect ⟨aggregating.schema, scope⟩
      ⟨operator.name, arguments, position.operationPath operator.name⟩).run
      (OperandCompiler.answer (operandsAt aggregating operator.name arguments position)) =
        .ok expression) :
    (∀ inner, Starts aggregating ⟨.operation operator.name arguments, position, scope, hint⟩ inner →
      ∃ other, inner.outcome folding = .ok other) ↔
    ∃ other, (operator.plan aggregating.dialect ⟨aggregating.schema, scope⟩
      ⟨operator.name, arguments, position.operationPath operator.name⟩).run
      (OperandCompiler.answer (operandsAt folding operator.name arguments position)) =
        .ok other := by
  rw [(operator.steady_plan aggregating.dialect).exists_run_iff ended]
  constructor
  · intro each request asks
    rw [answer_operandsAt]
    cases picked : request.selection.pick? operator.name arguments position with
    | none => exact ⟨.null, rfl⟩
    | some target => exact each _ (.request unregistered asks picked)
  · intro each inner starts
    generalize same : Job.mk (.operation operator.name arguments) position scope hint = job at starts
    cases starts with
    | item => simp at same
    | argument registered =>
        simp only [mk.injEq, Rule.operation.injEq] at same
        obtain ⟨⟨rfl, rfl⟩, rfl, rfl, rfl⟩ := same
        simp [unregistered] at registered
    | @request _ _ _ _ _ _ _ request _ asks picked =>
        simp only [mk.injEq, Rule.operation.injEq] at same
        obtain ⟨⟨named, rfl⟩, rfl, rfl, rfl⟩ := same
        obtain rfl := Operator.name_injective named
        have answered := each request asks
        rw [answer_operandsAt, picked] at answered
        exact answered

/-- A list compiles where each of its items does. -/
theorem forall_starts_list_iff
    (items : List Rule)
    (position : Position)
    (scope : Scope)
    (hint : Option FieldType) :
    (∀ inner, Starts aggregating ⟨.list items, position, scope, hint⟩ inner →
      ∃ other, inner.outcome folding = .ok other) ↔
    ∃ other, outcome folding ⟨.list items, position, scope, hint⟩ = .ok other := by
  constructor
  · intro each
    have compiled : ∃ expressions, compileEach scope hint
        (itemCompilers folding items position.valuePath (position.depth + 1) 0) =
          .ok expressions := by
      refine exists_compileEach fun compiler member => ?_
      obtain ⟨index, found⟩ := List.mem_iff_getElem?.mp member
      rw [itemCompilers_getElem?, Option.map_eq_some_iff] at found
      obtain ⟨item, found, rfl⟩ := found
      rw [Nat.zero_add]
      exact each _ (.item found)
    obtain ⟨expressions, compiled⟩ := compiled
    refine ⟨.array expressions, ?_⟩
    simp only [outcome, compileAt, compiled]
    rfl
  · rintro ⟨other, ended⟩ inner starts
    cases starts with
    | item found => exact (Starts.item found).exists_outcome ended

/-- A reduction with a recognised reducer folds if what follows the running value allows it. -/
theorem exists_outcome_reduce_iff
    (contrasts : aggregating.Contrasts folding)
    {operand reducer initial : Rule}
    {aggregate : Dialect.Aggregate}
    {index : Nat}
    {position : Position}
    {scope : Scope}
    {hint : Option FieldType}
    (recognised : Arrays.aggregateOf? reducer = some (aggregate, index))
    (fits : position.depth ≤ folding.maxDepth) :
    (∃ other, outcome folding
      ⟨.operation Operator.reduce.name (.list [operand, reducer, initial]), position, scope, hint⟩ =
        .ok other) ↔
    (∃ other, (Operator.reduce.plan aggregating.dialect ⟨aggregating.schema, scope⟩
      ⟨Operator.reduce.name, .list [operand, reducer, initial],
        position.operationPath Operator.reduce.name⟩).run
      (OperandCompiler.answer (operandsAt folding Operator.reduce.name
        (.list [operand, reducer, initial]) position)) = .ok other) ∧
    ∀ arguments, reducer.parts[1 - index]? = some (.operation Operator.var.name arguments) →
      position.depth + 2 ≤ folding.maxDepth ∧
        Reference.isComplete arguments.operands = true := by
  -- Both plans differ only in what they ask of the reducer.
  have asks (dialect : Dialect) := @Arrays.exists_run_reduce_iff
    (OperandCompiler.answer (operandsAt folding Operator.reduce.name
      (.list [operand, reducer, initial]) position)) ⟨aggregating.schema, scope⟩
    ⟨Operator.reduce.name, .list [operand, reducer, initial],
      position.operationPath Operator.reduce.name⟩ dialect operand reducer initial rfl
  simp only [outcome, compileAt_operator_eq_ok_iff (contrasts.builtin .reduce), fits, true_and,
    Operator.plan, contrasts.schema, asks, Arrays.reducerRequest?_of_folds contrasts.folds,
    Arrays.reducerRequest?_of_aggregates contrasts.aggregates recognised, and_assoc]
  refine and_congr_right fun _ => and_congr_right fun _ => and_congr_right fun _ => ?_
  simp only [Option.mem_def, Option.some.injEq, exists_eq_left']
  obtain ⟨value, running, found, foundRunning, whole⟩ := exists_compileAt_reducer_iff
    contrasts.builtin recognised (position.argument Operator.reduce.name (some 1)) none
  have second : (Rule.list [operand, reducer, initial]).operands[1]? = some reducer := rfl
  simp only [answer_operandsAt, Selection.pick?, second, found, Option.bind_some, Option.map_some,
    foundRunning, Option.some.injEq, Rule.operation.injEq, true_and, forall_eq']
  exact whole

/--
Where a job comes to its end with aggregates, it does with folds if the jobs that it starts
do, and if nothing speaks against a running value that it leaves out.
-/
theorem exists_outcome_iff_starts
    (contrasts : aggregating.Contrasts folding)
    (unregistered : ∀ name, job.rule.Names name → aggregating.custom name = none)
    {expression : Sql}
    (ended : job.outcome aggregating = .ok expression) :
    (∃ other, job.outcome folding = .ok other) ↔
      (∀ inner, job.Starts aggregating inner → ∃ other, inner.outcome folding = .ok other) ∧
        ∀ arguments, job.LeavesOut arguments →
          job.position.depth + 2 ≤ folding.maxDepth ∧
            Reference.isComplete arguments.operands = true := by
  obtain ⟨rule, position, scope, hint⟩ := job
  -- Only reductions leave anything out.
  have nothing (other : ∀ arguments, rule ≠ .operation Operator.reduce.name arguments) :
      ∀ arguments, LeavesOut ⟨rule, position, scope, hint⟩ arguments →
        position.depth + 2 ≤ folding.maxDepth ∧
          Reference.isComplete arguments.operands = true := by
    rintro arguments ⟨_, _, _, _, _, reduces, _⟩
    exact absurd reduces (other _)
  cases rule with
  | null | bool | number | string =>
      refine ⟨fun _ => ⟨fun inner starts => ?_, nothing (by simp)⟩, fun _ => ⟨_, rfl⟩⟩
      cases starts
  | list items =>
      rw [forall_starts_list_iff]
      exact (and_iff_left (nothing (by simp))).symm
  | operation operator arguments =>
      have free := unregistered operator ⟨arguments, .refl _⟩
      rcases of_compileAt_operation ended with ⟨_, _, registered, _⟩ | ⟨operator, _, rfl, run⟩
      · simp [free] at registered
      · have fits : position.depth ≤ folding.maxDepth := by
          rw [contrasts.maxDepth]
          exact ((compileAt_operator_eq_ok_iff free _ _ _ _ _).mp ended).1
        rw [forall_starts_iff_exists_run free run]
        by_cases reduces : operator = .reduce
        · subst reduces
          obtain ⟨operand, reducer, initial, _, _, rfl, _, _, _, outcome⟩ :=
            Arrays.of_run_reduce run
          rcases outcome with ⟨_, _, lambda, _⟩ | ⟨_, aggregate, index, _, _, recognised, _⟩
          · obtain ⟨_, subquery⟩ := contrasts.aggregates
            rw [lambda] at subquery
            cases subquery
          · simp only [leavesOut_reduce_iff recognised]
            exact exists_outcome_reduce_iff contrasts recognised fits
        · have plan := Operator.plan_eq_of_ne_reduce reduces ⟨aggregating.schema, scope⟩
            ⟨operator.name, arguments, position.operationPath operator.name⟩
            folding.dialect aggregating.dialect
          simp only [outcome, compileAt_operator_eq_ok_iff (contrasts.builtin operator), fits,
            true_and, contrasts.schema, plan]
          refine (and_iff_left (nothing fun _ same => ?_)).symm
          exact reduces (Operator.name_injective (Rule.operation.inj same).1)

/--
Where a job comes to its end with aggregates, it does with folds exactly if nothing speaks
against the running values that are left out on the way.
-/
theorem exists_outcome_iff_reaches
    (contrasts : aggregating.Contrasts folding)
    (job : Job)
    (unregistered : ∀ name, job.rule.Names name → aggregating.custom name = none)
    {expression : Sql}
    (ended : job.outcome aggregating = .ok expression) :
    (∃ other, job.outcome folding = .ok other) ↔
      ∀ inner arguments, job.Reaches aggregating inner → inner.LeavesOut arguments →
        inner.position.depth + 2 ≤ folding.maxDepth ∧
          Reference.isComplete arguments.operands = true := by
  have started (inner : Job) (starts : job.Starts aggregating inner) :
      (∃ other, inner.outcome folding = .ok other) ↔
        ∀ last arguments, inner.Reaches aggregating last → last.LeavesOut arguments →
          last.position.depth + 2 ≤ folding.maxDepth ∧
            Reference.isComplete arguments.operands = true := by
    obtain ⟨part, reached⟩ := starts.exists_outcome ended
    refine exists_outcome_iff_reaches contrasts inner (fun name names => ?_) reached
    obtain ⟨arguments, nested⟩ := names
    exact unregistered name ⟨arguments, starts.contains.trans nested⟩
  rw [exists_outcome_iff_starts contrasts unregistered ended]
  constructor
  · rintro ⟨each, own⟩ last arguments reaches leaves
    rcases reaches.cases_head with rfl | ⟨inner, starts, reaches⟩
    · exact own arguments leaves
    · exact (started inner starts).mp (each inner starts) last arguments reaches leaves
  · intro every
    refine ⟨fun inner starts => ?_, fun arguments leaves => every job arguments .refl leaves⟩
    exact (started inner starts).mpr fun last arguments reaches =>
      every last arguments (.head starts reaches)
termination_by sizeOf job.rule
decreasing_by exact starts.sizeOf_lt

end Job

/-! ## Conditions with aggregates and with folds -/

theorem Target.contrasts_withDialect
    {target : Target}
    {folding : Dialect}
    (aggregates : target.dialect.Aggregates)
    (folds : ¬ folding.Aggregates) :
    target.context.Contrasts (target.withDialect folding).context where
  aggregates := aggregates
  folds := folds
  schema := rfl
  maxDepth := rfl
  builtin := custom_context_operator_name _

/--
In every reduction that is compiled on the way through a rule, the running value that the
aggregate leaves out is not too deep and has nothing behind its name but a literal.
-/
def Target.RunningValuesComplete (target : Target) (rule : Rule) : Prop :=
  ∀ job arguments, (Job.whole rule).Reaches target.context job → job.LeavesOut arguments →
    job.position.depth + 2 ≤ target.maxDepth ∧ Reference.isComplete arguments.operands = true

/--
A rule of built-in operators that gives a condition in a dialect with aggregates gives one in
a dialect with folds exactly if its running values are complete.  With checked sums it does
exactly if, moreover, the compilation with folds takes no sum that does not fit a word.  (What
is a condition with checked sums is one without, so that the premise covers both.)
-/
theorem condition_folds_iff_running_values_complete
    (target : Target)
    (folding : Dialect)
    (source : Source)
    (rule : Rule)
    (text : String)
    (aggregates : target.dialect.Aggregates)
    (folds : ¬ folding.Aggregates)
    (read : target.context.readRule source = .ok rule)
    (unregistered : ∀ name, rule.Names name → target.registry.has name = false)
    (compiled : target.condition source = .ok text) :
    ((∃ other, (target.withDialect folding).condition source = .ok other) ↔
      target.RunningValuesComplete rule) ∧
    ((∃ other, (target.withDialect folding).checkedCondition source = some (.ok other)) ↔
      target.RunningValuesComplete rule ∧ ¬ (target.withDialect folding).Overflows source) := by
  -- What a source is read as does not depend on the dialect.
  have sameRule (dialect : Dialect) : (target.withDialect dialect).condition source =
      (target.withDialect dialect).condition (.rule rule) := by
    rw [Target.condition_eq, target.readRule_withDialect, read, Target.condition_eq]
    rfl
  have plain : (∃ other, (target.withDialect folding).condition source = .ok other) ↔
      target.RunningValuesComplete rule := by
    obtain ⟨operator, arguments, expression, rfl, ended, _⟩ :=
      Target.exists_compileAt_of_condition ((sameRule target.dialect).symm.trans compiled)
    refine Iff.trans ?_ (Job.exists_outcome_iff_reaches
      (Target.contrasts_withDialect aggregates folds) (Job.whole (.operation operator arguments))
      (fun name names => Target.custom_context_eq_none (unregistered name names)) ended)
    rw [sameRule folding]
    simp only [Target.condition_rule_eq_ok_iff]
    constructor
    · rintro ⟨_, other, outcome, _⟩
      exact ⟨other, outcome⟩
    · rintro ⟨other, outcome⟩
      exact ⟨_, other, outcome, rfl⟩
  refine ⟨plain, ?_⟩
  rw [← plain]
  by_cases overflows : (target.withDialect folding).Overflows source
  · simp [Target.checkedCondition_eq_none_iff.mpr overflows, overflows]
  · simp [Target.checkedCondition_eq_some overflows, overflows]

/-- A sum whose running value has the given operands. -/
def sumFrom (operands : List Rule) : Rule :=
  .operation "reduce" (.list
    [.operation "var" (.string "items"),
     .operation "+" (.list [.operation "var" (.list operands), .operation "var" (.string "current")]),
     .number (.integer 0)])

/-- The sum of the items with the last number. -/
def lastSum : Rule :=
  .operation "reduce" (.list
    [.operation "var" (.string "items"),
     .operation "+" (.list
       [.operation "var" (.string "accumulator"),
        .operation "var" (.number (.integer lastNumber))]),
     .number (.integer 0)])

/--
An aggregate does not look at what follows the name of the running value; a fold does.  A fold
that checks its sums stops at the item with the last number, where one that does not check them
goes on.
-/
theorem condition_folds_not_for_overfull_sum :
    (Target.ofDialect .bigQuery).condition (.rule (sumFrom
      [.string "accumulator", .number (.integer 1), .number (.integer 2)])) =
        .ok "(SELECT 0 + COALESCE(SUM(elem), 0) FROM UNNEST(items) AS elem)" ∧
    (∀ folding, ¬ folding.Aggregates → ∀ other,
      ((Target.ofDialect .bigQuery).withDialect folding).condition (.rule (sumFrom
        [.string "accumulator", .number (.integer 1), .number (.integer 2)])) ≠ .ok other) ∧
    ((Target.ofDialect .bigQuery).condition (.rule lastSum)).toOption = some
      ("(SELECT 0 + COALESCE(SUM(elem[OFFSET(18446744073709551615)]), 0) " ++
        "FROM UNNEST(items) AS elem)") ∧
    ∀ folding, ¬ folding.Aggregates →
      (∃ other, ((Target.ofDialect .bigQuery).withDialect folding).condition (.rule lastSum) =
        .ok other) ∧
      ((Target.ofDialect .bigQuery).withDialect folding).Overflows (.rule lastSum) := by
  have compiled : (Target.ofDialect .bigQuery).condition (.rule (sumFrom
      [.string "accumulator", .number (.integer 1), .number (.integer 2)])) =
        .ok "(SELECT 0 + COALESCE(SUM(elem), 0) FROM UNNEST(items) AS elem)" := rfl
  refine ⟨compiled, fun folding folds other accepted => ?_, by decide +kernel,
    fun folding folds => ?_⟩
  · have complete := (condition_folds_iff_running_values_complete _ folding _ _ _ ⟨.plain, rfl⟩ folds
      rfl (fun _ _ => rfl) compiled).1.mp ⟨other, accepted⟩ _ (.list
        [.string "accumulator", .number (.integer 1), .number (.integer 2)]) .refl
      ⟨_, _, _, .sum, 1, rfl, rfl, rfl⟩
    exact absurd complete.2 (by decide)
  · cases folding with
    | bigQuery | spanner | postgreSQL => exact absurd ⟨_, rfl⟩ folds
    | duckDB | clickHouse =>
        refine ⟨⟨_, rfl⟩, Target.checkedCondition_eq_none_iff.mp ?_⟩
        rw [← Option.isNone_iff_eq_none]
        decide +kernel

end RuleClause
