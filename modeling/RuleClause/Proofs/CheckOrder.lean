import RuleClause.Proofs.Compile.WithoutSchema
import RuleClause.Proofs.SchemaSoundness

/-!
# The order of the checks of an operator

An operator that reads fields of a row makes two checks of each: whether it can use the type of
the field, and, when the operand is compiled, whether the schema knows the field at all.  A
joining of arrays makes both checks of one operand before it turns to the next.  Every other
operator goes through the types of all operands first, so that a declared field of the wrong
type hides an operand that the schema does not know, wherever the two stand.
-/

namespace RuleClause

/-- The code of the error that a computation ends with, if it ends with one. -/
def failure? {α : Type} : Except Error α → Option ErrorCode
  | .ok _ => none
  | .error error => some error.code

section

variable {α β : Type} {answer : Request → Except Error Sql}

@[simp]
theorem failure?_ok (value : α) : failure? (.ok value : Except Error α) = none :=
  rfl

@[simp]
theorem failure?_error (error : Error) :
    failure? (.error error : Except Error α) = some error.code :=
  rfl

@[simp]
theorem failure?_mapError_completedBy
    (result : Except Error α)
    (operator : String)
    (path : Path) :
    failure? (result.mapError (·.completedBy operator path)) = failure? result := by
  cases result <;> rfl

theorem failure?_eq_some_iff (result : Except Error α) (code : ErrorCode) :
    failure? result = some code ↔ ∃ error, result = .error error ∧ error.code = code := by
  cases result <;> simp

/-- Of two plans in a row, the second one fails only if the first does not. -/
theorem Plan.failure?_run_bind
    {plan : Plan α}
    {next : α → Plan β}
    {failure : Option ErrorCode}
    (rest : ∀ value, failure? ((next value).run answer) = failure) :
    failure? ((plan >>= next).run answer) = (failure? (plan.run answer)).or failure := by
  change failure? ((plan.bind next).run answer) = _
  rw [Plan.run_bind]
  cases plan.run answer with
  | ok value => exact rest value
  | error error => rfl

/-- What cannot fail any more does not change how a plan fails. -/
theorem Plan.failure?_run_bind_of_ends
    {plan : Plan α}
    {next : α → Plan β}
    (ends : ∀ value, failure? ((next value).run answer) = none) :
    failure? ((plan >>= next).run answer) = failure? (plan.run answer) := by
  rw [failure?_run_bind ends, Option.or_none]

theorem Plan.failure?_run_bind_pure (plan : Plan α) (result : α → β) :
    failure? ((plan >>= fun value => pure (result value)).run answer) =
      failure? (plan.run answer) :=
  failure?_run_bind_of_ends fun _ => rfl

end

/-! ## Operands that are variables -/

/-- A rule is a variable with a name and nothing else. -/
def Rule.Reads (rule : Rule) (name : String) : Prop :=
  ∃ arguments, rule = .operation Operator.var.name arguments ∧ arguments.operands = [.string name]

theorem Rule.Reads.variableName?_eq {rule : Rule} {name : String} (reads : rule.Reads name) :
    rule.variableName? = some name := by
  obtain ⟨arguments, rfl, operands⟩ := reads
  cases arguments with
  | string | list => simp_all [Rule.operands, Rule.variableName?, Rule.leadingText?, Operator.name]
  | null | bool | number | operation => simp [Rule.operands] at operands

/-- The schema knows the name, and the name is one that a column can have. -/
def Schema.offers (schema : Schema) (name : String) : Bool :=
  name != "" && schema.knows name

/-- A field of the given name fails the check of its type. -/
def Schema.typeFailure?
    (schema : Schema)
    (accepts : FieldType → Bool)
    (name : String) : Option ErrorCode :=
  if (schema.type? name).all accepts then none else some .invalidFieldType

/-- The first of the fields, counted from an index, that fails the check of its type. -/
def Schema.typeFailures?
    (schema : Schema)
    (accepts : Nat → FieldType → Bool) : Nat → List String → Option ErrorCode
  | _, [] => none
  | index, name :: rest =>
      (schema.typeFailure? (accepts index) name).or
        (schema.typeFailures? accepts (index + 1) rest)

/--
The operands of a call are variables with the given names, and the answer to a request for one
of them fails as its name says.
-/
structure Call.LooksUp
    (call : Call)
    (answer : Request → Except Error Sql)
    (lookup : String → Option ErrorCode)
    (names : List String) : Prop where
  /-- Each operand is a variable. -/
  reads : List.Forall₂ Rule.Reads call.operands names
  /-- Each answer fails as the name says. -/
  answers : ∀ hint index name, names[index]? = some name →
    failure? (answer ⟨.operand index, .row, hint⟩) = lookup name

section

variable
  {schema : Schema}
  {answer : Request → Except Error Sql}
  {lookup : String → Option ErrorCode}
  {call : Call}
  {name : String}
  {names : List String}

/-- The setting of a row with a schema. -/
abbrev Setting.ofSchema (schema : Schema) : Setting :=
  ⟨some schema, .row⟩

theorem Setting.field?_of_reads {rule : Rule} (reads : rule.Reads name) :
    (ofSchema schema).field? rule = (schema.type? name).map (name, ·) := by
  simp [field?, reads.variableName?_eq]

theorem Setting.failure?_gate
    {rule : Rule}
    (reads : rule.Reads name)
    (usage : Usage)
    (index : Nat) :
    failure? (((ofSchema schema).gate call usage index rule).run answer) =
      schema.typeFailure? usage.accepts name := by
  rw [gate, field?_of_reads reads, Schema.typeFailure?]
  cases schema.type? name with
  | none => rfl
  | some type =>
      cases accepted : usage.accepts type <;>
        simp [Schema.checkType, accepted, Except.mapError, Error.foundAt, Error.raisedBy,
          Error.ofFault, Error.code, Fault.code]

theorem Setting.failure?_gateEach
    {rules : List Rule}
    (reads : List.Forall₂ Rule.Reads rules names)
    (usage : Usage)
    (index : Nat) :
    failure? (((ofSchema schema).gateEach call usage index rules).run answer) =
      schema.typeFailures? (fun _ => usage.accepts) index names := by
  induction reads generalizing index with
  | nil => rfl
  | cons first _ inductionHypothesis =>
      rw [gateEach, Plan.failure?_run_bind fun _ => inductionHypothesis (index + 1),
        failure?_gate first]
      rfl

theorem findSome?_cons_eq_or (name : String) (rest : List String) :
    (name :: rest).findSome? lookup = (lookup name).or (rest.findSome? lookup) := by
  rw [List.findSome?_cons]
  cases lookup name <;> rfl

/-- Requests for operands in a row fail with the first name that fails. -/
theorem Plan.failure?_requestEach
    {request : Nat → Request}
    {index : Nat}
    (answers : ∀ offset name, names[offset]? = some name →
      failure? (answer (request (index + offset))) = lookup name) :
    failure? ((requestEach request index names.length).run answer) = names.findSome? lookup := by
  induction names generalizing index with
  | nil => rfl
  | cons name rest inductionHypothesis =>
      have first : failure? (answer (request index)) = lookup name := answers 0 name rfl
      have later : failure? ((requestEach request (index + 1) rest.length).run answer) =
          rest.findSome? lookup := by
        refine inductionHypothesis fun offset other found => ?_
        rw [Nat.add_assoc, Nat.add_comm 1 offset]
        exact answers (offset + 1) other found
      rw [List.length_cons, requestEach,
        failure?_run_bind fun _ => (failure?_run_bind_pure _ _).trans later, run_request, first,
        findSome?_cons_eq_or]

namespace Call.LooksUp

theorem length_eq (looks : call.LooksUp answer lookup names) :
    call.operands.length = names.length :=
  looks.reads.length_eq

theorem failure?_ask
    (looks : call.LooksUp answer lookup names)
    (schema : Schema)
    {index : Nat}
    (found : names[index]? = some name)
    (hint : Option FieldType) :
    failure? (((Setting.ofSchema schema).ask index hint).run answer) = lookup name := by
  rw [Setting.run_ask]
  exact looks.answers hint index name found

theorem failure?_askEach
    (looks : call.LooksUp answer lookup names)
    (hint : Option FieldType) :
    failure? (((Setting.ofSchema schema).askEach hint 0 call.operands.length).run answer) =
      names.findSome? lookup := by
  rw [looks.length_eq]
  refine Plan.failure?_requestEach fun offset other found => ?_
  rw [Nat.zero_add]
  exact looks.answers hint offset other found

end Call.LooksUp

/-! ## Operators that check all types first -/

/-- The checks of all types and then the requests for all operands, with the first failure. -/
def Schema.typesFirst?
    (schema : Schema)
    (accepts : Nat → FieldType → Bool)
    (lookup : String → Option ErrorCode)
    (names : List String) : Option ErrorCode :=
  (schema.typeFailures? accepts 0 names).or (names.findSome? lookup)

/-- Operands of which there are enough are passed on. -/
theorem Call.run_bind_atLeast
    {α : Type}
    {required : Nat}
    (enough : required ≤ call.operands.length)
    (next : List Rule → Plan α) :
    (call.atLeast required >>= next).run answer = (next call.operands).run answer :=
  Plan.run_bind_of_run_eq_ok ((call.run_atLeast_eq_ok_iff required _).mpr ⟨enough, rfl⟩) next

/-- Listed operands are passed on. -/
theorem Call.run_bind_listed
    {α : Type}
    {items : List Rule}
    (listed : call.arguments = .list items)
    (next : List Rule → Plan α) :
    (call.listed >>= next).run answer = (next items).run answer :=
  Plan.run_bind_of_run_eq_ok ((call.run_listed_eq_ok_iff items).mpr listed) next

theorem Call.operands_of_arguments
    {items : List Rule}
    (listed : call.arguments = .list items) :
    call.operands = items := by
  rw [Call.operands, listed]
  rfl

namespace Arithmetic

theorem failure?_terms (looks : call.LooksUp answer lookup names) :
    failure? ((terms (.ofSchema schema) call).run answer) =
      schema.typesFirst? (fun _ => Usage.numeric.accepts) lookup names := by
  rw [terms, Plan.failure?_run_bind fun _ => looks.failure?_askEach (some .number),
    Setting.failure?_gateEach looks.reads]
  rfl

theorem failure?_chain
    (looks : call.LooksUp answer lookup names)
    (enough : 2 ≤ call.operands.length)
    (symbol : BinaryOp) :
    failure? ((chain (.ofSchema schema) call symbol).run answer) =
      schema.typesFirst? (fun _ => Usage.numeric.accepts) lookup names := by
  rw [chain, Call.run_bind_atLeast enough, Plan.failure?_run_bind_pure, failure?_terms looks]

theorem failure?_modulo
    (looks : call.LooksUp answer lookup names)
    (enough : 2 ≤ call.operands.length) :
    failure? ((modulo (.ofSchema schema) call).run answer) =
      schema.typesFirst? (fun _ => Usage.numeric.accepts) lookup names := by
  rw [modulo, Call.run_bind_atLeast enough, Plan.failure?_run_bind_pure, failure?_terms looks]

theorem failure?_extremum
    (looks : call.LooksUp answer lookup names)
    (enough : 1 ≤ call.operands.length)
    (function : Function) :
    failure? ((extremum (.ofSchema schema) call function).run answer) =
      schema.typesFirst? (fun _ => Usage.numeric.accepts) lookup names := by
  rw [extremum, Call.run_bind_atLeast enough, Plan.failure?_run_bind_pure, failure?_terms looks]

/-- A single operand is checked and then asked for. -/
theorem typesFirst?_singleton (accepts : Nat → FieldType → Bool) (name : String) :
    schema.typesFirst? accepts lookup [name] =
      (schema.typeFailure? (accepts 0) name).or (lookup name) := by
  simp [Schema.typesFirst?, Schema.typeFailures?]

theorem failure?_plus
    {operand : Rule}
    (looks : call.LooksUp answer lookup [name])
    (reads : operand.Reads name) :
    failure? ((plus (.ofSchema schema) call operand).run answer) =
      schema.typesFirst? (fun _ => Usage.numeric.accepts) lookup [name] := by
  have first : [name][0]? = some name := rfl
  rw [typesFirst?_singleton]
  unfold plus
  rw [Plan.failure?_run_bind, Setting.failure?_gate reads]
  intro _
  obtain ⟨arguments, rfl, _⟩ := reads
  refine (Plan.failure?_run_bind_of_ends fun expression => ?_).trans
    (looks.failure?_ask schema first none)
  split <;> rfl

theorem failure?_minus
    {operand : Rule}
    (looks : call.LooksUp answer lookup [name])
    (reads : operand.Reads name) :
    failure? ((minus (.ofSchema schema) call operand).run answer) =
      schema.typesFirst? (fun _ => Usage.numeric.accepts) lookup [name] := by
  have first : [name][0]? = some name := rfl
  rw [typesFirst?_singleton, minus, Plan.failure?_run_bind, Setting.failure?_gate reads]
  intro _
  exact (Plan.failure?_run_bind_pure _ _).trans (looks.failure?_ask schema first _)

/-- A sum and a difference treat a single operand on its own, and several as a chain. -/
theorem failure?_single_or_chain
    {plan : Plan Sql}
    {single : Rule → Plan Sql}
    {symbol : BinaryOp}
    (looks : call.LooksUp answer lookup names)
    (enough : 1 ≤ call.operands.length)
    (alone : ∀ operand, call.operands = [operand] →
      plan.run answer = (single operand).run answer)
    (fails : ∀ {operand name}, call.LooksUp answer lookup [name] → operand.Reads name →
      failure? ((single operand).run answer) =
        schema.typesFirst? (fun _ => Usage.numeric.accepts) lookup [name])
    (together : ∀ {first second rest}, call.operands = first :: second :: rest →
      plan = chain (.ofSchema schema) call symbol) :
    failure? (plan.run answer) =
      schema.typesFirst? (fun _ => Usage.numeric.accepts) lookup names := by
  have reads := looks.reads
  rcases operands : call.operands with _ | ⟨first, _ | ⟨second, rest⟩⟩
  · simp [operands] at enough
  · rw [operands] at reads
    obtain ⟨name, _, readsFirst, none, rfl⟩ := List.forall₂_cons_left_iff.mp reads
    obtain rfl := List.forall₂_nil_left_iff.mp none
    rw [alone first operands]
    exact fails looks readsFirst
  · rw [together operands]
    exact failure?_chain looks (by simp [operands]) symbol

theorem failure?_add
    (looks : call.LooksUp answer lookup names)
    (enough : 1 ≤ call.operands.length) :
    failure? ((add (.ofSchema schema) call).run answer) =
      schema.typesFirst? (fun _ => Usage.numeric.accepts) lookup names := by
  refine failure?_single_or_chain looks enough ?_ failure?_plus (add_eq_chain _)
  intro operand operands
  rw [add, Call.run_bind_atLeast enough, operands]

theorem failure?_subtract
    (looks : call.LooksUp answer lookup names)
    (enough : 1 ≤ call.operands.length) :
    failure? ((subtract (.ofSchema schema) call).run answer) =
      schema.typesFirst? (fun _ => Usage.numeric.accepts) lookup names := by
  refine failure?_single_or_chain looks enough ?_ failure?_minus (subtract_eq_chain _)
  intro operand operands
  rw [subtract, Call.run_bind_atLeast enough, operands]

end Arithmetic

theorem Logic.failure?_comparison
    {items : List Rule}
    (looks : call.LooksUp answer lookup names)
    (listed : call.arguments = .list items)
    (enough : 2 ≤ items.length)
    (symbol : BinaryOp) :
    failure? ((comparison (.ofSchema schema) call symbol).run answer) =
      schema.typesFirst? (fun _ => Usage.ordering.accepts) lookup names := by
  have operands : call.operands = items := Call.operands_of_arguments listed
  have counted : (call.listedAtLeast 2).run answer = .ok call.operands :=
    (Call.run_listedAtLeast_eq_ok_iff 2 _).mpr ⟨by rw [listed, operands], operands ▸ enough⟩
  rw [comparison, Plan.run_bind_of_run_eq_ok counted, Plan.failure?_run_bind fun _ =>
    (Plan.failure?_run_bind_pure _ _).trans (looks.failure?_askEach _),
    Setting.failure?_gateEach looks.reads]
  rfl

namespace Strings

theorem failure?_cat
    (looks : call.LooksUp answer lookup names)
    (enough : 1 ≤ call.operands.length) :
    failure? ((cat (.ofSchema schema) call).run answer) =
      schema.typesFirst? (fun _ => Usage.string.accepts) lookup names := by
  rw [cat, Call.run_bind_atLeast enough, Plan.failure?_run_bind fun _ =>
    (Plan.failure?_run_bind_pure _ _).trans (looks.failure?_askEach none),
    Setting.failure?_gateEach looks.reads]
  rfl

theorem offset_of_reads
    {operand : Rule}
    (reads : operand.Reads name)
    (setting : Setting)
    (index : Nat) :
    offset setting index operand = do return .dynamic (← setting.ask index (some .number)) := by
  obtain ⟨arguments, rfl, _⟩ := reads
  rfl

theorem partLength_of_reads
    {operand : Rule}
    (reads : operand.Reads name)
    (setting : Setting)
    (length : Sql)
    (offset : Offset) :
    partLength setting call length offset operand = setting.ask 2 (some .number) := by
  obtain ⟨arguments, rfl, _⟩ := reads
  rfl

theorem failure?_substr_pair
    {text place : Rule}
    (looks : call.LooksUp answer lookup names)
    (listed : call.arguments = .list [text, place]) :
    failure? ((substr (.ofSchema schema) call).run answer) =
      schema.typesFirst? Operator.substr.acceptsField lookup names := by
  have reads := looks.reads
  rw [Call.operands_of_arguments listed] at reads
  obtain ⟨first, _, readsText, rest, rfl⟩ := List.forall₂_cons_left_iff.mp reads
  obtain ⟨second, _, readsPlace, none, rfl⟩ := List.forall₂_cons_left_iff.mp rest
  obtain rfl := List.forall₂_nil_left_iff.mp none
  have foundText : [first, second][0]? = some first := rfl
  have foundPlace : [first, second][1]? = some second := rfl
  rw [substr, Call.run_bind_listed listed]
  simp only [offset_of_reads readsPlace, bind_assoc, pure_bind, start]
  refine (Plan.failure?_run_bind fun _ => Plan.failure?_run_bind fun _ =>
    Plan.failure?_run_bind fun _ => Plan.failure?_run_bind_of_ends fun _ => rfl).trans ?_
  rw [Setting.failure?_gate readsText, Setting.failure?_gate readsPlace,
    looks.failure?_ask schema foundText, looks.failure?_ask schema foundPlace]
  simp only [Schema.typesFirst?, Schema.typeFailures?, Option.or_assoc, Option.or_none,
    findSome?_cons_eq_or, List.findSome?_nil]
  rfl

theorem failure?_substr_triple
    {text place length : Rule}
    (looks : call.LooksUp answer lookup names)
    (listed : call.arguments = .list [text, place, length]) :
    failure? ((substr (.ofSchema schema) call).run answer) =
      schema.typesFirst? Operator.substr.acceptsField lookup names := by
  have reads := looks.reads
  rw [Call.operands_of_arguments listed] at reads
  obtain ⟨first, _, readsText, rest, rfl⟩ := List.forall₂_cons_left_iff.mp reads
  obtain ⟨second, _, readsPlace, last, rfl⟩ := List.forall₂_cons_left_iff.mp rest
  obtain ⟨third, _, readsLength, none, rfl⟩ := List.forall₂_cons_left_iff.mp last
  obtain rfl := List.forall₂_nil_left_iff.mp none
  have foundText : [first, second, third][0]? = some first := rfl
  have foundPlace : [first, second, third][1]? = some second := rfl
  have foundLength : [first, second, third][2]? = some third := rfl
  rw [substr, Call.run_bind_listed listed]
  simp only [offset_of_reads readsPlace, partLength_of_reads readsLength, bind_assoc, pure_bind,
    start]
  refine (Plan.failure?_run_bind fun _ => Plan.failure?_run_bind fun _ =>
    Plan.failure?_run_bind fun _ => Plan.failure?_run_bind fun _ => Plan.failure?_run_bind fun _ =>
      Plan.failure?_run_bind_pure _ _).trans ?_
  rw [Setting.failure?_gate readsText, Setting.failure?_gate readsPlace,
    Setting.failure?_gate readsLength, looks.failure?_ask schema foundText,
    looks.failure?_ask schema foundPlace, looks.failure?_ask schema foundLength]
  simp only [Schema.typesFirst?, Schema.typeFailures?, Option.or_assoc, Option.or_none,
    findSome?_cons_eq_or, List.findSome?_nil]
  rfl

end Strings

namespace Arrays

theorem failure?_haystack {operand : Rule} (reads : operand.Reads name) :
    failure? ((haystack (.ofSchema schema) call operand).run answer) =
      schema.typeFailure? isSearchable name := by
  have read : (Setting.ofSchema schema).field? operand = (schema.type? name).map (name, ·) :=
    Setting.field?_of_reads reads
  obtain ⟨arguments, rfl, _⟩ := reads
  unfold haystack Schema.typeFailure?
  rw [read]
  cases schema.type? name with
  | none => rfl
  | some type => cases type <;> rfl

theorem failure?_membership
    {needle operand : Rule}
    (looks : call.LooksUp answer lookup names)
    (listed : call.arguments = .list [needle, operand]) :
    failure? ((membership (.ofSchema schema) call).run answer) =
      schema.typesFirst? Operator.membership.acceptsField lookup names := by
  have reads := looks.reads
  rw [Call.operands_of_arguments listed] at reads
  obtain ⟨first, _, readsNeedle, rest, rfl⟩ := List.forall₂_cons_left_iff.mp reads
  obtain ⟨second, _, readsOperand, none, rfl⟩ := List.forall₂_cons_left_iff.mp rest
  obtain rfl := List.forall₂_nil_left_iff.mp none
  have foundNeedle : [first, second][0]? = some first := rfl
  have foundOperand : [first, second][1]? = some second := rfl
  have counted : call.listedPair.run answer = .ok (needle, operand) :=
    (Call.run_listedPair_eq_ok_iff (needle, operand)).mpr listed
  have searched : failure? ((haystack (.ofSchema schema) call operand).run answer) =
      schema.typeFailure? isSearchable second := failure?_haystack readsOperand
  -- the needle is asked for whatever its type
  have unchecked : schema.typeFailure? (Operator.membership.acceptsField 0) first = .none := by
    have every : (schema.type? first).all (Operator.membership.acceptsField 0) = true := by
      cases schema.type? first <;> rfl
    rw [Schema.typeFailure?, every]
    rfl
  rw [membership, Plan.run_bind_of_run_eq_ok counted]
  obtain ⟨arguments, rfl, _⟩ := readsOperand
  refine (Plan.failure?_run_bind fun kind => Plan.failure?_run_bind fun _ =>
    Plan.failure?_run_bind_of_ends fun _ => ?_).trans ?_
  · cases kind <;> rfl
  rw [searched, looks.failure?_ask schema foundNeedle, looks.failure?_ask schema foundOperand]
  simp only [Schema.typesFirst?, Schema.typeFailures?, unchecked, Option.or_none, Option.none_or,
    findSome?_cons_eq_or, List.findSome?_nil]
  rfl

/-- Each operand is checked and asked for before the next one is looked at. -/
theorem failure?_mergedArrays
    {operands : List Rule}
    {index : Nat}
    (reads : List.Forall₂ Rule.Reads operands names)
    (answers : ∀ hint offset name, names[offset]? = some name →
      failure? (answer ⟨.operand (index + offset), .row, hint⟩) = lookup name) :
    failure? ((mergedArrays (.ofSchema schema) call index operands).run answer) =
      names.findSome? fun name =>
        (schema.typeFailure? Usage.array.accepts name).or (lookup name) := by
  induction reads generalizing index with
  | nil => rfl
  | @cons operand name operands names first _ inductionHypothesis =>
      have asked : failure? (((Setting.ofSchema schema).ask index none).run answer) =
          lookup name := by
        rw [Setting.run_ask]
        exact answers none 0 name rfl
      have later :
          failure? ((mergedArrays (.ofSchema schema) call (index + 1) operands).run answer) =
            names.findSome? fun name =>
              (schema.typeFailure? Usage.array.accepts name).or (lookup name) := by
        refine inductionHypothesis fun hint offset other found => ?_
        rw [Nat.add_assoc, Nat.add_comm 1 offset]
        exact answers hint (offset + 1) other found
      refine (Plan.failure?_run_bind fun _ => Plan.failure?_run_bind fun _ =>
        (Plan.failure?_run_bind_pure _ _).trans later).trans ?_
      rw [Setting.failure?_gate first, asked, findSome?_cons_eq_or, Option.or_assoc]

theorem failure?_merge (looks : call.LooksUp answer lookup names) :
    failure? ((merge (.ofSchema schema) call).run answer) =
      names.findSome? fun name =>
        (schema.typeFailure? Usage.array.accepts name).or (lookup name) := by
  have reads := looks.reads
  unfold merge
  split
  · rw [Plan.failure?_run_bind_pure]
    refine failure?_mergedArrays reads fun hint offset other found => ?_
    rw [Nat.zero_add]
    exact looks.answers hint offset other found
  · rename_i plain
    rcases operands : call.operands with _ | ⟨first, rest⟩
    · rw [operands] at reads
      obtain rfl := List.forall₂_nil_left_iff.mp reads
      rfl
    · rw [operands] at reads plain
      obtain ⟨name, _, ⟨arguments, rfl, _⟩, _, _⟩ := List.forall₂_cons_left_iff.mp reads
      simp [Rule.isOperation] at plain

end Arrays

/-! ## The first failure of an operator -/

namespace Operator

/-- The operator reads fields, and takes the arguments as far as their number goes. -/
def Takes (operator : Operator) (arguments : Rule) : Prop :=
  match operator with
  | .add | .subtract | .max | .min | .cat => 1 ≤ arguments.operands.length
  | .multiply | .divide | .modulo => 2 ≤ arguments.operands.length
  | .greater | .greaterEqual | .less | .lessEqual =>
      arguments = .list arguments.operands ∧ 2 ≤ arguments.operands.length
  | .substr =>
      arguments = .list arguments.operands ∧
        (arguments.operands.length = 2 ∨ arguments.operands.length = 3)
  | .membership => arguments = .list arguments.operands ∧ arguments.operands.length = 2
  | .merge => True
  | _ => False

/-- The first failure of an operator whose operands are variables. -/
def firstFailure?
    (operator : Operator)
    (schema : Schema)
    (lookup : String → Option ErrorCode)
    (names : List String) : Option ErrorCode :=
  match operator with
  | .merge =>
      names.findSome? fun name =>
        (schema.typeFailure? Usage.array.accepts name).or (lookup name)
  | operator => schema.typesFirst? operator.acceptsField lookup names

theorem failure?_plan
    {operator : Operator}
    (takes : operator.Takes call.arguments)
    (looks : call.LooksUp answer lookup names)
    (dialect : Dialect) :
    failure? ((operator.plan dialect (.ofSchema schema) call).run answer) =
      operator.firstFailure? schema lookup names := by
  cases operator with
  | add => exact Arithmetic.failure?_add looks takes
  | subtract => exact Arithmetic.failure?_subtract looks takes
  | multiply => exact Arithmetic.failure?_chain looks takes .multiply
  | divide => exact Arithmetic.failure?_chain looks takes .divide
  | modulo => exact Arithmetic.failure?_modulo looks takes
  | max => exact Arithmetic.failure?_extremum looks takes .greatest
  | min => exact Arithmetic.failure?_extremum looks takes .least
  | cat => exact Strings.failure?_cat looks takes
  | greater => exact Logic.failure?_comparison looks takes.1 takes.2 .greater
  | greaterEqual => exact Logic.failure?_comparison looks takes.1 takes.2 .greaterEqual
  | less => exact Logic.failure?_comparison looks takes.1 takes.2 .less
  | lessEqual => exact Logic.failure?_comparison looks takes.1 takes.2 .lessEqual
  | substr =>
      obtain ⟨listed, two | three⟩ := takes
      · obtain ⟨text, place, operands⟩ := List.length_eq_two.mp two
        exact Strings.failure?_substr_pair looks (listed.trans (congrArg _ operands))
      · obtain ⟨text, place, length, operands⟩ := List.length_eq_three.mp three
        exact Strings.failure?_substr_triple looks (listed.trans (congrArg _ operands))
  | membership =>
      obtain ⟨needle, operand, operands⟩ := List.length_eq_two.mp takes.2
      exact Arrays.failure?_membership looks (takes.1.trans (congrArg _ operands))
  | merge => exact Arrays.failure?_merge looks
  | var | missing | missingSome | equal | strictEqual | notEqual | strictNotEqual | not | truthy
  | and | or | conditional | ternary | map | filter | reduce | all | some | none =>
      exact takes.elim

/-- The operand with a number reads a declared field of a type that is not accepted there. -/
def Refuses
    (operator : Operator)
    (schema : Schema)
    (names : List String)
    (index : Nat) : Prop :=
  ∃ name type, names[index]? = .some name ∧ schema.type? name = .some type ∧
    operator.acceptsField index type = false

/--
The first operand that stands for nothing names a field that the schema does not know, and no
check of a type fails before it is looked up.
-/
def ReachesUnknown (operator : Operator) (schema : Schema) (names : List String) : Prop :=
  ∃ earlier name later, names = earlier ++ name :: later ∧
    (∀ other ∈ earlier, schema.offers other = true) ∧
    name ≠ "" ∧ schema.knows name = false ∧
    ∀ index, operator.Refuses schema names index → operator = .merge ∧ earlier.length < index

end Operator

/-! ## Types and names against the schema -/

theorem Schema.knows_of_type?
    {type : FieldType}
    (declared : schema.type? name = some type) :
    schema.knows name = true := by
  obtain ⟨field, found, _⟩ := Option.map_eq_some_iff.mp declared
  rw [knows, NameMap.has, ← field?, found]
  rfl

theorem Schema.typeFailure?_eq_none_iff (accepts : FieldType → Bool) (name : String) :
    schema.typeFailure? accepts name = none ↔
      ∀ type, schema.type? name = some type → accepts type = true := by
  unfold typeFailure?
  cases schema.type? name with
  | none => simp
  | some type => simp

theorem Schema.typeFailure?_ne
    {code : ErrorCode}
    (other : code ≠ .invalidFieldType)
    (accepts : FieldType → Bool)
    (name : String) :
    schema.typeFailure? accepts name ≠ some code := by
  unfold typeFailure?
  split <;> simp [other.symm]

theorem Schema.typeFailures?_eq_none_iff
    (accepts : Nat → FieldType → Bool)
    (index : Nat)
    (names : List String) :
    schema.typeFailures? accepts index names = none ↔
      ∀ offset name type, names[offset]? = some name → schema.type? name = some type →
        accepts (index + offset) type = true := by
  induction names generalizing index with
  | nil => simp [typeFailures?]
  | cons first rest inductionHypothesis =>
      rw [typeFailures?, Option.or_eq_none_iff, typeFailure?_eq_none_iff, inductionHypothesis]
      constructor
      · rintro ⟨here, later⟩ offset name type found declared
        cases offset with
        | zero =>
            obtain rfl : first = name := by simpa using found
            exact here type declared
        | succ offset =>
            have accepted := later offset name type (by simpa using found) declared
            rwa [Nat.add_assoc, Nat.add_comm 1 offset] at accepted
      · intro each
        refine ⟨fun type declared => each 0 first type rfl declared, ?_⟩
        intro offset name type found declared
        rw [Nat.add_assoc, Nat.add_comm 1 offset]
        exact each (offset + 1) name type found declared

theorem Schema.typeFailures?_ne
    {code : ErrorCode}
    (other : code ≠ .invalidFieldType)
    (accepts : Nat → FieldType → Bool)
    (index : Nat)
    (names : List String) :
    schema.typeFailures? accepts index names ≠ some code := by
  induction names generalizing index with
  | nil => simp [typeFailures?]
  | cons first rest inductionHypothesis =>
      rw [typeFailures?, ne_eq, Option.or_eq_some_iff]
      rintro (here | ⟨_, later⟩)
      · exact typeFailure?_ne other _ _ here
      · exact inductionHypothesis _ later

/-- How a variable fails in a row: it is too deep, or its name stands for nothing. -/
def Schema.lookupFailure? (schema : Schema) (deep : Bool) (name : String) : Option ErrorCode :=
  if deep then some .maxDepthExceeded
  else if name = "" then some .invalidArgument
  else if schema.knows name then none
  else some .fieldNotInSchema

theorem Schema.lookupFailure?_eq_none_iff (deep : Bool) (name : String) :
    schema.lookupFailure? deep name = none ↔ deep = false ∧ schema.offers name = true := by
  unfold lookupFailure? offers
  split_ifs <;> simp_all

theorem Schema.lookupFailure?_eq_unknown_iff (deep : Bool) (name : String) :
    schema.lookupFailure? deep name = some .fieldNotInSchema ↔
      deep = false ∧ name ≠ "" ∧ schema.knows name = false := by
  unfold lookupFailure?
  split_ifs <;> simp_all

namespace Operator

variable {operator : Operator} {deep : Bool}

theorem typeFailures?_eq_none_iff_refuses :
    schema.typeFailures? operator.acceptsField 0 names = .none ↔
      ∀ index, ¬operator.Refuses schema names index := by
  rw [Schema.typeFailures?_eq_none_iff]
  simp only [Nat.zero_add]
  constructor
  · rintro each index ⟨name, type, found, declared, refused⟩
    simp [each index name type found declared] at refused
  · intro none offset name type found declared
    by_contra refused
    exact none offset ⟨name, type, found, declared, by simpa using refused⟩

theorem firstFailure?_of_ne_merge (other : operator ≠ .merge) :
    operator.firstFailure? schema lookup names =
      schema.typesFirst? operator.acceptsField lookup names := by
  cases operator <;> first | rfl | exact absurd rfl other

/-- An operand that stands for nothing is reported unless a type check fails before. -/
theorem typesFirst?_eq_unknown_iff :
    schema.typesFirst? operator.acceptsField (schema.lookupFailure? deep) names =
        .some .fieldNotInSchema ↔
      deep = false ∧ ∃ earlier name later, names = earlier ++ name :: later ∧
        (∀ other ∈ earlier, schema.offers other = true) ∧
        name ≠ "" ∧ schema.knows name = false ∧ ∀ index, ¬operator.Refuses schema names index := by
  rw [Schema.typesFirst?, Option.or_eq_some_iff, typeFailures?_eq_none_iff_refuses,
    List.findSome?_eq_some_iff]
  constructor
  · rintro (typed | ⟨accepted, earlier, name, later, same, fails, passed⟩)
    · exact absurd typed (Schema.typeFailures?_ne (by decide) _ _ _)
    · obtain ⟨shallow, filled, unknown⟩ := (Schema.lookupFailure?_eq_unknown_iff _ _).mp fails
      refine ⟨shallow, earlier, name, later, same, fun other member => ?_, filled, unknown,
        accepted⟩
      exact ((Schema.lookupFailure?_eq_none_iff _ _).mp (passed other member)).2
  · rintro ⟨shallow, earlier, name, later, same, offered, filled, unknown, accepted⟩
    refine .inr ⟨accepted, earlier, name, later, same, ?_, fun other member => ?_⟩
    · exact (Schema.lookupFailure?_eq_unknown_iff _ _).mpr ⟨shallow, filled, unknown⟩
    · exact (Schema.lookupFailure?_eq_none_iff _ _).mpr ⟨shallow, offered other member⟩

/-- A joining of arrays reports it unless a type check of an operand in front of it fails. -/
theorem firstFailure?_merge_eq_unknown_iff :
    merge.firstFailure? schema (schema.lookupFailure? deep) names = .some .fieldNotInSchema ↔
      deep = false ∧ ∃ earlier name later, names = earlier ++ name :: later ∧
        (∀ other ∈ earlier, schema.offers other = true) ∧
        name ≠ "" ∧ schema.knows name = false ∧
        ∀ index, merge.Refuses schema names index → earlier.length < index := by
  rw [firstFailure?, List.findSome?_eq_some_iff]
  constructor
  · rintro ⟨earlier, name, later, same, fails, passed⟩
    rcases Option.or_eq_some_iff.mp fails with typed | ⟨_, fails⟩
    · exact absurd typed (Schema.typeFailure?_ne (by decide) _ _)
    obtain ⟨shallow, filled, unknown⟩ := (Schema.lookupFailure?_eq_unknown_iff _ _).mp fails
    have checked : ∀ other ∈ earlier, schema.typeFailure? Usage.array.accepts other = .none ∧
        schema.lookupFailure? deep other = .none :=
      fun other member => Option.or_eq_none_iff.mp (passed other member)
    refine ⟨shallow, earlier, name, later, same, fun other member => ?_, filled, unknown, ?_⟩
    · exact ((Schema.lookupFailure?_eq_none_iff _ _).mp (checked other member).2).2
    · rintro index ⟨other, type, found, declared, refused⟩
      by_contra before
      rw [same] at found
      rcases Nat.lt_or_eq_of_le (Nat.not_lt.mp before) with inside | rfl
      · rw [List.getElem?_append_left inside] at found
        have accepted := (Schema.typeFailure?_eq_none_iff _ _).mp
          (checked other (List.mem_of_getElem? found)).1 type declared
        simp [acceptsField, accepted] at refused
      · obtain rfl : name = other := by simpa using found
        simp [Schema.knows_of_type? declared] at unknown
  · rintro ⟨shallow, earlier, name, later, same, offered, filled, unknown, order⟩
    refine ⟨earlier, name, later, same, ?_, fun other member => ?_⟩
    · refine Option.or_eq_some_iff.mpr (.inr ⟨?_, ?_⟩)
      · refine (Schema.typeFailure?_eq_none_iff _ _).mpr fun type declared => ?_
        simp [Schema.knows_of_type? declared] at unknown
      · exact (Schema.lookupFailure?_eq_unknown_iff _ _).mpr ⟨shallow, filled, unknown⟩
    · refine Option.or_eq_none_iff.mpr ⟨?_, ?_⟩
      · refine (Schema.typeFailure?_eq_none_iff _ _).mpr fun type declared => ?_
        by_contra refused
        obtain ⟨index, inside, rfl⟩ := List.mem_iff_getElem.mp member
        have found : names[index]? = .some earlier[index] := by
          rw [same, List.getElem?_append_left inside, List.getElem?_eq_getElem inside]
        have later := order index ⟨_, type, found, declared, by simpa [acceptsField] using refused⟩
        omega
      · exact (Schema.lookupFailure?_eq_none_iff _ _).mpr ⟨shallow, offered other member⟩

theorem firstFailure?_eq_unknown_iff :
    operator.firstFailure? schema (schema.lookupFailure? deep) names = .some .fieldNotInSchema ↔
      deep = false ∧ operator.ReachesUnknown schema names := by
  by_cases joins : operator = .merge
  · subst joins
    rw [firstFailure?_merge_eq_unknown_iff]
    simp only [ReachesUnknown, true_and]
  · rw [firstFailure?_of_ne_merge joins, typesFirst?_eq_unknown_iff]
    simp only [ReachesUnknown, joins, false_and]

/-- With an operand that the schema does not know, some check fails. -/
theorem firstFailure?_ne_none (unknown : ∃ name ∈ names, schema.knows name = false) :
    operator.firstFailure? schema (schema.lookupFailure? deep) names ≠ .none := by
  obtain ⟨name, member, unknown⟩ := unknown
  have fails : schema.lookupFailure? deep name ≠ .none := by
    rw [ne_eq, Schema.lookupFailure?_eq_none_iff]
    simp [Schema.offers, unknown]
  intro passed
  by_cases joins : operator = .merge
  · subst joins
    have each := List.findSome?_eq_none_iff.mp passed name member
    exact fails (Option.or_eq_none_iff.mp each).2
  · rw [firstFailure?_of_ne_merge joins] at passed
    exact fails (List.findSome?_eq_none_iff.mp (Option.or_eq_none_iff.mp passed).2 name member)

end Operator

/-! ## Compiling an operator over variables -/

theorem Setting.failure?_require (name : String) (path : Path) :
    failure? (((ofSchema schema).require name path).run answer) =
      if schema.knows name then none else some .fieldNotInSchema := by
  rw [require, Plan.run_ofExcept, Schema.require]
  split <;> rfl

/-- What a text refers to in a row fails as the text says. -/
theorem Reference.failure?_textual (name : String) (call : Call) :
    failure? ((textual (.ofSchema schema) call name).run answer) =
      schema.lookupFailure? false name := by
  rw [textual, Schema.lookupFailure?, if_neg Bool.false_ne_true]
  by_cases empty : name = ""
  · rw [if_pos ⟨rfl, empty⟩, if_pos empty]
    rfl
  · rw [if_neg (empty ·.2), if_neg empty, named, Plan.failure?_run_bind_pure,
      Setting.failure?_require]

/-- A variable fails in a row as its depth and its name say. -/
theorem Rule.Reads.failure?_compileAt
    {rule : Rule}
    {target : Target}
    (reads : rule.Reads name)
    (typed : target.schema = some schema)
    (position : Position)
    (hint : Option FieldType) :
    failure? (compileAt target.context rule position .row hint) =
      schema.lookupFailure? (decide (target.maxDepth < position.depth)) name := by
  obtain ⟨arguments, rfl, operands⟩ := reads
  by_cases deep : target.maxDepth < position.depth
  · have exceeded : target.context.maxDepth < position.depth := deep
    rw [compileAt_operation, Context.operation_eq, if_pos exceeded, decide_eq_true deep]
    rfl
  · rw [compileAt_operator_eq (target.custom_context_operator_name _) _ (Nat.not_lt.mp deep),
      failure?_mapError_completedBy, decide_eq_false deep]
    have single (dialect : Dialect) (setting : Setting) (path : Path) :
        Operator.var.plan dialect setting ⟨Operator.var.name, arguments, path⟩ =
          Reference.textual setting ⟨Operator.var.name, arguments, path⟩ name := by
      change Reference.var _ _ = _
      rw [Reference.var, Call.operands, operands]
      rfl
    have schematic : target.context.schema = some schema := typed
    rw [single, schematic]
    exact Reference.failure?_textual name _

/-- The answers to an operator of a row whose operands are variables. -/
theorem Call.looksUp_operandsAt
    {target : Target}
    {arguments : Rule}
    (typed : target.schema = some schema)
    (reads : List.Forall₂ Rule.Reads arguments.operands names)
    (operator : String)
    (position : Position) :
    (⟨operator, arguments, position.operationPath operator⟩ : Call).LooksUp
      (OperandCompiler.answer (operandsAt target.context operator arguments position))
      (schema.lookupFailure? (decide (target.maxDepth ≤ position.depth))) names where
  reads := reads
  answers hint index name found := by
    obtain ⟨operand, here, read⟩ : ∃ operand, arguments.operands[index]? = some operand ∧
        operand.Reads name := by
      obtain ⟨same, each⟩ := List.forall₂_iff_get.mp reads
      obtain ⟨inside, rfl⟩ := List.getElem?_eq_some_iff.mp found
      exact ⟨_, List.getElem?_eq_getElem (same ▸ inside), each index _ inside⟩
    rw [answer_operand here, read.failure?_compileAt typed, position.operand_depth]
    simp only [Nat.lt_succ_iff]

/-- An operator of a row whose operands are variables fails as its depth and their names say. -/
theorem Operator.failure?_compileAt
    {target : Target}
    {operator : Operator}
    {arguments : Rule}
    (typed : target.schema = Option.some schema)
    (takes : operator.Takes arguments)
    (reads : List.Forall₂ Rule.Reads arguments.operands names)
    (position : Position)
    (hint : Option FieldType) :
    failure? (compileAt target.context (.operation operator.name arguments) position .row hint) =
      if target.maxDepth < position.depth then Option.some .maxDepthExceeded
      else operator.firstFailure? schema
        (schema.lookupFailure? (decide (target.maxDepth ≤ position.depth))) names := by
  by_cases deep : target.maxDepth < position.depth
  · have exceeded : target.context.maxDepth < position.depth := deep
    rw [compileAt_operation, Context.operation_eq, if_pos exceeded, if_pos deep]
    rfl
  · have schematic : target.context.schema = Option.some schema := typed
    rw [compileAt_operator_eq (target.custom_context_operator_name _) _ (Nat.not_lt.mp deep),
      failure?_mapError_completedBy, schematic, if_neg deep]
    exact failure?_plan takes (Call.looksUp_operandsAt typed reads _ _) _

/--
An operator of a row whose operands are variables, one of which the schema does not know, fails.
The error says that a field is unknown if and only if the operands are not too deep and no type
check stands in front of the field.
-/
theorem undeclared_reported_iff_reached
    {target : Target}
    {operator : Operator}
    {arguments : Rule}
    (typed : target.schema = some schema)
    (takes : operator.Takes arguments)
    (reads : List.Forall₂ Rule.Reads arguments.operands names)
    (undeclared : ∃ name ∈ names, schema.knows name = false)
    (position : Position)
    (hint : Option FieldType) :
    ∃ error,
      compileAt target.context (.operation operator.name arguments) position .row hint =
          .error error ∧
        (error.code = .fieldNotInSchema ↔
          position.depth < target.maxDepth ∧ operator.ReachesUnknown schema names) := by
  have first := Operator.failure?_compileAt typed takes reads position hint
  by_cases deep : target.maxDepth < position.depth
  · rw [if_pos deep] at first
    obtain ⟨error, failed, code⟩ := (failure?_eq_some_iff _ _).mp first
    refine ⟨error, failed, ?_⟩
    rw [code]
    simp only [reduceCtorEq, false_iff, not_and]
    omega
  · rw [if_neg deep] at first
    obtain ⟨code, fails⟩ :=
      Option.ne_none_iff_exists'.mp (Operator.firstFailure?_ne_none undeclared)
    obtain ⟨error, failed, rfl⟩ := (failure?_eq_some_iff _ _).mp (first.trans fails)
    refine ⟨error, failed, ?_⟩
    rw [← Option.some.injEq, ← fails, Operator.firstFailure?_eq_unknown_iff,
      decide_eq_false_iff_not, Nat.not_le]

end

/-- A schema with a text and a list. -/
def noteSchema : Schema :=
  (Schema.ofFields [⟨"title", .string, []⟩, ⟨"tags", .array, []⟩]).toOption.getD .empty

/-- A target with that schema. -/
def noteTarget : Target :=
  (Target.ofDialect .postgreSQL).withSchema (some noteSchema)

/-- The variables with the given names. -/
def variableList (names : List String) : Rule :=
  .list (names.map fun name => .operation Operator.var.name (.string name))

/-- A joining of arrays reports an unknown field in front of one of the wrong type. -/
theorem undeclared_reported_iff_reached_of_merge :
    ∃ error, compileAt noteTarget.context
        (.operation Operator.merge.name (variableList ["tags", "labels", "title"]))
        .start .row none = .error error ∧ error.code = .fieldNotInSchema := by
  have typed : noteTarget.schema = some noteSchema := rfl
  have takes : Operator.merge.Takes (variableList ["tags", "labels", "title"]) := trivial
  have each : ∀ name, Rule.Reads (.operation Operator.var.name (.string name)) name :=
    fun name => ⟨_, rfl, rfl⟩
  have reads : List.Forall₂ Rule.Reads (variableList ["tags", "labels", "title"]).operands
      ["tags", "labels", "title"] :=
    .cons (each "tags") (.cons (each "labels") (.cons (each "title") .nil))
  obtain ⟨error, failed, reported⟩ := undeclared_reported_iff_reached typed takes reads
    ⟨"labels", by simp, by decide⟩ .start none
  refine ⟨error, failed, reported.mpr ⟨by decide, ["tags"], "labels", ["title"], rfl,
    List.forall_mem_singleton.mpr rfl, by decide, by decide, ?_⟩⟩
  rintro index ⟨name, type, found, declared, refused⟩
  refine ⟨rfl, ?_⟩
  -- the list passes its check, and the unknown field has no type
  rcases index with _ | _ | index
  · obtain rfl : "tags" = name := by simpa using found
    obtain rfl : FieldType.array = type := Option.some.inj declared
    exact absurd refused (by decide)
  · obtain rfl : "labels" = name := by simpa using found
    have untyped : noteSchema.type? "labels" = none := rfl
    simp [untyped] at declared
  · simp

/-- A text in a sum hides an unknown field next to it. -/
theorem undeclared_hidden_behind_type :
    ∃ error, compileAt noteTarget.context
        (.operation Operator.add.name (variableList ["title", "total"])) .start .row none =
          .error error ∧
      noteSchema.knows "total" = false ∧ error.code = .invalidFieldType :=
  ⟨_, rfl, by decide, by decide⟩

end RuleClause
