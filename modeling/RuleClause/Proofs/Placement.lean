import RuleClause.Proofs.DepthAgreement
import RuleClause.Proofs.DepthLimit
import RuleClause.Proofs.Plan.Relocation

/-!
# Operations compile alike wherever they stand

The place of an operation shows in its errors, and its depth in whether it is too deep.
All else is the same at every place: an operation compiles to the same expression, or it
fails with the same error, found at the same place as seen from the operation.  So an
operation can be put into another one without a change to its own text.
-/

namespace RuleClause

/-- Two paths that lead in the same way from two bases. -/
def Path.Alike (base other first second : Path) : Prop :=
  ∃ path, first = base.join path ∧ second = other.join path

/--
Two positions that are reached in the same way from two bases.  The second is no
closer to its limit than the first.
-/
structure Position.Alike
    (base other : Path)
    (strict lax : Nat)
    (first second : Position) : Prop where
  parent : Path.Alike base other first.parent second.parent
  index : first.index = second.index
  room : second.depth + strict ≤ first.depth + lax

variable {base other : Path} {strict lax : Nat}

namespace Path.Alike

variable {first second : Path}

theorem refl (base other : Path) : Path.Alike base other base other :=
  ⟨here, rfl, rfl⟩

theorem member (alike : Path.Alike base other first second) (name : String) :
    Path.Alike base other (first.member name) (second.member name) := by
  obtain ⟨path, rfl, rfl⟩ := alike
  exact ⟨path.member name, rfl, rfl⟩

theorem slot (alike : Path.Alike base other first second) (index : Option Nat) :
    Path.Alike base other (first.slot index) (second.slot index) := by
  obtain ⟨path, rfl, rfl⟩ := alike
  exact ⟨path.slot index, (join_slot base path index).symm, (join_slot other path index).symm⟩

end Path.Alike

namespace Position.Alike

variable {first second : Position}

theorem valuePath (alike : Position.Alike base other strict lax first second) :
    Path.Alike base other first.valuePath second.valuePath := by
  rw [Position.valuePath, Position.valuePath, alike.index]
  exact alike.parent.slot second.index

theorem operationPath
    (alike : Position.Alike base other strict lax first second)
    (operator : String) :
    Path.Alike base other (first.operationPath operator) (second.operationPath operator) := by
  rw [Position.operationPath, Position.operationPath, alike.index]
  exact (alike.parent.member operator).slot second.index

/-- One level further in, from places that are alike. -/
theorem inside
    {place otherPlace : Path}
    (alike : Path.Alike base other place otherPlace)
    (room : second.depth + strict ≤ first.depth + lax)
    (index : Option Nat) :
    Position.Alike base other strict lax ⟨place, index, first.depth + 1⟩
      ⟨otherPlace, index, second.depth + 1⟩ where
  parent := alike
  index := rfl
  room := by
    change second.depth + 1 + strict ≤ first.depth + 1 + lax
    omega

theorem operand
    {operator : String}
    (own : Path.Alike base other (first.operationPath operator) (second.operationPath operator))
    (room : second.depth + strict ≤ first.depth + lax)
    (arguments : Rule)
    (index : Nat) :
    Position.Alike base other strict lax (first.operand operator arguments index)
      (second.operand operator arguments index) := by
  cases arguments with
  | list items => exact inside own room (some index)
  | null | bool | number | string | operation => exact inside own room none

theorem part
    (alike : Position.Alike base other strict lax first second)
    (operand : Rule)
    (index : Nat) :
    Position.Alike base other strict lax (first.part operand index)
      (second.part operand index) := by
  cases operand with
  | operation operator arguments =>
      exact inside (alike.operationPath operator) alike.room (some index)
  | null | bool | number | string | list => exact inside alike.valuePath alike.room (some index)

end Position.Alike

/-- From two operations that are alike, a selection picks the same rule at places that are alike. -/
theorem Selection.pick?_alike
    {operator : String}
    {first second : Position}
    (own : Path.Alike base other (first.operationPath operator) (second.operationPath operator))
    (room : second.depth + strict ≤ first.depth + lax)
    (arguments : Rule)
    (selection : Selection) :
    Option.Rel
      (fun left right => left.1 = right.1 ∧
        Position.Alike base other strict lax left.2 right.2)
      (selection.pick? operator arguments first)
      (selection.pick? operator arguments second) := by
  have operands := Position.Alike.operand own room arguments
  cases selection with
  | operand index =>
      cases found : arguments.operands[index]? with
      | none => simp [pick?, found]
      | some operand =>
          simp only [pick?, found, Option.map_some]
          exact .some ⟨rfl, operands index⟩
  | part index inner =>
      cases found : arguments.operands[index]? with
      | none => simp [pick?, found]
      | some operand =>
          cases foundPart : operand.parts[inner]? with
          | none => simp [pick?, found, foundPart]
          | some part =>
              simp only [pick?, found, foundPart, Option.bind_some, Option.map_some]
              exact .some ⟨rfl, (operands index).part operand inner⟩

/-! ## Outcomes -/

/--
Two outcomes that are the same as seen from two bases, unless the first is that
something is too deep.
-/
inductive Moved (base other : Path) {α : Type} : Except Error α → Except Error α → Prop
  | ok (value : α) : Moved base other (.ok value) (.ok value)
  | error (error : Error) :
      Moved base other (.error (error.movedTo base)) (.error (error.movedTo other))
  | tooDeep
      {error : Error}
      (deep : error.code = .maxDepthExceeded)
      (outcome : Except Error α) :
      Moved base other (.error error) outcome

theorem Error.movedTo_completedBy (base : Path) (error : Error) (operator : String) (path : Path) :
    (error.completedBy operator path).movedTo base =
      (error.movedTo base).completedBy operator (base.join path) := by
  obtain ⟨fault, named, located, cause⟩ := error
  cases located <;> rfl

namespace Moved

variable {α β : Type}

theorem eq_ok
    {value : α}
    {outcome : Except Error α}
    (moved : Moved base other (.ok value) outcome) :
    outcome = .ok value := by
  cases moved with
  | ok => rfl

theorem bind
    {first second : Except Error α}
    {firstNext secondNext : α → Except Error β}
    (moved : Moved base other first second)
    (next : ∀ value, Moved base other (firstNext value) (secondNext value)) :
    Moved base other (first >>= firstNext) (second >>= secondNext) := by
  cases moved with
  | ok value => exact next value
  | error error => exact .error error
  | tooDeep deep => exact .tooDeep deep _

theorem completedBy
    {first second : Except Error α}
    (moved : Moved base other first second)
    (operator : String)
    (path : Path) :
    Moved base other (first.mapError (·.completedBy operator (base.join path)))
      (second.mapError (·.completedBy operator (other.join path))) := by
  cases moved with
  | ok value => exact .ok value
  | error error =>
      change Moved base other
        (.error ((error.movedTo base).completedBy operator (base.join path)))
        (.error ((error.movedTo other).completedBy operator (other.join path)))
      rw [← Error.movedTo_completedBy, ← Error.movedTo_completedBy]
      exact .error _
  | @tooDeep error deep outcome =>
      rw [← Error.code_completedBy error operator (base.join path)] at deep
      exact .tooDeep deep _

/-- A plan that is put under two bases, with its requests met alike. -/
theorem run
    {first second : Request → Except Error Sql}
    (each : ∀ request, Moved base other (first request) (second request))
    (plan : Plan α) :
    Moved base other ((plan.movedTo base).run first) ((plan.movedTo other).run second) := by
  induction plan with
  | done value => exact .ok value
  | fail error => exact .error error
  | ask request next inductionHypothesis => exact (each request).bind inductionHypothesis

theorem compileEach
    {scope : Scope}
    {hint : Option FieldType}
    {first second : List (Compiler (Except Error))}
    (each : ∀ index : Nat, Option.Rel
      (fun left right => Moved base other (left scope hint) (right scope hint))
      first[index]? second[index]?) :
    Moved base other (compileEach scope hint first) (compileEach scope hint second) := by
  induction first generalizing second with
  | nil =>
      cases second with
      | nil => exact .ok []
      | cons => cases each 0
  | cons compiler rest inductionHypothesis =>
      cases second with
      | nil => cases each 0
      | cons otherCompiler others =>
          obtain ⟨head⟩ := each 0
          refine head.bind fun expression => ?_
          refine (inductionHypothesis fun index => each (index + 1)).bind fun expressions => ?_
          exact .ok (expression :: expressions)

end Moved

/-! ## Compiling -/

variable {context : Context (Except Error)}

/-- The rule compiles alike at every two positions that are alike. -/
def Rule.CompilesAlike
    (context : Context (Except Error))
    (base other : Path)
    (strict lax : Nat)
    (rule : Rule) : Prop :=
  ∀ first second, Position.Alike base other strict lax first second → ∀ scope hint,
    Moved base other (compileAt (context.withMaxDepth strict) rule first scope hint)
      (compileAt (context.withMaxDepth lax) rule second scope hint)

/-- A custom operator is called alike if its operands compile alike. -/
theorem moved_callCustom
    (replies : context.Replies)
    {operator : String}
    {arguments : Rule}
    {first second : Position}
    {path : Path}
    {handler : List String → Except Error (Except String String)}
    (own : first.operationPath operator = base.join path)
    (otherOwn : second.operationPath operator = other.join path)
    (room : second.depth + strict ≤ first.depth + lax)
    (registered : context.custom operator = some handler)
    (operands : ∀ operand ∈ arguments.operands,
      operand.CompilesAlike context base other strict lax)
    (scope : Scope) :
    Moved base other
      ((context.withMaxDepth strict).callCustom ⟨operator, arguments, base.join path⟩ handler scope
        (operandsAt (context.withMaxDepth strict) operator arguments first))
      ((context.withMaxDepth lax).callCustom ⟨operator, arguments, other.join path⟩ handler scope
        (operandsAt (context.withMaxDepth lax) operator arguments second)) := by
  refine (Moved.compileEach fun index => ?_).bind fun expressions => ?_
  · rw [List.getElem?_map, List.getElem?_map, operandsAt_getElem?, operandsAt_getElem?]
    cases found : arguments.operands[index]? with
    | none => exact .none
    | some operand =>
        apply Option.Rel.some
        apply operands operand (List.mem_of_getElem? found)
        exact .operand ⟨path, own, otherOwn⟩ room arguments index
  · obtain ⟨reply, replied⟩ :=
      replies operator handler registered (Sql.renderAll context.dialect expressions)
    simp only [Context.withMaxDepth, replied]
    cases reply with
    | ok text => exact .ok (Sql.fragment text)
    | error cause =>
        exact .error <|
          (Call.error ⟨operator, arguments, path⟩ (.customFailed operator)).causedBy cause

/-- A request is met alike if what it selects compiles alike. -/
theorem moved_answer
    {operator : String}
    {arguments : Rule}
    {first second : Position}
    (own : Path.Alike base other (first.operationPath operator) (second.operationPath operator))
    (room : second.depth + strict ≤ first.depth + lax)
    (inside : ∀ inner : Rule, sizeOf inner < sizeOf (Rule.operation operator arguments) →
      inner.CompilesAlike context base other strict lax)
    (request : Request) :
    Moved base other
      (OperandCompiler.answer
        (operandsAt (context.withMaxDepth strict) operator arguments first) request)
      (OperandCompiler.answer
        (operandsAt (context.withMaxDepth lax) operator arguments second) request) := by
  rw [answer_operandsAt, answer_operandsAt]
  have smaller : ∀ target, request.selection.pick? operator arguments first = some target →
      sizeOf target.1 < sizeOf (Rule.operation operator arguments) :=
    fun _ picked => Selection.sizeOf_lt_of_pick? picked
  have picks := Selection.pick?_alike own room arguments request.selection
  -- the two picks are known to be alike only together, so they are split together
  generalize request.selection.pick? operator arguments first = picked at smaller picks ⊢
  generalize request.selection.pick? operator arguments second = otherPicked at picks ⊢
  cases picks with
  | none => exact .ok Sql.null
  | @some target otherTarget related =>
      obtain ⟨rule, place⟩ := target
      obtain ⟨otherRule, otherPlace⟩ := otherTarget
      obtain ⟨rfl, alike⟩ := related
      exact inside rule (smaller _ rfl) place otherPlace alike request.scope request.hint

/-- An operator is applied alike if what is inside of the operation compiles alike. -/
theorem moved_apply
    (replies : context.Replies)
    {operator : String}
    {arguments : Rule}
    {first second : Position}
    {path : Path}
    (own : first.operationPath operator = base.join path)
    (otherOwn : second.operationPath operator = other.join path)
    (room : second.depth + strict ≤ first.depth + lax)
    (inside : ∀ inner : Rule, sizeOf inner < sizeOf (Rule.operation operator arguments) →
      inner.CompilesAlike context base other strict lax)
    (scope : Scope) :
    Moved base other
      ((context.withMaxDepth strict).apply ⟨operator, arguments, base.join path⟩ scope
        (operandsAt (context.withMaxDepth strict) operator arguments first))
      ((context.withMaxDepth lax).apply ⟨operator, arguments, other.join path⟩ scope
        (operandsAt (context.withMaxDepth lax) operator arguments second)) := by
  rw [Context.apply_eq, Context.apply_eq]
  simp only [Context.withMaxDepth]
  split
  · rename_i handler registered
    apply moved_callCustom replies own otherOwn room registered
    intro operand member
    exact inside operand (Rule.sizeOf_child_lt
      (show operand ∈ (Rule.operation operator arguments).children from member))
  · cases Operator.ofName? operator with
    | none => exact .error (Call.error ⟨operator, arguments, path⟩ (.unsupportedOperator operator))
    | some known =>
        have plans (base : Path) := known.plan_movedTo base ⟨context.schema, scope⟩
          ⟨operator, arguments, path⟩ context.dialect
        simp only [Call.movedTo] at plans
        simp only [plans]
        exact Moved.run (moved_answer ⟨path, own, otherOwn⟩ room inside) _

/-- An operation compiles alike from two places of its own. -/
theorem moved_operation
    (replies : context.Replies)
    {operator : String}
    {arguments : Rule}
    {first second : Position}
    (own : Path.Alike base other (first.operationPath operator) (second.operationPath operator))
    (room : second.depth + strict ≤ first.depth + lax)
    (inside : ∀ inner : Rule, sizeOf inner < sizeOf (Rule.operation operator arguments) →
      inner.CompilesAlike context base other strict lax)
    (scope : Scope)
    (hint otherHint : Option FieldType) :
    Moved base other
      (compileAt (context.withMaxDepth strict) (.operation operator arguments) first scope hint)
      (compileAt (context.withMaxDepth lax) (.operation operator arguments) second scope
        otherHint) := by
  rw [compileAt_operation, compileAt_operation, Context.operation_eq, Context.operation_eq]
  by_cases deep : (context.withMaxDepth strict).maxDepth < first.depth
  · rw [if_pos deep]
    exact .tooDeep rfl _
  · have fits : ¬ (context.withMaxDepth lax).maxDepth < second.depth := by
      simp only [Context.withMaxDepth] at deep ⊢
      omega
    rw [if_neg deep, if_neg fits]
    obtain ⟨path, ownPath, otherPath⟩ := own
    rw [ownPath, otherPath]
    exact (moved_apply replies ownPath otherPath room inside scope).completedBy operator path

/-- Every rule compiles alike at positions that are alike. -/
theorem Rule.compilesAlike (replies : context.Replies) (rule : Rule) :
    rule.CompilesAlike context base other strict lax := by
  intro first second alike scope hint
  match rule with
  | .null | .bool _ | .number _ | .string _ => exact .ok _
  | .list items =>
      refine (Moved.compileEach fun index => ?_).bind fun _ => .ok _
      rw [itemCompilers_getElem?, itemCompilers_getElem?]
      cases found : items[index]? with
      | none => exact .none
      | some item =>
          have smaller := List.sizeOf_lt_of_mem (List.mem_of_getElem? found)
          apply Option.Rel.some
          apply item.compilesAlike replies
          exact .inside alike.valuePath alike.room (some (0 + index))
  | .operation operator arguments =>
      refine moved_operation replies (alike.operationPath operator) alike.room ?_ scope hint hint
      exact fun inner smaller => inner.compilesAlike replies
termination_by sizeOf rule

/-- An operation compiles alike at any two places, the second of which leaves no less room. -/
theorem moved_placements
    (replies : context.Replies)
    {first second : Position}
    (room : second.depth + strict ≤ first.depth + lax)
    (operator : String)
    (arguments : Rule)
    (scope : Scope)
    (hint otherHint : Option FieldType) :
    Moved (first.operationPath operator) (second.operationPath operator)
      (compileAt (context.withMaxDepth strict) (.operation operator arguments) first scope hint)
      (compileAt (context.withMaxDepth lax) (.operation operator arguments) second scope
        otherHint) :=
  moved_operation replies (.refl _ _) room (fun inner _ => inner.compilesAlike replies) scope hint
    otherHint

/-! ## Null tests -/

namespace Target

variable {target : Target} {operator : String} {arguments : Rule} {text : String} {limit : Nat}

/-- What compiles with one limit compiles to the same with every limit that it fits. -/
theorem condition_of_fits
    {rule : Rule}
    (compiled : target.condition (.rule rule) = .ok text)
    (fits : rule.Fits 0 limit) :
    (target.withMaxDepth limit).condition (.rule rule) = .ok text := by
  obtain ⟨expression, compiled, rendered⟩ := (condition_rule_eq_ok_iff _ _ _).mp compiled
  rw [condition_rule_eq_ok_iff]
  refine ⟨expression, ?_, rendered⟩
  change (target.context.withMaxDepth target.maxDepth).compile rule = .ok expression at compiled
  change (target.context.withMaxDepth limit).compile rule = .ok expression
  rcases Nat.le_total limit target.maxDepth with smaller | larger
  · have relaxed := target.context.relaxed_compile smaller rule
    rw [compiled] at relaxed
    generalize outcome : (target.context.withMaxDepth limit).compile rule = result at relaxed ⊢
    cases relaxed with
    | same => rfl
    | tooDeep deep =>
        have failed := (condition_rule_eq_error_iff (target.withMaxDepth limit) rule _).mpr outcome
        exact absurd fits (not_fits_of_condition failed deep)
  · have relaxed := target.context.relaxed_compile larger rule
    rw [compiled] at relaxed
    generalize (target.context.withMaxDepth limit).compile rule = result at relaxed ⊢
    cases relaxed with
    | same => rfl

/-- An operation that compiles by itself compiles to the same where it is one level further in. -/
theorem compileAt_of_condition
    (compiled : target.condition (.rule (.operation operator arguments)) = .ok text)
    (deeper : target.maxDepth < limit)
    (path : Path)
    (index : Option Nat) :
    ∃ expression, expression.render target.dialect = text ∧
      compileAt (target.withMaxDepth limit).context (.operation operator arguments)
        ⟨path, index, 1⟩ .row none = .ok expression := by
  obtain ⟨expression, compiled, rendered⟩ := (condition_rule_eq_ok_iff _ _ _).mp compiled
  refine ⟨expression, rendered, ?_⟩
  change compileAt (target.context.withMaxDepth target.maxDepth) (.operation operator arguments)
    .start .row none = .ok expression at compiled
  change compileAt (target.context.withMaxDepth limit) (.operation operator arguments)
    ⟨path, index, 1⟩ .row none = .ok expression
  have room : 1 + target.maxDepth ≤ Position.start.depth + limit := by
    simp only [Position.start]
    omega
  have moved := @moved_placements _ _ _ target.replies_context .start ⟨path, index, 1⟩ room
    operator arguments .row none none
  rw [compiled] at moved
  exact moved.eq_ok

/-- An operation that compiles by itself can be tested for null, one level further in. -/
theorem condition_null_test
    {equality : Operator}
    {symbol : BinaryOp}
    {nullTest : Test}
    (plan : ∀ dialect setting call,
      equality.plan dialect setting call = Logic.equality setting call symbol nullTest)
    (compiled : target.condition (.rule (.operation operator arguments)) = .ok text)
    (admitted : target.maxDepth < limit ∨ (Rule.operation operator arguments).Fits 1 limit) :
    (target.withMaxDepth limit).condition
        (.rule (.operation equality.name (.list [.operation operator arguments, .null]))) =
      .ok (text ++ (" " ++ nullTest.keywords)) := by
  have bare : ∃ bound < limit, (target.withMaxDepth bound).condition
      (.rule (.operation operator arguments)) = .ok text := by
    rcases admitted with deeper | fits
    · exact ⟨target.maxDepth, deeper, compiled⟩
    · have outer := ((Rule.Fits.operation_iff operator arguments).mp fits).1
      refine ⟨limit - 1, by omega, condition_of_fits compiled ?_⟩
      intro trail name operands occurs
      have levels := fits trail name operands occurs
      omega
  obtain ⟨bound, deeper, compiled⟩ := bare
  obtain ⟨subject, rendered, compiled⟩ := compileAt_of_condition compiled deeper
    (Path.start.member equality.name) (some 0)
  rw [condition_rule_eq_ok_iff]
  refine ⟨.test subject nullTest, ?_, ?_⟩
  · change compileAt (target.withMaxDepth limit).context _ .start .row none = _
    rw [compileAt_operation, Context.operation_eq_ok_iff]
    refine ⟨Nat.zero_le limit, ?_⟩
    rw [Context.apply_eq, custom_context_operator_name, Operator.ofName?_name]
    simp only [plan]
    refine Logic.run_equality_null rfl ?_
    rw [Setting.operandRequest, answer_operand rfl]
    exact compiled
  · rw [Sql.render, ← rendered, String.append_assoc]
    rfl

end Target

/-! ## Errors at two places -/

/-- One error as it is seen from two places: only the way to them is not the same. -/
structure Error.SameFrom (base other : Path) (first second : Error) : Prop where
  code : first.code = second.code
  operator : first.operator = second.operator
  message : first.message = second.message
  cause : first.cause = second.cause
  /-- The places are reached in the same way. -/
  path : ∃ path, first.path = some (base.join path) ∧ second.path = some (other.join path)
  /-- In their texts, one beginning stands in place of another. -/
  text : ∃ rest, first.path.map Path.text = some (base.text ++ rest) ∧
    second.path.map Path.text = some (other.text ++ rest)

namespace Error.SameFrom

theorem symm
    {first second : Error}
    (same : first.SameFrom base other second) :
    second.SameFrom other base first where
  code := same.code.symm
  operator := same.operator.symm
  message := same.message.symm
  cause := same.cause.symm
  path := by
    obtain ⟨path, located, otherLocated⟩ := same.path
    exact ⟨path, otherLocated, located⟩
  text := by
    obtain ⟨rest, written, otherWritten⟩ := same.text
    exact ⟨rest, otherWritten, written⟩

theorem of_movedTo
    {error : Error}
    {path : Path}
    (located : error.path = some path) :
    (error.movedTo base).SameFrom base other (error.movedTo other) where
  code := rfl
  operator := rfl
  message := rfl
  cause := rfl
  path := ⟨path, by simp [Error.movedTo, located], by simp [Error.movedTo, located]⟩
  text := by
    refine ⟨(Path.here.join path).text, ?_, ?_⟩
    · simp [Error.movedTo, located, ← Path.text_join]
    · simp [Error.movedTo, located, ← Path.text_join]

end Error.SameFrom

/-- An outcome other than that something is too deep. -/
def IsShallow {α : Type} (outcome : Except Error α) : Prop :=
  ∀ error, outcome = .error error → error.code ≠ .maxDepthExceeded

/-- Two outcomes that are the same expression, or the same error as seen from two places. -/
def SameOutcome (base other : Path) (first second : Except Error Sql) : Prop :=
  (∃ expression, first = .ok expression ∧ second = .ok expression) ∨
    ∃ error otherError, first = .error error ∧ second = .error otherError ∧
      error.SameFrom base other otherError

theorem SameOutcome.symm
    {first second : Except Error Sql}
    (same : SameOutcome base other first second) :
    SameOutcome other base second first := by
  rcases same with
    ⟨expression, compiled, otherCompiled⟩ | ⟨error, otherError, failed, otherFailed, same⟩
  · exact .inl ⟨expression, otherCompiled, compiled⟩
  · exact .inr ⟨otherError, error, otherFailed, failed, same.symm⟩

/-- The error of an operation always has a place. -/
theorem exists_path_of_compileAt_operation
    (replies : context.Replies)
    {operator : String}
    {arguments : Rule}
    {position : Position}
    {scope : Scope}
    {hint : Option FieldType}
    {error : Error}
    (failed :
      compileAt context (.operation operator arguments) position scope hint = .error error) :
    ∃ path, error.path = some path := by
  obtain ⟨origin, reason, _, raises, retells⟩ := Job.exists_origin replies
    (show Job.outcome context ⟨.operation operator arguments, position, scope, hint⟩ =
      .error error from failed)
  obtain ⟨_, _, path, _, located, _⟩ := raises.owned
  exact ⟨path, retells.path.trans located⟩

/-- The deeper of two places is the one that may be too deep; otherwise the outcome is the same. -/
theorem sameOutcome_of_le
    (replies : context.Replies)
    {operator : String}
    {arguments : Rule}
    {first second : Position}
    {scope : Scope}
    {hint otherHint : Option FieldType}
    (deeper : second.depth ≤ first.depth)
    (shallow : IsShallow
      (compileAt context (.operation operator arguments) first scope hint)) :
    SameOutcome (first.operationPath operator) (second.operationPath operator)
      (compileAt context (.operation operator arguments) first scope hint)
      (compileAt context (.operation operator arguments) second scope otherHint) := by
  have moved := moved_placements replies (Nat.add_le_add_right deeper context.maxDepth)
    operator arguments scope hint otherHint
  change Moved _ _ (compileAt context (.operation operator arguments) first scope hint)
    (compileAt context (.operation operator arguments) second scope otherHint) at moved
  generalize outcome : compileAt context (.operation operator arguments) first scope hint = result
    at moved shallow ⊢
  generalize compileAt context (.operation operator arguments) second scope otherHint = otherResult
    at moved ⊢
  cases moved with
  | ok expression => exact .inl ⟨expression, rfl, rfl⟩
  | error error =>
      obtain ⟨path, located⟩ := exists_path_of_compileAt_operation replies outcome
      obtain ⟨relative, found, _⟩ := Option.map_eq_some_iff.mp located
      exact .inr ⟨_, _, rfl, rfl, .of_movedTo found⟩
  | tooDeep deep => exact absurd deep (shallow _ rfl)

/--
Operations compile alike wherever they stand.  At two places, unless it is too deep at
one of them, an operation gives the same expression or the same error, whose path is
found from the operation in the same way.  So an operation that compiles by itself has
the same text before a null test, if the limit admits one level more.
-/
theorem compileAt_alike_wherever_placed
    (target : Target)
    (operator : String)
    (arguments : Rule) :
    (∀ (first second : Position) (scope : Scope) (hint otherHint : Option FieldType),
      IsShallow
        (compileAt target.context (.operation operator arguments) first scope hint) →
      IsShallow
        (compileAt target.context (.operation operator arguments) second scope otherHint) →
      SameOutcome (first.operationPath operator) (second.operationPath operator)
        (compileAt target.context (.operation operator arguments) first scope hint)
        (compileAt target.context (.operation operator arguments) second scope otherHint)) ∧
    ∀ (text : String) (limit : Nat),
      target.condition (.rule (.operation operator arguments)) = .ok text →
      (target.maxDepth < limit ∨ (Rule.operation operator arguments).Fits 1 limit) →
      (target.withMaxDepth limit).condition
          (.rule (.operation "==" (.list [.operation operator arguments, .null]))) =
        .ok (text ++ " IS NULL") ∧
      (target.withMaxDepth limit).condition
          (.rule (.operation "!=" (.list [.operation operator arguments, .null]))) =
        .ok (text ++ " IS NOT NULL") := by
  constructor
  · intro first second scope hint otherHint shallow otherShallow
    rcases Nat.le_total second.depth first.depth with deeper | deeper
    · exact sameOutcome_of_le target.replies_context deeper shallow
    · exact (sameOutcome_of_le target.replies_context deeper otherShallow).symm
  · intro text limit compiled admitted
    constructor
    · exact @Target.condition_null_test _ _ _ _ _ .equal .equal .isNull
        (fun _ _ _ => rfl) compiled admitted
    · exact @Target.condition_null_test _ _ _ _ _ .notEqual .notEqual .isNotNull
        (fun _ _ _ => rfl) compiled admitted

/-- The place of the search as the second operand of a conjunction. -/
def searchPlace : Position :=
  ⟨Path.start.member "and", some 1, 1⟩

/-- The failure of the custom operator in the search where it stands by itself. -/
def bareRatingError : Error :=
  { ratingError with
    path := some (((Path.start.member "in").item 1).member "rate" |>.item 1) }

/-- The greater of a field and a sum, which has two levels. -/
def greaterOfSum : Rule :=
  .operation "max" (.list
    [.operation "var" (.string "a"),
     .operation "+" (.list [.operation "var" (.string "b"), .operation "var" (.string "c")])])

theorem compileAt_alike_ratedSearch :
    compileAt ratingTarget.context ratedSearch .start .row none = .error bareRatingError ∧
    compileAt ratingTarget.context ratedSearch searchPlace .row none = .error ratingError ∧
    SameOutcome (.member .start "in") (.item (.member (.member .start "and") "in") 1)
      (compileAt ratingTarget.context ratedSearch .start .row none)
      (compileAt ratingTarget.context ratedSearch searchPlace .row none) ∧
    ((Target.ofDialect .spanner).withMaxDepth 3).condition
        (.rule (.operation "!=" (.list [greaterOfSum, .null]))) =
      .ok "GREATEST(a, (b + c)) IS NOT NULL" := by
  have failed : compileAt ratingTarget.context ratedSearch .start .row none =
      .error bareRatingError := rfl
  have nested : compileAt ratingTarget.context ratedSearch searchPlace .row none =
      .error ratingError := rfl
  have compiled : ((Target.ofDialect .spanner).withMaxDepth 2).condition (.rule greaterOfSum) =
      .ok "GREATEST(a, (b + c))" := rfl
  have shallow {error : Error} (other : error.code ≠ .maxDepthExceeded) :
      IsShallow (.error error : Except Error Sql) := by
    rintro _ ⟨⟩
    exact other
  have same := (compileAt_alike_wherever_placed ratingTarget "in" _).1 .start searchPlace .row
    none none (failed ▸ shallow (by decide)) (nested ▸ shallow (by decide))
  have tested := (compileAt_alike_wherever_placed _ _ _).2 _ 3 compiled (.inl (by decide))
  exact ⟨failed, nested, same, tested.2⟩

end RuleClause
