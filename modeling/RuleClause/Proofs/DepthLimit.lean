import RuleClause.Proofs.Rule.Conversion
import RuleClause.Proofs.Target

/-!
# The limit on nesting only refuses

Three stages keep to the limit: the scan of the brackets of a text, the reading of a
JSON value, and the compilation of a rule.  With a larger limit each of them comes to
the same outcome, unless it found its input too deep.  Other faults may be found before
or after that one, so outcomes are compared at every step and not only at the end.
-/

namespace RuleClause

/-- The second outcome is the first one, unless the first is that something is too deep. -/
inductive Relaxed {α : Type} : Except Error α → Except Error α → Prop
  | same (outcome : Except Error α) : Relaxed outcome outcome
  | tooDeep
      {error : Error}
      (deep : error.code = .maxDepthExceeded)
      (outcome : Except Error α) :
      Relaxed (.error error) outcome

namespace Relaxed

variable {α β : Type}

theorem bind
    {strict lax : Except Error α}
    {strictNext laxNext : α → Except Error β}
    (relaxed : Relaxed strict lax)
    (next : ∀ value, Relaxed (strictNext value) (laxNext value)) :
    Relaxed (strict >>= strictNext) (lax >>= laxNext) := by
  cases relaxed with
  | same =>
      cases strict with
      | error error => exact .same _
      | ok value => exact next value
  | tooDeep deep => exact .tooDeep deep _

theorem completedBy
    {strict lax : Except Error α}
    (relaxed : Relaxed strict lax)
    (operator : String)
    (path : Path) :
    Relaxed (strict.mapError (·.completedBy operator path))
      (lax.mapError (·.completedBy operator path)) := by
  cases relaxed with
  | same => exact .same _
  | @tooDeep error deep outcome =>
      rw [← Error.code_completedBy error operator path] at deep
      exact .tooDeep deep _

theorem eq_of_shallow
    {strict lax : Except Error α}
    (relaxed : Relaxed strict lax)
    (shallow : ∀ error, strict = .error error → error.code ≠ .maxDepthExceeded) :
    lax = strict := by
  cases relaxed with
  | same => rfl
  | tooDeep deep => exact absurd deep (shallow _ rfl)

end Relaxed

variable {limit larger : Nat}

/-! ## Brackets -/

/-- Brackets that nest deeper than a limit nest deeper than every smaller one. -/
theorem Json.bracketsExceedFrom_of_le
    (le : limit ≤ larger)
    {quoting : Quoting}
    {depth : Nat}
    {characters : List Char}
    (exceed : bracketsExceedFrom larger quoting depth characters = true) :
    bracketsExceedFrom limit quoting depth characters = true := by
  induction characters generalizing quoting depth with
  | nil => cases quoting <;> simp [bracketsExceedFrom] at exceed
  | cons character rest inductionHypothesis =>
      cases quoting with
      | escaped => exact inductionHypothesis exceed
      | inside =>
          rw [bracketsExceedFrom] at exceed ⊢
          split_ifs at exceed ⊢ <;> exact inductionHypothesis exceed
      | outside =>
          rw [bracketsExceedFrom] at exceed ⊢
          split_ifs at exceed ⊢ <;> first | rfl | omega | exact inductionHypothesis exceed

/-! ## Reading -/

namespace Rule

theorem relaxed_checkDepth (le : limit ≤ larger) (position : Position) :
    Relaxed (checkDepth limit position) (checkDepth larger position) := by
  unfold checkDepth
  by_cases deep : limit < position.depth
  · rw [if_pos deep]
    exact .tooDeep rfl _
  · rw [if_neg deep, if_neg (by omega)]
    exact .same _

mutual

theorem relaxed_ofJsonAt (le : limit ≤ larger) (value : Json) (position : Position) :
    Relaxed (ofJsonAt limit value position) (ofJsonAt larger value position) := by
  match value with
  | .null | .bool _ | .number _ | .string _ =>
      exact (relaxed_checkDepth le position).bind fun _ => .same _
  | .array items =>
      refine (relaxed_checkDepth le position).bind fun _ => ?_
      exact (relaxed_ofJsonItems le items _ _ _).bind fun _ => .same _
  | .object members =>
      obtain ⟨operator, items, rfl⟩ | ⟨operator, argument, rfl, single⟩ | count :=
        Json.members_cases members
      · refine (relaxed_checkDepth le position).bind fun _ => ?_
        exact (relaxed_ofJsonItems le items _ _ _).bind fun _ => .same _
      · rw [ofJsonAt_bare limit operator single, ofJsonAt_bare larger operator single]
        refine (relaxed_checkDepth le position).bind fun _ => ?_
        exact (relaxed_ofJsonAt le argument _).bind fun _ => .same _
      · rw [ofJsonAt_keyCount limit count, ofJsonAt_keyCount larger count]
        exact (relaxed_checkDepth le position).bind fun _ => .same _
termination_by sizeOf value

theorem relaxed_ofJsonItems
    (le : limit ≤ larger)
    (items : List Json)
    (path : Path)
    (depth index : Nat) :
    Relaxed (ofJsonItems limit items path depth index)
      (ofJsonItems larger items path depth index) := by
  match items with
  | [] => exact .same _
  | item :: rest =>
      refine (relaxed_ofJsonAt le item _).bind fun _ => ?_
      exact (relaxed_ofJsonItems le rest path depth (index + 1)).bind fun _ => .same _
termination_by sizeOf items

end

end Rule

/-! ## Compiling -/

/-- A plan comes to the same end if its requests are met in the same way. -/
theorem Plan.relaxed_run
    {α : Type}
    {strict lax : Request → Except Error Sql}
    (each : ∀ request, Relaxed (strict request) (lax request))
    (plan : Plan α) :
    Relaxed (plan.run strict) (plan.run lax) := by
  induction plan with
  | done value => exact .same _
  | fail error => exact .same _
  | ask request next inductionHypothesis => exact (each request).bind inductionHypothesis

theorem relaxed_compileEach
    {scope : Scope}
    {hint : Option FieldType}
    {strict lax : List (Compiler (Except Error))}
    (each : ∀ index : Nat, Option.Rel
      (fun first second => Relaxed (first scope hint) (second scope hint))
      strict[index]? lax[index]?) :
    Relaxed (compileEach scope hint strict) (compileEach scope hint lax) := by
  induction strict generalizing lax with
  | nil =>
      cases lax with
      | nil => exact .same _
      | cons => cases each 0
  | cons first rest inductionHypothesis =>
      cases lax with
      | nil => cases each 0
      | cons second others =>
          obtain ⟨head⟩ := each 0
          refine head.bind fun _ => ?_
          refine (inductionHypothesis fun index => each (index + 1)).bind fun _ => .same _

/-- The same compilation with another limit on nesting. -/
def Context.withMaxDepth
    {m : Type → Type}
    (context : Context m)
    (maxDepth : Nat) : Context m :=
  { context with maxDepth := maxDepth }

variable {context : Context (Except Error)}

/-- An operation whose operands and their parts are compiled alike. -/
theorem relaxed_operation
    (le : limit ≤ larger)
    {operator : String}
    {arguments : Rule}
    {position : Position}
    {scope : Scope}
    (picks : ∀ selection inner place scope hint,
      Selection.pick? operator arguments position selection = some (inner, place) →
        Relaxed (compileAt (context.withMaxDepth limit) inner place scope hint)
          (compileAt (context.withMaxDepth larger) inner place scope hint)) :
    Relaxed
      ((context.withMaxDepth limit).operation operator arguments position scope
        (operandsAt (context.withMaxDepth limit) operator arguments position))
      ((context.withMaxDepth larger).operation operator arguments position scope
        (operandsAt (context.withMaxDepth larger) operator arguments position)) := by
  rw [Context.operation_eq, Context.operation_eq]
  by_cases deep : limit < position.depth
  · have below : (context.withMaxDepth limit).maxDepth < position.depth := deep
    rw [if_pos below]
    exact .tooDeep rfl _
  · have shallow (bound : Nat) (within : limit ≤ bound) :
        ¬ (context.withMaxDepth bound).maxDepth < position.depth := by
      change ¬ bound < position.depth
      omega
    rw [if_neg (shallow limit (Nat.le_refl _)), if_neg (shallow larger le)]
    apply Relaxed.completedBy
    rw [Context.apply_eq, Context.apply_eq]
    simp only [Context.withMaxDepth]
    split
    · rename_i handler registered
      refine (relaxed_compileEach fun index => ?_).bind fun _ => .same _
      rw [List.getElem?_map, List.getElem?_map, operandsAt_getElem?, operandsAt_getElem?]
      cases found : arguments.operands[index]? with
      | none => exact .none
      | some operand =>
          apply Option.Rel.some
          apply picks (.operand index) operand _ scope none
          rw [Selection.pick?, found, Option.map_some]
    · cases Operator.ofName? operator with
      | none => exact .same _
      | some known =>
          refine Plan.relaxed_run (fun request => ?_) _
          rw [answer_operandsAt, answer_operandsAt]
          cases picked : request.selection.pick? operator arguments position with
          | none => exact .same _
          | some target => exact picks request.selection target.1 target.2 _ _ picked

theorem relaxed_compileAt
    (le : limit ≤ larger)
    (rule : Rule)
    (position : Position)
    (scope : Scope)
    (hint : Option FieldType) :
    Relaxed (compileAt (context.withMaxDepth limit) rule position scope hint)
      (compileAt (context.withMaxDepth larger) rule position scope hint) := by
  match rule with
  | .null | .bool _ | .number _ | .string _ => exact .same _
  | .list items =>
      refine (relaxed_compileEach fun index => ?_).bind fun _ => .same _
      rw [itemCompilers_getElem?, itemCompilers_getElem?]
      cases found : items[index]? with
      | none => exact .none
      | some item =>
          have smaller := List.sizeOf_lt_of_mem (List.mem_of_getElem? found)
          exact .some (relaxed_compileAt le item _ scope hint)
  | .operation operator arguments =>
      -- a plan may ask for a part of an operand, so the recursion is on the size of rules
      rw [compileAt_operation, compileAt_operation]
      refine relaxed_operation le fun selection inner place scope hint picked => ?_
      have smaller := Selection.sizeOf_lt_of_pick? picked
      exact relaxed_compileAt le inner place scope hint
termination_by sizeOf rule

/-! ## Conditions -/

namespace Context

variable (context)

theorem relaxed_readText (le : limit ≤ larger) (text : String) :
    Relaxed ((context.withMaxDepth limit).readText text)
      ((context.withMaxDepth larger).readText text) := by
  unfold readText
  by_cases exceed : Json.bracketsExceed (context.withMaxDepth limit).bracketLimit text = true
  · rw [if_pos exceed]
    exact .tooDeep rfl _
  · have wider : (context.withMaxDepth limit).bracketLimit ≤
        (context.withMaxDepth larger).bracketLimit := by
      simp only [bracketLimit, withMaxDepth]
      omega
    have fits : ¬ Json.bracketsExceed (context.withMaxDepth larger).bracketLimit text = true :=
      fun beyond => exceed (Json.bracketsExceedFrom_of_le wider beyond)
    rw [if_neg exceed, if_neg fits]
    exact .same _

theorem relaxed_readRule (le : limit ≤ larger) (source : Source) :
    Relaxed ((context.withMaxDepth limit).readRule source)
      ((context.withMaxDepth larger).readRule source) := by
  cases source with
  | text text =>
      apply (relaxed_readText context le text).bind
      intro value
      exact Rule.relaxed_ofJsonAt le value .start
  | json value => exact Rule.relaxed_ofJsonAt le value .start
  | rule rule => exact .same _

theorem relaxed_compile (le : limit ≤ larger) (rule : Rule) :
    Relaxed ((context.withMaxDepth limit).compile rule)
      ((context.withMaxDepth larger).compile rule) := by
  cases rule with
  | operation operator arguments => exact relaxed_compileAt le _ .start .row none
  | null | bool | number | string | list => exact .same _

end Context

/--
The limit on nesting only refuses.  A source that is not too deep for a limit has the
same outcome with every larger one, be it a condition or an error.
-/
theorem condition_withMaxDepth_eq
    (target : Target)
    (limit larger : Nat)
    (le : limit ≤ larger)
    (source : Source)
    (shallow : ∀ error, (target.withMaxDepth limit).condition source = .error error →
      error.code ≠ .maxDepthExceeded) :
    (target.withMaxDepth larger).condition source =
      (target.withMaxDepth limit).condition source := by
  have relaxed : Relaxed ((target.withMaxDepth limit).condition source)
      ((target.withMaxDepth larger).condition source) := by
    rw [Target.condition_eq, Target.condition_eq]
    apply (target.context.relaxed_readRule le source).bind
    intro rule
    exact (target.context.relaxed_compile le rule).bind fun _ => .same _
  exact relaxed.eq_of_shallow shallow

/-- A rule with four levels, as text with brackets inside of a string. -/
def bracketedText : String :=
  "\x7b \"or\": [\x7b\"in\": [\"]]]\\\"[\", [\"a\", \x7b\"var\": \"b\"\x7d]]\x7d] \x7d"

theorem condition_withMaxDepth_bracketedText :
    (((Target.ofDialect .duckDB).withMaxDepth 4).condition (.text bracketedText)).toOption =
      some "']]]\"[' IN ('a', b)" ∧
    ((Target.ofDialect .duckDB).withMaxDepth 7).condition (.text bracketedText) =
      ((Target.ofDialect .duckDB).withMaxDepth 4).condition (.text bracketedText) := by
  have compiled :
      (((Target.ofDialect .duckDB).withMaxDepth 4).condition (.text bracketedText)).toOption =
        some "']]]\"[' IN ('a', b)" := by decide +kernel
  refine ⟨compiled, condition_withMaxDepth_eq _ 4 7 (by decide) _ ?_⟩
  intro error failed
  rw [failed] at compiled
  cases compiled

end RuleClause
