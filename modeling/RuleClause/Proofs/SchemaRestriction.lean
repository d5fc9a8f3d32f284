import RuleClause.Proofs.Plan.Restriction
import RuleClause.Proofs.Target

/-!
# A schema only restricts

A rule of built-in operators is compiled with a schema as it is without: either
both compilations give a condition, or both fail with the same error, unless the
schema objects to a field, to its type or to a value.  So a schema may refuse a
rule, but it never admits one that would be refused without it.
-/

namespace RuleClause

open Plan (anyTwo)

/-- The same compilation with another schema, or with none. -/
def Context.withSchema
    {m : Type → Type}
    (context : Context m)
    (schema : Option Schema) : Context m :=
  { context with schema := schema }

variable {context : Context (Except Error)} {schema : Schema}

/-- Results stay beside each other when errors are completed in the same way. -/
theorem Narrowed.completedBy
    {α β : Type}
    {related : α → β → Prop}
    {free : Except Error α}
    {bound : Except Error β}
    (narrowed : Narrowed related free bound)
    (operator : String)
    (path : Path) :
    Narrowed related (free.mapError (·.completedBy operator path))
      (bound.mapError (·.completedBy operator path)) := by
  cases narrowed with
  | ok values => exact .ok values
  | error error => exact .error _
  | objection objects => exact .objection (by rwa [Error.code_completedBy])

/-- Items are compiled beside each other if each of them is. -/
theorem narrowed_compileEach
    {items : List Rule}
    {scope : Scope}
    {freeHint boundHint : Option FieldType}
    (each : ∀ item ∈ items, ∀ position,
      Narrowed anyTwo (compileAt (context.withSchema none) item position scope freeHint)
        (compileAt (context.withSchema (some schema)) item position scope boundHint))
    (path : Path)
    (depth index : Nat) :
    Narrowed anyTwo
      (compileEach scope freeHint
        (itemCompilers (context.withSchema none) items path depth index))
      (compileEach scope boundHint
        (itemCompilers (context.withSchema (some schema)) items path depth index)) := by
  induction items generalizing index with
  | nil => exact .ok trivial
  | cons item rest inductionHypothesis =>
      refine (each item (by simp) _).bind fun _ _ _ => ?_
      refine (inductionHypothesis (fun item member => each item (by simp [member])) _).bind ?_
      exact fun _ _ _ => .ok trivial

/-- A built-in or unknown operator, where the operands are compiled beside each other. -/
theorem narrowed_operation
    {operator : String}
    {arguments : Rule}
    {position : Position}
    {scope : Scope}
    (builtin : context.custom operator = none)
    (picks : ∀ selection inner place freeHint boundHint scope,
      Selection.pick? operator arguments position selection = some (inner, place) →
        Narrowed anyTwo (compileAt (context.withSchema none) inner place scope freeHint)
          (compileAt (context.withSchema (some schema)) inner place scope boundHint)) :
    Narrowed anyTwo
      ((context.withSchema none).operation operator arguments position scope
        (operandsAt (context.withSchema none) operator arguments position))
      ((context.withSchema (some schema)).operation operator arguments position scope
        (operandsAt (context.withSchema (some schema)) operator arguments position)) := by
  rw [Context.operation_eq, Context.operation_eq]
  by_cases deep : context.maxDepth < position.depth
  · simpa [Context.withSchema, deep] using Narrowed.error _
  · have fits (schema : Option Schema) :
        ¬ (context.withSchema schema).maxDepth < position.depth := deep
    rw [if_neg (fits none), if_neg (fits (some schema))]
    refine Narrowed.completedBy ?_ operator (position.operationPath operator)
    rw [Context.apply_eq, Context.apply_eq]
    simp only [Context.withSchema, builtin]
    cases Operator.ofName? operator with
    | none => exact .error _
    | some known =>
        refine (known.narrows_plan context.dialect).run fun selection scope freeHint boundHint => ?_
        rw [answer_operandsAt, answer_operandsAt]
        cases picked : selection.pick? operator arguments position with
        | none => exact .ok trivial
        | some target => exact picks selection target.1 target.2 _ _ _ picked

/-- Rules of built-in operators are compiled beside each other with and without a schema. -/
theorem narrowed_compileAt
    {rule : Rule}
    (builtin : ∀ operator arguments, rule.Contains (.operation operator arguments) →
      context.custom operator = none)
    (position : Position)
    (scope : Scope)
    (freeHint boundHint : Option FieldType) :
    Narrowed anyTwo (compileAt (context.withSchema none) rule position scope freeHint)
      (compileAt (context.withSchema (some schema)) rule position scope boundHint) := by
  match rule with
  | .null | .bool _ | .number _ | .string _ => exact .ok trivial
  | .list items =>
      simp only [compileAt]
      refine (narrowed_compileEach (fun item member place => ?_) _ _ 0).bind ?_
      · have inside : (Rule.list items).Contains item := .of_mem_children member
        have smaller := Rule.sizeOf_child_lt (show item ∈ (Rule.list items).children from member)
        exact narrowed_compileAt
          (fun operator arguments nested => builtin operator arguments (inside.trans nested))
          place scope freeHint boundHint
      · exact fun _ _ _ => .ok trivial
  | .operation operator arguments =>
      rw [compileAt_operation, compileAt_operation]
      refine narrowed_operation (builtin operator arguments (.refl _)) ?_
      intro selection inner place freeHint boundHint scope picked
      have inside := Selection.contains_of_pick? picked
      have smaller := Selection.sizeOf_lt_of_pick? picked
      exact narrowed_compileAt
        (fun operator arguments nested => builtin operator arguments (inside.trans nested))
        place scope freeHint boundHint
termination_by sizeOf rule

/-- Conditions stand beside each other with and without a schema. -/
theorem narrowed_condition
    {target : Target}
    {rule : Rule}
    (builtin : ∀ operator arguments, rule.Contains (.operation operator arguments) →
      target.registry.has operator = false)
    (schema : Schema) :
    Narrowed anyTwo ((target.withSchema none).condition (.rule rule))
      ((target.withSchema (some schema)).condition (.rule rule)) := by
  have compiled : Narrowed anyTwo ((target.context.withSchema none).compile rule)
      ((target.context.withSchema (some schema)).compile rule) := by
    cases rule with
    | operation operator arguments =>
        refine narrowed_compileAt (fun operator arguments inside => ?_) .start .row none none
        exact Target.custom_context_eq_none (builtin operator arguments inside)
    | null | bool | number | string | list => exact .error _
  exact compiled.bind fun _ _ _ => .ok trivial

/--
A schema only restricts.  A rule of built-in operators that gives a condition
without a schema gives one with it, unless the schema objects; one that fails
without a schema fails with it, by the same error unless the schema objects; and
one that gives a condition with the schema gives one without.
-/
theorem schema_restricts_condition
    (target : Target)
    (schema : Schema)
    (rule : Rule)
    (builtin : ∀ operator arguments, rule.Contains (.operation operator arguments) →
      target.registry.has operator = false) :
    (∀ text, (target.withSchema none).condition (.rule rule) = .ok text →
      (∃ other, (target.withSchema (some schema)).condition (.rule rule) = .ok other) ∨
        ∃ error, (target.withSchema (some schema)).condition (.rule rule) = .error error ∧
          error.code ∈ ErrorCode.objections) ∧
    (∀ error, (target.withSchema none).condition (.rule rule) = .error error →
      ∃ other, (target.withSchema (some schema)).condition (.rule rule) = .error other ∧
        (other = error ∨ other.code ∈ ErrorCode.objections)) ∧
    (∀ text, (target.withSchema (some schema)).condition (.rule rule) = .ok text →
      ∃ other, (target.withSchema none).condition (.rule rule) = .ok other) := by
  have narrowed := narrowed_condition builtin schema
  generalize (target.withSchema none).condition (.rule rule) = free at narrowed ⊢
  generalize (target.withSchema (some schema)).condition (.rule rule) = bound at narrowed ⊢
  cases narrowed with
  | @ok free bound _ =>
      refine ⟨fun _ _ => .inl ⟨bound, rfl⟩, fun _ failed => ?_, fun _ _ => ⟨free, rfl⟩⟩
      cases failed
  | error error =>
      refine ⟨fun _ ended => ?_, fun _ failed => ⟨error, rfl, ?_⟩, fun _ ended => ?_⟩
      · cases ended
      · exact .inl (Except.error.inj failed)
      · cases ended
  | @objection _ error objects =>
      refine ⟨fun _ _ => .inr ⟨error, rfl, objects⟩, fun _ _ => ⟨error, rfl, .inr objects⟩, ?_⟩
      intro _ ended
      cases ended

/-- Fields of an order. -/
def orderSchema : Schema :=
  (Schema.ofFields
    [⟨"state", .enum, ["open", "paid"]⟩, ⟨"notes", .string, []⟩]).toOption.getD
      .empty

/-- An order in a state that does not exist, with a certain note. -/
def withdrawnOrder : Rule :=
  .operation "and" (.list
    [.operation "in" (.list [.string "gift", .operation "var" (.string "notes")]),
     .operation "==" (.list [.operation "var" (.string "state"), .string "withdrawn"])])

theorem schema_restricts_withdrawnOrder :
    ((Target.ofDialect .bigQuery).withSchema none).condition (.rule withdrawnOrder) =
      .ok "('gift' IN UNNEST(notes) AND state = 'withdrawn')" ∧
    ((∃ other, ((Target.ofDialect .bigQuery).withSchema (some orderSchema)).condition
        (.rule withdrawnOrder) = .ok other) ∨
      ∃ error, ((Target.ofDialect .bigQuery).withSchema (some orderSchema)).condition
          (.rule withdrawnOrder) = .error error ∧
        error.code ∈ ErrorCode.objections) := by
  have compiled : ((Target.ofDialect .bigQuery).withSchema none).condition
      (.rule withdrawnOrder) =
        .ok "('gift' IN UNNEST(notes) AND state = 'withdrawn')" := rfl
  have restricts :=
    schema_restricts_condition (.ofDialect .bigQuery) orderSchema withdrawnOrder
      fun _ _ _ => rfl
  exact ⟨compiled, restricts.1 _ compiled⟩

end RuleClause
