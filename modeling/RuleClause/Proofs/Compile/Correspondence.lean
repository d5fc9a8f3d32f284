import RuleClause.Proofs.Compile.Success
import RuleClause.Proofs.Plan.InsideIteration
import RuleClause.Proofs.Plan.Requests
import RuleClause.Target

/-!
# Compilations beside each other

A compilation runs in any monad with errors, and only its custom operators and the sums
that it takes say which steps are taken in that monad.  So two compilations of one rule,
be it in two monads, go the same way if their custom operators and their sums do.  It is
enough that they agree on the operators that occur in the rule, on the schema where names
refer to columns, and on the dialect where an operator looks at it.
-/

namespace RuleClause

/-- What is read depends on the limit on nesting only. -/
theorem Context.readRule_eq
    {m n : Type → Type}
    {first : Context m}
    {second : Context n}
    (maxDepth : first.maxDepth = second.maxDepth)
    (source : Source) :
    first.readRule source = second.readRule source := by
  cases source with
  | text text =>
      simp only [readRule, readText, bracketLimit, maxDepth]
      rfl
  | json value => simp only [readRule, maxDepth]
  | rule rule => rfl

/-- A relation between the computations of two monads that is kept by every step. -/
structure Correspondence
    (m n : Type → Type)
    [Monad m] [MonadExceptOf Error m]
    [Monad n] [MonadExceptOf Error n] where
  /-- Two computations correspond. -/
  related : {α : Type} → m α → n α → Prop
  pure {α : Type} (value : α) : related (Pure.pure value) (Pure.pure value)
  throw {α : Type} (error : Error) : related (throw error : m α) (throw error : n α)
  bind {α β : Type}
    {first : m α}
    {second : n α}
    {firstNext : α → m β}
    {secondNext : α → n β} :
    related first second →
    (∀ value, related (firstNext value) (secondNext value)) →
    related (first >>= firstNext) (second >>= secondNext)
  tryCatch {α : Type}
    {first : m α}
    {second : n α}
    {firstHandler : Error → m α}
    {secondHandler : Error → n α} :
    related first second →
    (∀ error, related (firstHandler error) (secondHandler error)) →
    related (tryCatch first firstHandler) (tryCatch second secondHandler)

variable
  {m n : Type → Type}
  [Monad m] [MonadExceptOf Error m]
  [Monad n] [MonadExceptOf Error n]

namespace Correspondence

/-- Computations of one monad that are the same. -/
def equality (m : Type → Type) [Monad m] [MonadExceptOf Error m] : Correspondence m m where
  related := Eq
  pure _ := rfl
  throw _ := rfl
  bind := by
    rintro _ _ first _ _ _ rfl next
    exact congrArg (first >>= ·) (funext next)
  tryCatch := by
    rintro _ first _ _ _ rfl handler
    exact congrArg (MonadExcept.tryCatch first ·) (funext handler)

/-- A custom operator corresponds to itself. -/
theorem equality_refl (custom : Option (List String → m (Except String String))) :
    Option.Rel (fun handler other => ∀ texts, (equality m).related (handler texts) (other texts))
      custom custom := by
  cases custom with
  | none => exact .none
  | some handler => exact .some fun texts => rfl

variable (correspondence : Correspondence m n)

/-- Plans end alike if the requests that they may make are met alike. -/
theorem run
    {α : Type}
    {allowed : Request → Prop}
    {first : Request → m Sql}
    {second : Request → n Sql}
    {plan : Plan α}
    (only : plan.AsksOnly allowed)
    (each : ∀ request, allowed request →
      correspondence.related (first request) (second request)) :
    correspondence.related (plan.run first) (plan.run second) := by
  induction only with
  | done value => exact correspondence.pure value
  | fail error => exact correspondence.throw error
  | ask permitted _ inductionHypothesis =>
      exact correspondence.bind (each _ permitted) inductionHypothesis

theorem compileEach
    {scope : Scope}
    {hint : Option FieldType}
    {first : List (Compiler m)}
    {second : List (Compiler n)}
    (each : ∀ index : Nat, Option.Rel
      (fun compiler other => correspondence.related (compiler scope hint) (other scope hint))
      first[index]? second[index]?) :
    correspondence.related (compileEach scope hint first) (compileEach scope hint second) := by
  induction first generalizing second with
  | nil =>
      cases second with
      | nil => exact correspondence.pure []
      | cons => cases each 0
  | cons compiler rest inductionHypothesis =>
      cases second with
      | nil => cases each 0
      | cons other others =>
          obtain ⟨head⟩ := each 0
          apply correspondence.bind head
          intro expression
          apply correspondence.bind (inductionHypothesis fun index => each (index + 1))
          exact fun expressions => correspondence.pure (expression :: expressions)

end Correspondence

variable
  [MonadOverflow m] [MonadOverflow n]
  {correspondence : Correspondence m n}
  {first : Context m}
  {second : Context n}

/--
Two ways to compile a rule whose custom operators correspond where the rule uses them.
Only reductions and custom operators look at the dialect, so that it has to be the same
where the rule uses one of these.
-/
structure Context.Corresponds
    (correspondence : Correspondence m n)
    (first : Context m)
    (second : Context n)
    (rule : Rule) : Prop where
  dialect : ∀ operator arguments, rule.Contains (.operation operator arguments) →
    operator = Operator.reduce.name ∨ (first.custom operator).isSome = true →
    first.dialect = second.dialect
  maxDepth : first.maxDepth = second.maxDepth
  custom : ∀ operator arguments, rule.Contains (.operation operator arguments) →
    Option.Rel
      (fun handler other => ∀ texts, correspondence.related (handler texts) (other texts))
      (first.custom operator) (second.custom operator)
  count : ∀ (operator : Operator) arguments path scope,
    rule.Contains (.operation operator.name arguments) →
    correspondence.related
      (first.count operator ⟨operator.name, arguments, path⟩ scope)
      (second.count operator ⟨operator.name, arguments, path⟩ scope)

theorem Context.Corresponds.inside
    {rule inner : Rule}
    (corresponds : Corresponds correspondence first second rule)
    (contains : rule.Contains inner) :
    Corresponds correspondence first second inner where
  dialect operator arguments nested :=
    corresponds.dialect operator arguments (contains.trans nested)
  maxDepth := corresponds.maxDepth
  custom operator arguments nested :=
    corresponds.custom operator arguments (contains.trans nested)
  count operator arguments path scope nested :=
    corresponds.count operator arguments path scope (contains.trans nested)

/-- An operator other than a reduction has one plan for all dialects. -/
theorem Operator.plan_eq_of_ne_reduce
    {operator : Operator}
    (other : operator ≠ .reduce)
    (setting : Setting)
    (call : Call)
    (first second : Dialect) :
    operator.plan first setting call = operator.plan second setting call := by
  cases operator with
  | reduce => contradiction
  | _ => rfl

/-- Only an operation in the scope of a row makes requests in that scope. -/
theorem Operator.MayAsk.scope_eq_row
    {dialect : Dialect}
    {scope : Scope}
    {call : Call}
    {operator : Operator}
    {request : Request}
    (may : operator.MayAsk dialect scope call request)
    (row : request.scope = .row) :
    scope = .row := by
  cases may with
  | own same => exact same.symm.trans row
  | body | fold | value => cases row

namespace Correspondence

variable
  {operator : String}
  {arguments : Rule}
  {position : Position}
  {scope : Scope}

/-- What stands behind the requests of an operation is compiled alike. -/
def Picks
    (correspondence : Correspondence m n)
    (first : Context m)
    (second : Context n)
    (operator : String)
    (arguments : Rule)
    (position : Position)
    (scope : Scope) : Prop :=
  ∀ (selection : Selection) inner place (innerScope : Scope) hint,
    selection.pick? operator arguments position = some (inner, place) →
    (innerScope = .row → scope = .row) →
    correspondence.related
      (compileAt first inner place innerScope hint)
      (compileAt second inner place innerScope hint)

theorem callCustom
    (picks : correspondence.Picks first second operator arguments position scope)
    (dialect : first.dialect = second.dialect)
    {call : Call}
    {handler : List String → m (Except String String)}
    {other : List String → n (Except String String)}
    (called : ∀ texts, correspondence.related (handler texts) (other texts)) :
    correspondence.related
      (first.callCustom call handler scope (operandsAt first operator arguments position))
      (second.callCustom call other scope (operandsAt second operator arguments position)) := by
  unfold Context.callCustom
  apply correspondence.bind
  · apply correspondence.compileEach
    intro index
    rw [List.getElem?_map, List.getElem?_map, operandsAt_getElem?, operandsAt_getElem?]
    cases found : arguments.operands[index]? with
    | none => exact .none
    | some operand =>
        apply Option.Rel.some
        refine picks (.operand index) operand _ scope none ?_ id
        rw [Selection.pick?, found, Option.map_some]
  · intro expressions
    rw [dialect]
    apply correspondence.bind (called _)
    intro reply
    cases reply with
    | ok text => exact correspondence.pure _
    | error cause => exact correspondence.throw _

theorem answer
    (picks : correspondence.Picks first second operator arguments position scope)
    {request : Request}
    (row : request.scope = .row → scope = .row) :
    correspondence.related
      (OperandCompiler.answer (operandsAt first operator arguments position) request)
      (OperandCompiler.answer (operandsAt second operator arguments position) request) := by
  rw [answer_operandsAt, answer_operandsAt]
  cases picked : request.selection.pick? operator arguments position with
  | none => exact correspondence.pure _
  | some target => exact picks request.selection target.1 target.2 _ _ picked row

theorem operation
    (corresponds : Context.Corresponds correspondence first second
      (.operation operator arguments))
    (schema : scope = .row → first.schema = second.schema)
    (picks : correspondence.Picks first second operator arguments position scope) :
    correspondence.related
      (first.operation operator arguments position scope
        (operandsAt first operator arguments position))
      (second.operation operator arguments position scope
        (operandsAt second operator arguments position)) := by
  unfold Context.operation
  simp only [corresponds.maxDepth]
  split
  · exact correspondence.throw _
  · apply correspondence.tryCatch _ fun _ => correspondence.throw _
    unfold Context.apply
    have registered := corresponds.custom operator arguments (.refl _)
    have dialect := corresponds.dialect operator arguments (.refl _)
    generalize first.custom operator = custom at registered dialect ⊢
    generalize second.custom operator = otherCustom at registered ⊢
    cases registered with
    | some called => exact callCustom picks (dialect (.inr rfl)) called
    | none =>
        cases named : Operator.ofName? operator with
        | none => exact correspondence.throw _
        | some known =>
            obtain rfl := (Operator.ofName?_eq_some_iff operator known).mp named
            apply correspondence.bind
              (corresponds.count known arguments _ scope (.refl _))
            intro _
            have plan (setting : Setting) (call : Call) :
                known.plan first.dialect setting call = known.plan second.dialect setting call := by
              by_cases reduces : known = .reduce
              · rw [dialect (.inl (congrArg Operator.name reduces))]
              · exact Operator.plan_eq_of_ne_reduce reduces setting call _ _
            simp only [plan, known.plan_eq_of_row schema second.dialect]
            apply correspondence.run (known.asksOnly_plan second.dialect)
            exact fun request may => answer picks may.scope_eq_row

end Correspondence

/-- Compilations that correspond where a rule uses custom operators give outcomes that do. -/
theorem Context.Corresponds.compileAt
    {rule : Rule}
    (corresponds : Corresponds correspondence first second rule)
    (position : Position)
    {scope : Scope}
    (schema : scope = .row → first.schema = second.schema)
    (hint : Option FieldType) :
    correspondence.related
      (RuleClause.compileAt first rule position scope hint)
      (RuleClause.compileAt second rule position scope hint) := by
  match rule with
  | .null | .bool _ | .number _ | .string _ => exact correspondence.pure _
  | .list items =>
      apply correspondence.bind
      · apply correspondence.compileEach
        intro index
        rw [itemCompilers_getElem?, itemCompilers_getElem?]
        cases found : items[index]? with
        | none => exact .none
        | some item =>
            have member := List.mem_of_getElem? found
            have smaller := List.sizeOf_lt_of_mem member
            have nested := corresponds.inside (.of_mem_children member)
            exact .some (nested.compileAt _ schema hint)
      · exact fun expressions => correspondence.pure _
  | .operation operator arguments =>
      -- a plan may ask for a part of an operand, so the recursion is on the size of rules
      rw [compileAt_operation, compileAt_operation]
      apply Correspondence.operation corresponds schema
      intro selection inner place innerScope hint picked row
      have smaller := Selection.sizeOf_lt_of_pick? picked
      have nested := corresponds.inside (Selection.contains_of_pick? picked)
      exact nested.compileAt place (fun inRow => schema (row inRow)) hint
termination_by sizeOf rule

namespace Context

theorem Corresponds.compile
    {rule : Rule}
    (corresponds : Corresponds correspondence first second rule)
    (schema : first.schema = second.schema) :
    correspondence.related (first.compile rule) (second.compile rule) := by
  cases rule with
  | operation operator arguments => exact corresponds.compileAt .start (fun _ => schema) none
  | null | bool | number | string | list => exact correspondence.throw _

/-- Conditions correspond if all compilations do. -/
theorem related_condition
    (corresponds : ∀ rule, Corresponds correspondence first second rule)
    (dialect : first.dialect = second.dialect)
    (schema : first.schema = second.schema)
    (source : Source) :
    correspondence.related (first.condition source) (second.condition source) := by
  unfold condition
  rw [readRule_eq (corresponds .null).maxDepth]
  apply correspondence.bind
  · cases second.readRule source with
    | error error => exact correspondence.throw error
    | ok rule => exact correspondence.pure rule
  · intro rule
    apply correspondence.bind ((corresponds rule).compile schema)
    rw [dialect]
    exact fun expression => correspondence.pure _

end Context
end RuleClause
