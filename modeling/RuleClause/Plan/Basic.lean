import RuleClause.Error.Basic
import RuleClause.Sql.Basic

/-!
# Plans

A plan says what an operator does with its operands without doing it: it asks for
the SQL of one operand after the other and ends with an expression or an error.
The operands themselves are not part of a plan.  Whoever runs it decides how a
request is met, so that the same plan serves a pure compilation and one in which
custom operators act on the world.
-/

namespace RuleClause

/-- What the names in a rule refer to. -/
inductive Scope where
  /-- The columns of a row. -/
  | row
  /-- The current element of an iteration. -/
  | element
  /-- The current element of a reduction and its running value. -/
  | reduction
deriving DecidableEq, Repr

/-- The part of an operation that is asked for. -/
inductive Selection where
  /-- An operand, by its number. -/
  | operand (index : Nat)
  /-- An item of an operand that is a list, or an argument of one that is an operation. -/
  | part (index inner : Nat)
deriving DecidableEq, Repr

/-- A request for the SQL of a part of an operation. -/
structure Request where
  /-- The part. -/
  selection : Selection
  /-- What the names in it refer to. -/
  scope : Scope
  /-- The type of the field that its literals meet, if there is one. -/
  hint : Option FieldType
deriving DecidableEq, Repr

/-- A sequence of requests that ends with a value or an error. -/
inductive Plan (α : Type) where
  /-- Ends with a value. -/
  | done (value : α)
  /-- Ends with an error. -/
  | fail (error : Error)
  /-- Asks for an expression and goes on with it. -/
  | ask (request : Request) (next : Sql → Plan α)

namespace Plan

/-- Goes on with the value of a plan. -/
def bind {α β : Type} : Plan α → (α → Plan β) → Plan β
  | .done value, next => next value
  | .fail error, _ => .fail error
  | .ask request continuation, next =>
      .ask request fun expression => (continuation expression).bind next

instance : Monad Plan where
  pure := .done
  bind := bind

@[simp]
theorem bind_done {α : Type} (plan : Plan α) : plan.bind .done = plan := by
  induction plan with
  | done value => rfl
  | fail error => rfl
  | ask request continuation inductionHypothesis =>
      simp [bind, inductionHypothesis]

theorem bind_assoc
    {α β γ : Type}
    (plan : Plan α)
    (first : α → Plan β)
    (second : β → Plan γ) :
    (plan.bind first).bind second = plan.bind fun value => (first value).bind second := by
  induction plan with
  | done value => rfl
  | fail error => rfl
  | ask request continuation inductionHypothesis =>
      simp [bind, inductionHypothesis]

instance : LawfulMonad Plan :=
  LawfulMonad.mk' Plan bind_done (fun _ _ => rfl) bind_assoc

/-- Asks for one expression. -/
def request (request : Request) : Plan Sql :=
  .ask request .done

/-- Asks for a number of expressions, by the numbers of their requests from an index on. -/
def requestEach (request : Nat → Request) : Nat → Nat → Plan (List Sql)
  | _, 0 => .done []
  | index, count + 1 => do
      let first ← Plan.request (request index)
      let rest ← requestEach request (index + 1) count
      return first :: rest

/-- A plan without requests. -/
def ofExcept {α : Type} : Except Error α → Plan α
  | .ok value => .done value
  | .error error => .fail error

/-- Runs a plan, meeting its requests one after the other. -/
def run
    {m : Type → Type} [Monad m] [MonadExceptOf Error m] {α : Type}
    (answer : Request → m Sql) : Plan α → m α
  | .done value => pure value
  | .fail error => throw error
  | .ask request next => do
      let expression ← answer request
      (next expression).run answer

/-- Running a sequence of two plans runs the second on the value of the first. -/
theorem run_bind
    {α β : Type}
    (answer : Request → Except Error Sql)
    (plan : Plan α)
    (next : α → Plan β) :
    (plan.bind next).run answer =
      (plan.run answer).bind fun value => (next value).run answer := by
  induction plan with
  | done value => rfl
  | fail error => rfl
  | ask request continuation inductionHypothesis =>
      cases answered : answer request with
      | ok expression =>
          simpa [bind, run, answered, Bind.bind, Except.bind] using
            inductionHypothesis expression
      | error error => simp [bind, run, answered, Bind.bind, Except.bind]

end Plan
end RuleClause
