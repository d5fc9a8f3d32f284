import RuleClause.Proofs.Compile.Success
import RuleClause.Target

/-!
# Targets and the compilations that they start

A target gives a condition when its compilation gives an expression for the rule,
and the condition is the text of that expression.
-/

namespace RuleClause
namespace Target

/-- A condition is read, compiled and written. -/
theorem condition_eq (target : Target) (source : Source) :
    target.condition source = do
      let rule ← target.context.readRule source
      let expression ← target.context.compile rule
      return expression.render target.dialect := by
  change (MonadExcept.ofExcept (target.context.readRule source) >>= _) = _
  cases target.context.readRule source with
  | error error => rfl
  | ok rule => rfl

theorem condition_rule_eq_ok_iff (target : Target) (rule : Rule) (text : String) :
    target.condition (.rule rule) = .ok text ↔
      ∃ expression, target.context.compile rule = .ok expression ∧
        expression.render target.dialect = text := by
  change (target.context.compile rule >>= fun expression =>
    pure (expression.render target.dialect)) = .ok text ↔ _
  cases target.context.compile rule with
  | error error => simp [bind, Except.bind]
  | ok expression => simp [bind, Except.bind, pure, Except.pure]

theorem condition_rule_eq_error_iff (target : Target) (rule : Rule) (error : Error) :
    target.condition (.rule rule) = .error error ↔ target.context.compile rule = .error error := by
  change (target.context.compile rule >>= fun expression =>
    pure (expression.render target.dialect)) = .error error ↔ _
  cases target.context.compile rule with
  | error refused => simp [bind, Except.bind]
  | ok expression => simp [bind, Except.bind, pure, Except.pure]

/-- Only operations give conditions, and they are compiled for the columns of a row. -/
theorem exists_compileAt_of_condition
    {target : Target}
    {rule : Rule}
    {text : String}
    (compiled : target.condition (.rule rule) = .ok text) :
    ∃ operator arguments expression, rule = .operation operator arguments ∧
      compileAt target.context rule .start .row none = .ok expression ∧
      expression.render target.dialect = text := by
  obtain ⟨expression, compiled, rendered⟩ := (condition_rule_eq_ok_iff _ _ _).mp compiled
  cases rule with
  | operation operator arguments =>
      exact ⟨operator, arguments, expression, rfl, compiled, rendered⟩
  | null | bool | number | string | list =>
      simp [Context.compile, throw, throwThe, MonadExceptOf.throw] at compiled

/-- A compilation calls the registered operators. -/
theorem isSome_custom_context (target : Target) (name : String) :
    (target.context.custom name).isSome = target.registry.has name := by
  simp [context, Registry.has]

/-- The handler that a compilation calls is the registered one. -/
theorem custom_context_eq_some_iff
    (target : Target)
    (name : String)
    (called : List String → Except Error (Except String String)) :
    target.context.custom name = some called ↔
      ∃ handler, target.registry.get? name = some handler ∧
        called = fun arguments => .ok (handler.answer name arguments target.dialect) := by
  rw [context, Option.map_eq_some_iff]
  constructor
  · rintro ⟨handler, found, rfl⟩
    exact ⟨handler, found, rfl⟩
  · rintro ⟨handler, found, rfl⟩
    exact ⟨handler, found, rfl⟩

/-- A compilation has no custom operator under a name that is not registered. -/
theorem custom_context_eq_none
    {target : Target}
    {name : String}
    (unregistered : target.registry.has name = false) :
    target.context.custom name = none := by
  rw [← isSome_custom_context] at unregistered
  simpa using unregistered

/-- No registered operator stands in for a built-in one. -/
@[simp]
theorem custom_context_operator_name (target : Target) (operator : Operator) :
    target.context.custom operator.name = none := by
  simp [context]

end Target
end RuleClause
