import RuleClause.Proofs.Compile.Correspondence
import RuleClause.Proofs.Target

/-!
# Rules depend on the operators that they name

Of all registered operators, a rule is concerned only with those whose names occur in it.
What else is registered makes no difference: not to a rule of built-in operators, whose
names cannot be registered, and not to any rule if it is removed again.
-/

namespace RuleClause

namespace Rule

/-- An operator name occurs in a rule. -/
def Names (rule : Rule) (name : String) : Prop :=
  ∃ arguments, rule.Contains (.operation name arguments)

/-- The name of an operation comes from the operation itself or from directly inside of it. -/
theorem names_iff (rule : Rule) (name : String) :
    rule.Names name ↔
      (∃ arguments, rule = .operation name arguments) ∨
        ∃ child ∈ rule.children, child.Names name := by
  constructor
  · rintro ⟨arguments, contains⟩
    rcases (Contains.iff_eq_or_mem_children _ _).mp contains with same | ⟨child, member, nested⟩
    · exact .inl ⟨arguments, same.symm⟩
    · exact .inr ⟨child, member, arguments, nested⟩
  · rintro (⟨arguments, rfl⟩ | ⟨child, member, arguments, nested⟩)
    · exact ⟨arguments, .refl _⟩
    · exact ⟨arguments, (Contains.of_mem_children member).trans nested⟩

mutual

/-- The operator names of a rule, from the outside in. -/
def operatorNames : Rule → List String
  | .operation operator arguments => operator :: arguments.operatorNames
  | .list items => operatorNamesOfAll items
  | _ => []

/-- The operator names of some rules. -/
def operatorNamesOfAll : List Rule → List String
  | [] => []
  | item :: rest => item.operatorNames ++ operatorNamesOfAll rest

end

theorem operatorNamesOfAll_eq_flatMap (items : List Rule) :
    operatorNamesOfAll items = items.flatMap operatorNames := by
  induction items with
  | nil => rfl
  | cons item rest inductionHypothesis =>
      simp only [operatorNamesOfAll, List.flatMap_cons, inductionHypothesis]

theorem operatorNames_eq_flatMap_operands (arguments : Rule) :
    arguments.operatorNames = arguments.operands.flatMap operatorNames := by
  cases arguments with
  | list items => exact operatorNamesOfAll_eq_flatMap items
  | null | bool | number | string | operation => simp [operands]

/-- The listed names are those that occur. -/
theorem mem_operatorNames_iff (rule : Rule) (name : String) :
    name ∈ rule.operatorNames ↔ rule.Names name := by
  rw [names_iff]
  match rule with
  | .null | .bool _ | .number _ | .string _ => simp [operatorNames, children]
  | .list items =>
      have each (item : Rule) (member : item ∈ items) :
          name ∈ item.operatorNames ↔ item.Names name := by
        have smaller : sizeOf item < sizeOf (Rule.list items) := sizeOf_child_lt member
        exact mem_operatorNames_iff item name
      simp only [operatorNames, operatorNamesOfAll_eq_flatMap, List.mem_flatMap, children,
        reduceCtorEq, exists_false, false_or]
      exact exists_congr fun item => and_congr_right (each item)
  | .operation operator arguments =>
      have each (operand : Rule) (member : operand ∈ arguments.operands) :
          name ∈ operand.operatorNames ↔ operand.Names name := by
        have smaller : sizeOf operand < sizeOf (Rule.operation operator arguments) :=
          sizeOf_child_lt member
        exact mem_operatorNames_iff operand name
      rw [operatorNames, operatorNames_eq_flatMap_operands arguments]
      simp only [List.mem_cons, List.mem_flatMap, children, operation.injEq, exists_and_left,
        exists_eq', and_true]
      rw [eq_comm]
      exact or_congr_right (exists_congr fun operand => and_congr_right (each operand))
termination_by sizeOf rule
decreasing_by all_goals exact smaller

end Rule

namespace Registry

theorem get?_of_isBuiltin
    (registry : Registry)
    {name : String}
    (builtin : Operator.isBuiltin name = true) :
    registry.get? name = none := by
  obtain ⟨operator, known⟩ := Option.isSome_iff_exists.mp builtin
  obtain rfl := (Operator.ofName?_eq_some_iff _ _).mp known
  exact registry.get?_operator_name operator

theorem exists_of_register
    {registry changed : Registry}
    {name : String}
    {handler : Handler}
    (success : registry.register name handler = .ok changed) :
    ∃ free, changed = registry.insert name handler free := by
  unfold register at success
  split at success
  · cases success
  · rename_i free
    exact ⟨free, (Except.ok.inj success).symm⟩

/-- An operator that is registered and removed leaves a registry as it was without it. -/
theorem get?_erase_insert
    {registry : Registry}
    {name : String}
    (absent : registry.has name = false)
    (handler : Handler)
    (free : objection? name = none)
    (other : String) :
    ((registry.insert name handler free).erase name).get? other = registry.get? other := by
  rw [get?_erase, get?_insert]
  by_cases same : other = name
  · subst same
    have missing : registry.get? other = none := by simpa [has] using absent
    rw [if_pos rfl, missing]
  · rw [if_neg same, if_neg same]

end Registry

namespace Target

/-- The target with other custom operators. -/
def withRegistry (target : Target) (registry : Registry) : Target :=
  { target with registry := registry }

variable {target : Target} {first second : Registry}

theorem exists_of_register
    {registered : Target}
    {name : String}
    {handler : Handler}
    (success : target.register name handler = .ok registered) :
    ∃ free, registered = target.withRegistry (target.registry.insert name handler free) := by
  unfold register at success
  cases changed : target.registry.register name handler with
  | error error =>
      rw [changed] at success
      cases success
  | ok registry =>
      rw [changed] at success
      obtain ⟨free, rfl⟩ := Registry.exists_of_register changed
      exact ⟨free, (Except.ok.inj success).symm⟩

/-- Two registries that agree on the operators of a rule make compilations of it the same. -/
theorem corresponds_withRegistry
    (target : Target)
    {rule : Rule}
    (agree : ∀ name, rule.Names name → first.get? name = second.get? name) :
    Context.Corresponds (.equality (Except Error)) (target.withRegistry first).context
      (target.withRegistry second).context rule where
  dialect _ _ _ _ := rfl
  maxDepth := rfl
  custom operator arguments contains := by
    simp only [context, withRegistry, agree operator ⟨arguments, contains⟩]
    exact Correspondence.equality_refl _
  count _ _ _ _ _ := rfl

theorem condition_withRegistry_eq
    {source : Source}
    (agree : ∀ rule name, target.context.readRule source = .ok rule → rule.Names name →
      first.get? name = second.get? name) :
    (target.withRegistry first).condition source =
      (target.withRegistry second).condition source := by
  rw [condition_eq, condition_eq]
  have read (registry : Registry) : (target.withRegistry registry).context.readRule source =
      target.context.readRule source := Context.readRule_eq rfl source
  rw [read, read]
  cases found : target.context.readRule source with
  | error error => rfl
  | ok rule =>
      have same : (target.withRegistry first).context.compile rule =
          (target.withRegistry second).context.compile rule :=
        (target.corresponds_withRegistry (agree rule · found)).compile rfl
      exact congrArg (fun compiled => do
        let expression ← compiled
        return expression.render target.dialect) same

end Target

/--
A condition depends on the operators that its rule names.  Registries that agree on these
names give the same outcome.  No registry has the name of a built-in operator, so a rule
of built-in operators has the same outcome with every registry.  And an operator that is
registered under a free name and removed again leaves no trace in any outcome.
-/
theorem condition_depends_on_named_operators (target : Target) :
    (∀ (first second : Registry) (source : Source),
      (∀ rule name, target.context.readRule source = .ok rule → rule.Names name →
        first.get? name = second.get? name) →
      (target.withRegistry first).condition source =
        (target.withRegistry second).condition source) ∧
    (∀ (registry : Registry) (operator : Operator), registry.get? operator.name = none) ∧
    (∀ (first second : Registry) (source : Source),
      (∀ rule name, target.context.readRule source = .ok rule → rule.Names name →
        Operator.isBuiltin name = true) →
      (target.withRegistry first).condition source =
        (target.withRegistry second).condition source) ∧
    ∀ (name : String) (handler : Handler) (registered : Target),
      target.registry.has name = false →
      target.register name handler = .ok registered →
      (registered.unregister name).1 = true ∧
        ∀ source, (registered.unregister name).2.condition source = target.condition source := by
  refine ⟨fun _ _ _ => Target.condition_withRegistry_eq, Registry.get?_operator_name, ?_, ?_⟩
  · intro first second source builtin
    apply Target.condition_withRegistry_eq
    intro rule name read names
    have known := builtin rule name read names
    rw [first.get?_of_isBuiltin known, second.get?_of_isBuiltin known]
  · intro name handler registered absent success
    obtain ⟨free, rfl⟩ := Target.exists_of_register success
    constructor
    · change (target.registry.insert name handler free).has name = true
      simp [Registry.has]
    · intro source
      apply Target.condition_withRegistry_eq
      intro rule other _ _
      exact Registry.get?_erase_insert absent handler free other

/-- Operators for shouting and whispering. -/
def voiceRegistry : Registry :=
  (Registry.empty.insert "shout" (.function "UPPER") rfl).insert "whisper" (.function "LOWER") rfl

/-- Another way to whisper beside the same way to shout. -/
def otherVoiceRegistry : Registry :=
  (Registry.empty.insert "whisper" (.failing "too loud") rfl).insert "shout" (.function "UPPER") rfl

/-- A rule that only shouts. -/
def shoutRule : Rule :=
  .operation "shout" (.operation "var" (.string "name"))

theorem condition_depends_on_shout :
    ((Target.ofDialect .duckDB).withRegistry otherVoiceRegistry).condition (.rule shoutRule) =
      .ok "UPPER(name)" ∧
    ∃ registered,
      (Target.ofDialect .duckDB).register "shout" (.function "UPPER") = .ok registered ∧
      registered.condition (.rule shoutRule) = .ok "UPPER(name)" ∧
      (registered.unregister "shout").2.condition (.rule shoutRule) =
        (Target.ofDialect .duckDB).condition (.rule shoutRule) := by
  obtain ⟨agree, _, _, restored⟩ := condition_depends_on_named_operators (.ofDialect .duckDB)
  constructor
  · rw [agree otherVoiceRegistry voiceRegistry]
    · rfl
    · rintro rule name ⟨⟩ ⟨arguments, contains⟩
      simp only [shoutRule, Rule.Contains.operation_iff, Rule.operation.injEq, Rule.operands,
        List.mem_cons, List.not_mem_nil, or_false, exists_eq_left, Rule.Contains.string_iff,
        reduceCtorEq] at contains
      rcases contains with ⟨rfl, _⟩ | ⟨rfl, _⟩ <;> rfl
  · exact ⟨_, rfl, rfl, (restored "shout" (.function "UPPER") _ rfl rfl).2 _⟩

end RuleClause
