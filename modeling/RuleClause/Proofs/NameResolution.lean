import RuleClause.Proofs.PresenceThreshold
import RuleClause.Proofs.SchemaDeclaration

/-!
# Variables and tests for missing fields look names up alike

A variable and a test for missing fields look a name up in the same way, whatever it refers to
and whether or not a schema has to know it.  They differ in one name: outside of iterations a
variable refuses the empty one, which stands for the current element, while the test takes it
for a column.  No schema knows such a column, so that the difference shows exactly where
there is no schema.
-/

namespace RuleClause

/-- The empty name is neither that of a declared field nor does it lead into an object. -/
theorem Schema.knows_empty (schema : Schema) : schema.knows "" = false := by
  rw [← Bool.not_eq_true]
  intro known
  rcases (schema.holds_fields.known "").mp known with
    ⟨field, member, unnamed⟩ | ⟨field, _, _, inner, split⟩
  · exact schema.wellDeclared.named field member unnamed
  · have characters := congrArg String.toList split
    simp at characters

namespace Reference

/-- The variable with a name. -/
def variableRule (name : String) : Rule :=
  .operation Operator.var.name (.string name)

/-! ## What each of the two looks up -/

section

variable
  {answer : Request → Except Error Sql}
  {name : String}
  (setting : Setting)
  (call : Call)

/-- A variable refuses the empty name outside of iterations and looks up every other one. -/
theorem run_var_eq_ok_iff (bare : call.arguments = .string name) (expression : Sql) :
    (var setting call).run answer = .ok expression ↔
      ¬(setting.scope = .row ∧ name = "") ∧ Resolves setting name expression := by
  have single : var setting call = textual setting call name := by
    rw [var, Call.operands, bare]
    rfl
  rw [single, textual]
  split
  · rename_i refused
    simp [refused]
  · rename_i looked
    rw [run_named_eq_ok_iff]
    exact (and_iff_right looked).symm

/-- A test for one missing field looks up every name. -/
theorem run_missing_eq_ok_iff (listed : call.arguments = nameList [name]) (expression : Sql) :
    (missing setting call).run answer = .ok expression ↔
      ∃ reference, Resolves setting name reference ∧ expression = .test reference .isNull := by
  constructor
  · intro ended
    obtain ⟨references, resolved, rfl⟩ := of_run_missing ended
    have names : listedNames call.operands = [.string name] := by
      rw [Call.operands, listed]
      rfl
    rw [names] at resolved
    obtain ⟨reference, _, ⟨other, same, resolves⟩, rest, rfl⟩ :=
      List.forall₂_cons_left_iff.mp resolved
    obtain rfl := List.forall₂_nil_left_iff.mp rest
    obtain rfl := Rule.string.inj same
    exact ⟨reference, resolves, rfl⟩
  · rintro ⟨reference, resolves, rfl⟩
    exact run_missing_of_resolves (.cons resolves .nil) (by simp) listed

end

/-- A name stands for one expression at most. -/
theorem Resolves.unique
    {setting : Setting}
    {name : String}
    {first second : Sql}
    (resolvesFirst : Resolves setting name first)
    (resolvesSecond : Resolves setting name second) :
    first = second := by
  obtain ⟨schema, scope⟩ := setting
  cases scope with
  | row => exact resolvesFirst.2.trans resolvesSecond.2.symm
  | element | reduction => exact Option.some.inj (resolvesFirst.symm.trans resolvesSecond)

/-! ## The two side by side -/

/--
A test for a missing field compiles if and only if the variable does, and its text is then that
of the variable followed by the null test.
-/
structure ResolvedAlike (dialect : Dialect) (lookup test : Except Error Sql) : Prop where
  /-- Both compile, or neither does. -/
  compiles : (∃ expression, test = .ok expression) ↔ ∃ reference, lookup = .ok reference
  /-- The test stands behind the text of the variable. -/
  text : ∀ reference expression, lookup = .ok reference → test = .ok expression →
    expression.render dialect = reference.render dialect ++ " IS NULL"

section

variable (target : Target) (position : Position) (scope : Scope) (hint : Option FieldType)
  (name : String)

theorem compileAt_variableRule_eq_ok_iff (expression : Sql) :
    compileAt target.context (variableRule name) position scope hint = .ok expression ↔
      position.depth ≤ target.maxDepth ∧ ¬(scope = .row ∧ name = "") ∧
        Resolves ⟨target.schema, scope⟩ name expression := by
  rw [variableRule, compileAt_operator_eq_ok_iff (target.custom_context_operator_name _)]
  exact and_congr_right fun _ =>
    run_var_eq_ok_iff ⟨target.schema, scope⟩ ⟨_, .string name, _⟩ rfl expression

theorem compileAt_missingRule_eq_ok_iff (expression : Sql) :
    compileAt target.context (missingRule [name]) position scope hint = .ok expression ↔
      position.depth ≤ target.maxDepth ∧ ∃ reference,
        Resolves ⟨target.schema, scope⟩ name reference ∧ expression = .test reference .isNull := by
  rw [missingRule, compileAt_operator_eq_ok_iff (target.custom_context_operator_name _)]
  exact and_congr_right fun _ =>
    run_missing_eq_ok_iff ⟨target.schema, scope⟩ ⟨_, nameList [name], _⟩ rfl expression

/--
A variable and a test for a missing field resolve a name alike at every place, in every scope and
dialect, except for one case: outside of iterations and without a schema the test compiles with
the empty name, and the variable does not.
-/
theorem missing_resolves_as_var_iff :
    ResolvedAlike target.dialect
        (compileAt target.context (variableRule name) position scope hint)
        (compileAt target.context (missingRule [name]) position scope hint) ↔
      ¬(position.depth ≤ target.maxDepth ∧ scope = .row ∧ target.schema = none ∧ name = "") := by
  constructor
  · rintro alike ⟨bound, rfl, untyped, rfl⟩
    have column : Resolves ⟨target.schema, .row⟩ "" (.column "") :=
      ⟨by simp [Setting.Knows, untyped], rfl⟩
    have tested := (compileAt_missingRule_eq_ok_iff target position .row hint "" _).mpr
      ⟨bound, _, column, rfl⟩
    obtain ⟨reference, compiled⟩ := alike.compiles.mp ⟨_, tested⟩
    have looked := (compileAt_variableRule_eq_ok_iff target position .row hint "" _).mp compiled
    exact looked.2.1 ⟨rfl, rfl⟩
  · intro regular
    constructor
    · constructor
      · rintro ⟨expression, tested⟩
        obtain ⟨bound, reference, resolves, _⟩ :=
          (compileAt_missingRule_eq_ok_iff target position scope hint name _).mp tested
        refine ⟨reference,
          (compileAt_variableRule_eq_ok_iff target position scope hint name _).mpr
            ⟨bound, ?_, resolves⟩⟩
        rintro ⟨rfl, rfl⟩
        -- no schema knows the empty name
        cases typed : target.schema with
        | none => exact regular ⟨bound, rfl, typed, rfl⟩
        | some schema =>
            have known := resolves.1 schema typed
            rw [schema.knows_empty] at known
            exact absurd known (by decide)
      · rintro ⟨reference, compiled⟩
        obtain ⟨bound, _, resolves⟩ :=
          (compileAt_variableRule_eq_ok_iff target position scope hint name _).mp compiled
        exact ⟨_, (compileAt_missingRule_eq_ok_iff target position scope hint name _).mpr
          ⟨bound, reference, resolves, rfl⟩⟩
    · intro reference expression compiled tested
      obtain ⟨_, _, resolves⟩ :=
        (compileAt_variableRule_eq_ok_iff target position scope hint name _).mp compiled
      obtain ⟨_, other, resolvesOther, rfl⟩ :=
        (compileAt_missingRule_eq_ok_iff target position scope hint name _).mp tested
      rw [resolves.unique resolvesOther, Sql.render, String.append_assoc]
      rfl

end

/-- A schema in which names lead into an object. -/
def profileSchema : Schema :=
  (Schema.ofFields [⟨"profile", .object, []⟩]).toOption.getD .empty

/-- A target with that schema. -/
def profileTarget : Target :=
  (Target.ofDialect .bigQuery).withSchema (some profileSchema)

/-- A name that leads into an object is resolved alike. -/
theorem missing_resolves_as_var_iff_of_profile :
    profileSchema.knows "profile.age" = true ∧
      ResolvedAlike .bigQuery
        (compileAt profileTarget.context (variableRule "profile.age") .start .row none)
        (compileAt profileTarget.context (missingRule ["profile.age"]) .start .row none) := by
  refine ⟨rfl, (missing_resolves_as_var_iff profileTarget .start .row none "profile.age").mpr ?_⟩
  rintro ⟨_, _, untyped, _⟩
  exact absurd untyped (by simp [profileTarget, Target.withSchema])

/-- Without a schema the empty name is refused by a variable and compiles in a test. -/
theorem missing_resolves_empty_name_alone :
    ¬ResolvedAlike .postgreSQL
        (compileAt (Target.ofDialect .postgreSQL).context (variableRule "") .start .row none)
        (compileAt (Target.ofDialect .postgreSQL).context (missingRule [""]) .start .row none) := by
  intro alike
  obtain ⟨reference, compiled⟩ := alike.compiles.mp ⟨.test (.column "") .isNull, rfl⟩
  obtain ⟨error, refused⟩ : ∃ error, compileAt (Target.ofDialect .postgreSQL).context
      (variableRule "") .start .row none = .error error := ⟨_, rfl⟩
  rw [refused] at compiled
  simp at compiled

end Reference
end RuleClause
