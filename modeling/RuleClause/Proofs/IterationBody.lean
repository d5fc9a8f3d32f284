import RuleClause.Proofs.Compile.Correspondence
import RuleClause.Proofs.Compile.Reach
import RuleClause.Proofs.SchemaRestriction

/-!
# Bodies of iterations

A schema describes the columns of a row.  In the body of an iteration names refer to the
elements of an array, and a member of an element may well have the name of a declared
field.  The schema has no say there: what is compiled for a body, however deep inside of
it, comes out the same under every schema and without any.
-/

namespace RuleClause

/-- The operand that a selection is about. -/
def Selection.index : Selection → Nat
  | .operand index => index
  | .part index _ => index

/-! ## What iterations ask of their bodies -/

/-- A request is made outside of the scope of a row if it is for the second operand. -/
def Request.KeepsBodyInside (request : Request) : Prop :=
  request.selection.index = 1 → request.scope ≠ .row

namespace Operator

open Request (KeepsBodyInside)

variable {setting : Setting} {call : Call} {dialect : Dialect}

theorem keepsBodyInside_ask
    {index : Nat}
    (outside : index ≠ 1)
    (hint : Option FieldType) :
    (setting.ask index hint).AsksOnly KeepsBodyInside :=
  .ask (fun body => absurd body outside) fun expression => .done expression

theorem keepsBodyInside_source (operand : Rule) :
    (Arrays.source setting call operand).AsksOnly KeepsBodyInside :=
  (Setting.settled_gate _ _ _).bind fun _ => keepsBodyInside_ask (by decide) Option.none

theorem keepsBodyInside_iteration (build : Sql → Sql → Sql) :
    (Arrays.iteration setting call build).AsksOnly KeepsBodyInside := by
  refine Call.settled_listedPair.bind fun operands => ?_
  refine (keepsBodyInside_source operands.1).bind fun array => ?_
  exact .ask (fun _ => Scope.noConfusion) fun _ => .done _

theorem keepsBodyInside_reduce :
    (Arrays.reduce dialect setting call).AsksOnly KeepsBodyInside := by
  refine call.settled_listedTriple.bind fun operands => ?_
  refine (keepsBodyInside_source operands.1).bind fun array => ?_
  refine (keepsBodyInside_ask (by decide) Option.none).bind fun initial => ?_
  -- the whole reducer, or the value per element that is recognised in it
  split
  · exact .ask (fun _ => Scope.noConfusion) fun _ => .done _
  · split
    · exact .fail _
    · exact .ask (fun _ => Scope.noConfusion) fun _ => .done _

theorem keepsBodyInside_plan
    {operator : Operator}
    (iterates : operator.iterates = true)
    (dialect : Dialect) :
    (operator.plan dialect setting call).AsksOnly KeepsBodyInside := by
  cases operator with
  | map | filter | all | some | none => exact keepsBodyInside_iteration _
  | reduce => exact keepsBodyInside_reduce
  | _ => cases iterates

end Operator

/-! ## Jobs of bodies -/

namespace Job

/-- An iteration starts the job of its body, or of the part of it that it needs. -/
inductive StartsBody (context : Context (Except Error)) : Job → Job → Prop
  | request
      {operator : Operator}
      {arguments inner : Rule}
      {position place : Position}
      {scope : Scope}
      {hint : Option FieldType}
      {request : Request}
      (iterates : operator.iterates = true)
      (unregistered : context.custom operator.name = none)
      (asks :
        (operator.plan context.dialect ⟨context.schema, scope⟩
          ⟨operator.name, arguments, position.operationPath operator.name⟩).Asks
          (OperandCompiler.answer (operandsAt context operator.name arguments position)) request)
      (second : request.selection.index = 1)
      (picked : request.selection.pick? operator.name arguments position = some (inner, place)) :
      StartsBody context ⟨.operation operator.name arguments, position, scope, hint⟩
        ⟨inner, place, request.scope, request.hint⟩

variable {context : Context (Except Error)} {job inner : Job}

theorem StartsBody.scope_ne_row (starts : job.StartsBody context inner) : inner.scope ≠ .row := by
  cases starts with
  | request iterates _ asks second _ =>
      exact (Operator.keepsBodyInside_plan iterates _).of_asks asks second

/-- A job that is not about a row starts no job that is. -/
theorem Starts.scope_ne_row
    (starts : job.Starts context inner)
    (inside : job.scope ≠ .row) :
    inner.scope ≠ .row := by
  cases starts with
  | item | argument => exact inside
  | @request operator _ _ _ _ _ _ _ _ asks _ =>
      intro row
      exact inside (((operator.asksOnly_plan _).of_asks asks).scope_eq_row row)

theorem Reaches.scope_ne_row
    (reaches : job.Reaches context inner)
    (inside : job.scope ≠ .row) :
    inner.scope ≠ .row := by
  induction reaches with
  | refl => exact inside
  | tail _ starts inductionHypothesis => exact starts.scope_ne_row inductionHypothesis

end Job

/-- Compilations under two schemas go the same way. -/
theorem Context.corresponds_withSchema
    {m : Type → Type} [Monad m] [MonadExceptOf Error m] [MonadOverflow m]
    (context : Context m)
    (first second : Option Schema)
    (rule : Rule) :
    Corresponds (.equality m) (context.withSchema first) (context.withSchema second) rule where
  dialect _ _ _ _ := rfl
  maxDepth := rfl
  custom operator _ _ := Correspondence.equality_refl (context.custom operator)
  count _ _ _ _ _ := rfl

/--
The bodies of iterations ignore the schema.  Where names do not refer to a row, a rule
has the same outcome under any two schemas, or without one.  And such is the scope of
all that is compiled for the body of an iteration, other iterations inside of it included.
-/
theorem iteration_body_ignores_schema
    (target : Target)
    (first second : Option Schema) :
    (∀ (rule : Rule) (position : Position) (scope : Scope) (hint : Option FieldType),
      scope ≠ .row →
      compileAt (target.withSchema first).context rule position scope hint =
        compileAt (target.withSchema second).context rule position scope hint) ∧
    ∀ (job body inner : Job),
      job.StartsBody (target.withSchema first).context body →
      body.Reaches (target.withSchema first).context inner →
      inner.scope ≠ .row ∧
      inner.outcome (target.withSchema first).context =
        inner.outcome (target.withSchema second).context := by
  have same (rule : Rule) (position : Position) (scope : Scope) (hint : Option FieldType)
      (inside : scope ≠ .row) :
      compileAt (target.withSchema first).context rule position scope hint =
        compileAt (target.withSchema second).context rule position scope hint :=
    (target.context.corresponds_withSchema first second rule).compileAt position
      (fun row => absurd row inside) hint
  refine ⟨same, ?_⟩
  intro job body inner starts reaches
  have inside := reaches.scope_ne_row starts.scope_ne_row
  exact ⟨inside, same inner.rule inner.position inner.scope inner.hint inside⟩

/-- A line in a state that orders do not have. -/
def withdrawnLine : Rule :=
  .operation "==" (.list [.operation "var" (.string "state"), .string "withdrawn"])

/-- The lines of an order in that state. -/
def withdrawnLines : Rule :=
  .operation "filter" (.list [.operation "var" (.string "lines"), withdrawnLine])

/-- Those lines, order by order. -/
def withdrawnLinesByOrder : Rule :=
  .operation "map" (.list [.operation "var" (.string "orders"), withdrawnLines])

/-- The job of the inner one of the two bodies. -/
def withdrawnLineJob : Job :=
  ⟨withdrawnLine, ⟨(Path.start.member "map" |>.member "filter").item 1, some 1, 2⟩, .element, none⟩

/-- The schema of orders knows the state of an order, which is not the state of a line. -/
theorem iteration_body_ignores_orderSchema :
    (((Target.ofDialect .duckDB).withSchema (some orderSchema)).condition
      (.rule withdrawnLine)).toOption = none ∧
    compileAt ((Target.ofDialect .duckDB).withSchema (some orderSchema)).context
        withdrawnLine .start .reduction none =
      compileAt ((Target.ofDialect .duckDB).withSchema none).context
        withdrawnLine .start .reduction none ∧
    withdrawnLineJob.outcome ((Target.ofDialect .duckDB).withSchema (some orderSchema)).context =
      .ok (.binary .equal (.bound .element (some "state")) (.string "withdrawn")) := by
  have body : (Job.whole withdrawnLinesByOrder).StartsBody
      ((Target.ofDialect .duckDB).withSchema none).context
      ⟨withdrawnLines, ⟨Path.start.member "map", some 1, 1⟩, .element, none⟩ :=
    @Job.StartsBody.request _ .map _ _ _ _ _ _ ⟨.operand 1, .element, none⟩ rfl rfl
      (.later rfl .here) rfl rfl
  have inner : Job.Reaches ((Target.ofDialect .duckDB).withSchema none).context
      ⟨withdrawnLines, ⟨Path.start.member "map", some 1, 1⟩, .element, none⟩ withdrawnLineJob :=
    .single (@Job.Starts.request _ .filter _ _ _ _ _ _ ⟨.operand 1, .element, none⟩ rfl
      (.later rfl .here) rfl)
  have ignores := iteration_body_ignores_schema (.ofDialect .duckDB)
  obtain ⟨_, same⟩ := (ignores none (some orderSchema)).2 _ _ _ body inner
  refine ⟨rfl, (ignores _ _).1 _ _ .reduction _ (by decide), ?_⟩
  rw [← same]
  rfl

end RuleClause
