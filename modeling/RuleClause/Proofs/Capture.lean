import RuleClause.Proofs.Accumulator
import RuleClause.Proofs.Capture.Layout
import RuleClause.Proofs.Reading.Token

/-!
# Where iterations bind the current element anew

All iterations give the current element one name.  An iteration inside another
therefore binds the name anew, and what was compiled in the scope around it must
stand where it has not.  The array of an iteration always does: a query selects from
it, or a function takes it beside its lambda.  The initial value of a reduction does
where reductions are folds.  Where they are aggregates it stands among what the query
selects, and an initial value that reads the element around the reduction reads the
element of the reduction in its place.
-/

namespace RuleClause

/-! ## What an expression reads of the element around it -/

/-- A name is written as a word in a text, by itself or with a member after it. -/
def Reading.Mentions (name text : String) : Prop :=
  ∃ run ∈ text.toList.splitBy joins, run.takeWhile (· != '.') = name.toList

namespace Sql

/-- The expressions inside an expression that are in its own scope. -/
def ownChildren : Sql → List Sql
  | .mapped source _ | .filtered source _ | .quantified _ source _ => [source]
  | .folded _ source _ initial | .aggregated _ _ source _ initial => [source, initial]
  | expression => expression.children

/--
An expression reads the current element of its own scope.  Bodies of iterations read
another element, and of a fragment only the words are known.
-/
inductive ReadsElement : Sql → Prop
  | here (member : Option String) : ReadsElement (.bound .element member)
  | item (index : UInt64) : ReadsElement (.elementItem index)
  | fragment
      {text : String}
      (mentions : Reading.Mentions Dialect.elementName text) :
      ReadsElement (.fragment text)
  | inside
      {expression child : Sql}
      (member : child ∈ expression.ownChildren)
      (reads : ReadsElement child) :
      ReadsElement expression

/-! ## Iterations as they are written -/

/-- The layout of an iteration; other expressions have none. -/
def layout? (dialect : Dialect) : Sql → Option Layout
  | .mapped .. => some (.mapped dialect)
  | .filtered .. => some (.filtered dialect)
  | .quantified quantity .. => some (.quantified dialect quantity)
  | .folded functions .. => some (.folded functions)
  | .aggregated naming aggregate .. => some (.aggregated naming aggregate)
  | _ => none

/-- The operand of an iteration in a slot; null if it has none there. -/
def operand : Sql → Slot → Sql
  | .mapped source body, slot | .filtered source body, slot | .quantified _ source body, slot =>
      match slot with
      | .source => source
      | .body => body
      | .initial => .null
  | .folded _ source body initial, slot | .aggregated _ _ source body initial, slot =>
      match slot with
      | .source => source
      | .body => body
      | .initial => initial
  | _, _ => .null

/-- The text of an iteration is its layout with the texts of its operands. -/
theorem render_eq_write
    {dialect : Dialect}
    {expression : Sql}
    {layout : Layout}
    (laid : expression.layout? dialect = some layout) :
    expression.render dialect =
      layout.write fun slot => (expression.operand slot).render dialect := by
  cases expression with
  | mapped source body =>
      obtain rfl := Option.some.inj laid
      simp only [render, Layout.write_mapped, operand]
  | filtered source body =>
      obtain rfl := Option.some.inj laid
      simp only [render, Layout.write_filtered, operand]
  | quantified quantity source body =>
      obtain rfl := Option.some.inj laid
      simp only [render, Layout.write_quantified, operand]
  | folded functions source body initial =>
      obtain rfl := Option.some.inj laid
      simp only [render, Layout.write_folded, operand]
  | aggregated naming aggregate source body initial =>
      obtain rfl := Option.some.inj laid
      simp only [render, Layout.write_aggregated, operand]
  | _ => simp [layout?] at laid

/-- The operand in a slot reads the element around an iteration where its name is bound anew. -/
def Captures (dialect : Dialect) (expression : Sql) (slot : Slot) : Prop :=
  (expression.operand slot).ReadsElement ∧
    ∃ layout, expression.layout? dialect = some layout ∧ .rebound ∈ layout.places slot

end Sql

/-! ## Iterations as they are compiled -/

/-- The operands of an iteration that are compiled in the scope around it. -/
def Operator.outerSlots (operator : Operator) : List Slot :=
  if operator = .reduce then [.source, .initial] else [.source]

/-- An iteration is laid out, with the answers for its outer operands in their slots. -/
structure LaidOut
    (dialect : Dialect)
    (answer : Request → Except Error Sql)
    (setting : Setting)
    (call : Call)
    (operator : Operator)
    (expression : Sql)
    (layout : Layout) : Prop where
  /-- The expression has the layout. -/
  laid : expression.layout? dialect = some layout
  /-- The layout shows all its binders. -/
  explicit : layout.isExplicit = true
  /-- The outer operands are compiled in the scope around the iteration. -/
  asked : ∀ slot ∈ operator.outerSlots, ∃ inner,
    call.operands[slot.index]? = some inner ∧
      answer (setting.operandRequest none slot.index) = .ok (expression.operand slot)
  /-- Only the initial value of an aggregate stands where the element is bound anew. -/
  rebound_iff : ∀ slot ∈ operator.outerSlots, .rebound ∈ layout.places slot ↔
    operator = .reduce ∧ dialect.Aggregates ∧ slot = .initial

namespace LaidOut

variable
  {dialect : Dialect}
  {answer : Request → Except Error Sql}
  {setting : Setting}
  {call : Call}
  {operator : Operator}
  {expression : Sql}

/-- Captured is what stands where the element is bound anew and reads the one around. -/
theorem captures_iff
    {layout : Layout}
    (laidOut : LaidOut dialect answer setting call operator expression layout)
    {slot : Slot}
    (outer : slot ∈ operator.outerSlots) :
    expression.Captures dialect slot ↔
      operator = .reduce ∧ dialect.Aggregates ∧ slot = .initial ∧
        (expression.operand slot).ReadsElement := by
  have unfolded : expression.Captures dialect slot ↔
      (expression.operand slot).ReadsElement ∧ .rebound ∈ layout.places slot := by
    simp [Sql.Captures, laidOut.laid]
  rw [unfolded, laidOut.rebound_iff slot outer]
  tauto

theorem of_run_iteration
    {build : Sql → Sql → Sql}
    {layout : Layout}
    (ended : (Arrays.iteration setting call build).run answer = .ok expression)
    (maps : operator ≠ .reduce)
    (laid : ∀ source body, (build source body).layout? dialect = some layout)
    (holds : ∀ source body, (build source body).operand .source = source)
    (explicit : layout.isExplicit = true)
    (rebound_iff : ∀ slot, .rebound ∈ layout.places slot ↔ slot = .body) :
    LaidOut dialect answer setting call operator expression layout := by
  obtain ⟨operand, step, array, inner, arguments, _, askedArray, _, rfl⟩ :=
    Arrays.of_run_iteration ended
  have outer : operator.outerSlots = [.source] := if_neg maps
  refine ⟨laid array inner, explicit, ?_, ?_⟩
  · simp only [outer, List.mem_singleton, forall_eq, holds]
    exact ⟨operand, by rw [Call.operands, arguments]; rfl, askedArray⟩
  · simp [outer, rebound_iff, maps]

theorem of_run_reduce
    (ended : (Arrays.reduce dialect setting call).run answer = .ok expression) :
    ∃ layout, LaidOut dialect answer setting call .reduce expression layout := by
  obtain ⟨operand, reducer, first, array, initial, arguments, _, askedArray, askedInitial,
    outcome⟩ := Arrays.of_run_reduce ended
  have operands : call.operands = [operand, reducer, first] := by
    rw [Call.operands, arguments]
    rfl
  have outer : Operator.outerSlots .reduce = [.source, .initial] := rfl
  rcases outcome with ⟨functions, inner, form, _, rfl⟩ |
    ⟨naming, aggregate, index, value, form, _, _, rfl⟩
  · have folds : ¬ dialect.Aggregates := by
      rintro ⟨naming, other⟩
      simp [form] at other
    refine ⟨_, rfl, Layout.isExplicit_folded form, ?_, ?_⟩
    · simp [outer, operands, Slot.index, Sql.operand, askedArray, askedInitial]
    · simp [outer, Layout.rebound_mem_places_folded, folds]
  · have aggregates : dialect.Aggregates := ⟨naming, form⟩
    refine ⟨_, rfl, Layout.isExplicit_aggregated naming aggregate, ?_, ?_⟩
    · simp [outer, operands, Slot.index, Sql.operand, askedArray, askedInitial]
    · simp [outer, Layout.rebound_mem_places_aggregated, aggregates]

/-- Every iteration is laid out. -/
theorem of_run_plan
    (iterates : operator.iterates = true)
    (ended : (operator.plan dialect setting call).run answer = .ok expression) :
    ∃ layout, LaidOut dialect answer setting call operator expression layout := by
  cases operator with
  | map =>
      exact ⟨_, of_run_iteration ended (by decide) (fun _ _ => rfl) (fun _ _ => rfl)
        (Layout.isExplicit_mapped dialect)
        (fun slot => Layout.rebound_mem_places_mapped slot dialect)⟩
  | filter =>
      exact ⟨_, of_run_iteration ended (by decide) (fun _ _ => rfl) (fun _ _ => rfl)
        (Layout.isExplicit_filtered dialect)
        (fun slot => Layout.rebound_mem_places_filtered slot dialect)⟩
  | all | some | none =>
      exact ⟨_, of_run_iteration ended (by decide) (fun _ _ => rfl) (fun _ _ => rfl)
        (Layout.isExplicit_quantified dialect _)
        (fun slot => Layout.rebound_mem_places_quantified slot dialect _)⟩
  | reduce => exact of_run_reduce ended
  | _ => simp [Operator.iterates] at iterates

end LaidOut

/--
In every compiled rule, an operand of an iteration that is compiled in the scope around
the iteration stands where the iteration has bound the current element anew exactly if it
is the initial value of a reduction that is written as an aggregate.  So an operand is
captured exactly if it is such an initial value and reads the element around the reduction.
-/
theorem captures_iff_aggregated_initial
    (target : Target)
    (rule : Rule)
    (text : String)
    (compiled : target.condition (.rule rule) = .ok text)
    (operator : Operator)
    (iterates : operator.iterates = true)
    (arguments : Rule)
    (position : Position)
    (scope : Scope)
    (hint : Option FieldType)
    (reached : (Job.whole rule).Reaches target.context
      ⟨.operation operator.name arguments, position, scope, hint⟩) :
    ∃ expression layout,
      compileAt target.context (.operation operator.name arguments) position scope hint =
          .ok expression ∧
        expression.layout? target.dialect = some layout ∧
        layout.isExplicit = true ∧
        expression.render target.dialect =
          layout.write (fun slot => (expression.operand slot).render target.dialect) ∧
        ∀ slot ∈ operator.outerSlots,
          (∃ inner, arguments.operands[slot.index]? = some inner ∧
            compileAt target.context inner
              (position.operand operator.name arguments slot.index) scope none =
                .ok (expression.operand slot)) ∧
          (.rebound ∈ layout.places slot ↔
            operator = .reduce ∧ target.dialect.Aggregates ∧ slot = .initial) ∧
          (expression.Captures target.dialect slot ↔
            operator = .reduce ∧ target.dialect.Aggregates ∧ slot = .initial ∧
              (expression.operand slot).ReadsElement) := by
  obtain ⟨_, _, whole, _, ended, _⟩ := Target.exists_compileAt_of_condition compiled
  obtain ⟨expression, outcome⟩ := reached.exists_outcome ended
  rcases of_compileAt_operation outcome with ⟨_, _, registered, _⟩ | ⟨builtin, _, named, run⟩
  · simp at registered
  · obtain rfl := Operator.name_injective named
    obtain ⟨layout, laidOut⟩ := LaidOut.of_run_plan iterates run
    refine ⟨expression, layout, outcome, laidOut.laid, laidOut.explicit,
      Sql.render_eq_write laidOut.laid, ?_⟩
    intro slot outer
    refine ⟨?_, laidOut.rebound_iff slot outer, laidOut.captures_iff outer⟩
    obtain ⟨inner, found, answered⟩ := laidOut.asked slot outer
    exact ⟨inner, found, (answer_operand found scope none).symm.trans answered⟩

/-- A sum that starts with a member of the element around it. -/
def basedSum : Rule :=
  .operation Operator.reduce.name (.list
    [.operation Operator.var.name (.string "items"),
     .operation Operator.add.name (.list
       [.operation Operator.var.name (.string "accumulator"),
        .operation Operator.var.name (.string "current")]),
     .operation Operator.var.name (.string "base")])

/-- The sums of all rows. -/
def basedSums : Rule :=
  .operation Operator.map.name (.list [.operation Operator.var.name (.string "rows"), basedSum])

/-- The job of compiling the sum of a row. -/
def basedSumJob : Job :=
  ⟨basedSum, ⟨.member .start "map", some 1, 1⟩, .element, none⟩

theorem reaches_basedSumJob :
    (Job.whole basedSums).Reaches (Target.ofDialect .bigQuery).context basedSumJob :=
  .single (@Job.Starts.request _ .map _ _ _ _ _ _ ⟨.operand 1, .element, none⟩
    rfl (.later rfl .here) rfl)

theorem captures_basedSum :
    (Target.ofDialect .bigQuery).condition (.rule basedSums) =
      .ok ("ARRAY(SELECT (SELECT elem.base + COALESCE(SUM(elem), 0) " ++
        "FROM UNNEST(elem.items) AS elem) FROM UNNEST(rows) AS elem)") ∧
    ∃ expression,
      basedSumJob.outcome (Target.ofDialect .bigQuery).context = .ok expression ∧
        expression.Captures .bigQuery .initial ∧ ¬ expression.Captures .bigQuery .source := by
  have compiled : (Target.ofDialect .bigQuery).condition (.rule basedSums) =
      .ok ("ARRAY(SELECT (SELECT elem.base + COALESCE(SUM(elem), 0) " ++
        "FROM UNNEST(elem.items) AS elem) FROM UNNEST(rows) AS elem)") :=
    rfl
  obtain ⟨expression, layout, ended, _, _, _, outer⟩ := captures_iff_aggregated_initial _ _ _
    compiled .reduce rfl _ _ _ _ reaches_basedSumJob
  refine ⟨compiled, expression, ended, ?_, ?_⟩
  · obtain ⟨⟨inner, found, answered⟩, _, captures⟩ := outer .initial (by decide)
    obtain rfl : .operation Operator.var.name (.string "base") = inner := Option.some.inj found
    have member : .bound .element (some "base") = expression.operand .initial :=
      Except.ok.inj answered
    exact captures.mpr ⟨rfl, ⟨_, rfl⟩, rfl, member ▸ .here _⟩
  · obtain ⟨_, _, captures⟩ := outer .source (by decide)
    intro captured
    obtain ⟨_, _, impossible, _⟩ := captures.mp captured
    cases impossible

end RuleClause
