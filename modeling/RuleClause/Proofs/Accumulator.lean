import Mathlib.Data.List.TakeDrop
import RuleClause.Proofs.Compile.Reach
import RuleClause.Proofs.Target

/-!
# The running value where reductions are aggregates

An aggregate has no running value, so that nothing may refer to it there.  Of a
reducer only the value per element is compiled, and a reducer is recognised only if
no variable in that value reads the running value.  The tests for missing fields
are not looked at.  So a variable never reads the running value, and a test for
missing fields does as soon as it names it in the value of a reducer.
-/

namespace RuleClause

/-! ## What an expression reads -/

namespace Sql

/-- The expressions directly inside an expression. -/
def children : Sql → List Sql
  | .null | .bool _ | .number _ | .string _ | .column _ | .bound .. | .elementItem _
  | .fragment _ => []
  | .array items | .group _ items | .call _ items | .remainder items | .arrayConcat items => items
  | .test operand _ | .not operand | .minus operand | .minusGroup operand | .numericCast operand
  | .textLength operand | .arrayLength operand => [operand]
  | .binary _ left right | .contains left right | .arrayContains left right
  | .mapped left right | .filtered left right | .quantified _ left right => [left, right]
  | .cases branches otherwise => branches.flatMap (fun branch => [branch.1, branch.2]) ++ [otherwise]
  | .substring operand start length => operand :: start :: length.toList
  | .oneOf value items => value :: items
  | .folded _ source body initial => [source, body, initial]
  | .aggregated _ _ source value initial => [source, value, initial]

/-- The running value of a reduction, or a member of it, occurs in an expression. -/
inductive ReadsAccumulator : Sql → Prop
  | here (member : Option String) : ReadsAccumulator (.bound .accumulator member)
  | inside
      {expression child : Sql}
      (member : child ∈ expression.children)
      (reads : ReadsAccumulator child) :
      ReadsAccumulator expression

namespace ReadsAccumulator

theorem iff_children (expression : Sql) :
    expression.ReadsAccumulator ↔
      (∃ member, expression = .bound .accumulator member) ∨
        ∃ child ∈ expression.children, child.ReadsAccumulator := by
  constructor
  · intro reads
    cases reads with
    | here member => exact .inl ⟨member, rfl⟩
    | inside member reads => exact .inr ⟨_, member, reads⟩
  · rintro (⟨member, rfl⟩ | ⟨child, member, reads⟩)
    · exact .here member
    · exact .inside member reads

theorem group_iff (operator : BinaryOp) (terms : List Sql) :
    (Sql.group operator terms).ReadsAccumulator ↔ ∃ term ∈ terms, term.ReadsAccumulator := by
  rw [iff_children]
  simp [children]

theorem joined_iff (operator : BinaryOp) (terms : List Sql) :
    (joined operator terms).ReadsAccumulator ↔ ∃ term ∈ terms, term.ReadsAccumulator := by
  unfold joined
  split
  · simp
  · exact group_iff operator _

theorem test_iff (operand : Sql) (check : Test) :
    (Sql.test operand check).ReadsAccumulator ↔ operand.ReadsAccumulator := by
  rw [iff_children]
  simp [children]

theorem not_bool (value : Bool) : ¬ (Sql.bool value).ReadsAccumulator := by
  rw [iff_children]
  simp [children]

theorem not_number (text : String) : ¬ (Sql.number text).ReadsAccumulator := by
  rw [iff_children]
  simp [children]

theorem not_of_ofLiteral?
    {type : Option FieldType}
    {rule : Rule}
    {expression : Sql}
    (literal : Sql.ofLiteral? type rule = some expression) :
    ¬ expression.ReadsAccumulator := by
  rw [iff_children]
  cases rule with
  | null | bool | number =>
      obtain rfl := Option.some.inj literal
      simp [children, ofNumber]
  | string value =>
      obtain rfl := Option.some.inj literal
      unfold ofText
      split <;> simp [children]
  | list | operation => simp [ofLiteral?] at literal

end ReadsAccumulator
end Sql

/-! ## Names of the running value -/

namespace Arrays

theorem splitName_fst (name : String) :
    (Reference.splitName name).1 = String.ofList (name.toList.takeWhile (· != '.')) := by
  unfold Reference.splitName
  rw [List.span_eq_takeWhile_dropWhile]
  split <;> simp_all

/-- A name is one of the running value if that is what stands before its first dot. -/
theorem namesAccumulator_iff (name : String) :
    namesAccumulator name = true ↔ (Reference.splitName name).1 = "accumulator" := by
  rw [splitName_fst, ← String.toList_inj, String.toList_ofList]
  simp only [namesAccumulator, Bool.or_eq_true, beq_iff_eq, List.isPrefixOf_iff_prefix]
  constructor
  · rintro (rfl | ⟨rest, written⟩)
    · decide
    · rw [← written]
      rfl
  · intro head
    have whole := List.takeWhile_append_dropWhile (p := (· != '.')) (l := name.toList)
    rw [head] at whole
    cases rest : name.toList.dropWhile (· != '.') with
    | nil =>
        rw [rest, List.append_nil] at whole
        exact .inl (String.toList_inj.mp whole.symm)
    | cons first others =>
        have dot := List.head?_dropWhile_not (· != '.') name.toList
        rw [rest] at dot whole
        obtain rfl : first = '.' := by simpa using dot
        exact .inr ⟨others, whole⟩

end Arrays

namespace Reference

/-- A name that stands for an expression reads the running value only inside a reduction. -/
theorem Resolves.readsAccumulator_iff
    {setting : Setting}
    {name : String}
    {expression : Sql}
    (resolves : Resolves setting name expression) :
    expression.ReadsAccumulator ↔
      setting.scope = .reduction ∧ Arrays.namesAccumulator name = true := by
  obtain ⟨schema, scope⟩ := setting
  rw [Sql.ReadsAccumulator.iff_children, Arrays.namesAccumulator_iff]
  cases scope with
  | row =>
      obtain ⟨_, rfl⟩ := resolves
      simp [Sql.children]
  | element =>
      obtain rfl := Option.some.inj resolves
      simp [inIteration, Sql.children]
  | reduction =>
      have meaning : inReduction? name = some expression := resolves
      unfold inReduction? at meaning
      simp only at meaning
      split at meaning
      · rename_i element
        obtain rfl := Option.some.inj meaning
        have other : (splitName name).1 ≠ "accumulator" := by
          rcases element with empty | current
          · simp [empty]
          · simp [current]
        simp [Sql.children, other]
      · split at meaning
        · rename_i running
          obtain rfl := Option.some.inj meaning
          simp [running]
        · simp at meaning

/-- The test that some of the fields is null reads what the fields stand for. -/
theorem readsAccumulator_nullTests (operator : BinaryOp) (references : List Sql) :
    (nullTests operator references).ReadsAccumulator ↔
      ∃ reference ∈ references, reference.ReadsAccumulator := by
  simp [nullTests, Sql.ReadsAccumulator.joined_iff, Sql.ReadsAccumulator.test_iff]

theorem readsAccumulator_presence (reference : Sql) :
    (presence reference).ReadsAccumulator ↔ reference.ReadsAccumulator := by
  rw [presence, Sql.ReadsAccumulator.iff_children]
  simp [Sql.children, Sql.ReadsAccumulator.test_iff, Sql.integer,
    Sql.ReadsAccumulator.not_number]

/-- A count of fields reads what they stand for, unless the number of fields decides. -/
theorem readsAccumulator_fewerThan (least : Int) (references : List Sql) :
    (fewerThan least references).ReadsAccumulator ↔
      (0 < least ∧ least ≤ references.length) ∧
        ∃ reference ∈ references, reference.ReadsAccumulator := by
  unfold fewerThan
  split
  · have bound : ¬ 0 < least := by omega
    simp [Sql.ReadsAccumulator.not_bool, bound]
  · have positive : 0 < least := by omega
    split
    · have bound : ¬ least ≤ references.length := by omega
      simp [Sql.ReadsAccumulator.not_bool, bound]
    · have enough : least ≤ references.length := by omega
      simp only [positive, enough, and_self, true_and]
      split
      · exact readsAccumulator_nullTests .or references
      · split
        · exact readsAccumulator_nullTests .and references
        · rw [Sql.ReadsAccumulator.iff_children]
          simp [Sql.children, Sql.ReadsAccumulator.group_iff, readsAccumulator_presence,
            Sql.integer, Sql.ReadsAccumulator.not_number]

/-- Some of the expressions that names stand for reads the running value. -/
theorem exists_readsAccumulator_iff
    {setting : Setting}
    {names : List Rule}
    {references : List Sql}
    (resolved : List.Forall₂
      (fun rule reference => ∃ name, rule = .string name ∧ Resolves setting name reference)
      names references) :
    (∃ reference ∈ references, reference.ReadsAccumulator) ↔
      setting.scope = .reduction ∧
        ∃ name, .string name ∈ names ∧ Arrays.namesAccumulator name = true := by
  constructor
  · rintro ⟨reference, member, reads⟩
    obtain ⟨rule, listed, name, rfl, resolves⟩ := resolved.exists_of_mem_right member
    obtain ⟨scope, named⟩ := resolves.readsAccumulator_iff.mp reads
    exact ⟨scope, name, listed, named⟩
  · rintro ⟨scope, name, listed, named⟩
    obtain ⟨reference, member, other, same, resolves⟩ := resolved.exists_of_mem_left listed
    obtain rfl := Rule.string.inj same
    exact ⟨reference, member, resolves.readsAccumulator_iff.mpr ⟨scope, named⟩⟩

end Reference

/-! ## Values of reducers -/

namespace Arrays

theorem someMentionsAccumulator_eq_any (rules : List Rule) :
    someMentionsAccumulator rules = rules.any mentionsAccumulator := by
  induction rules with
  | nil => rfl
  | cons rule rest inductionHypothesis =>
      simp [someMentionsAccumulator, inductionHypothesis]

theorem mentionsAccumulator_of_mem_children
    {rule child : Rule}
    (member : child ∈ rule.children)
    (mentions : mentionsAccumulator child = true) :
    mentionsAccumulator rule = true := by
  have listed (items : List Rule) (member : child ∈ items) :
      mentionsAccumulator (.list items) = true := by
    rw [mentionsAccumulator, someMentionsAccumulator_eq_any, List.any_eq_true]
    exact ⟨child, member, mentions⟩
  cases rule with
  | list items => exact listed items member
  | operation operator arguments =>
      rw [mentionsAccumulator, Bool.or_eq_true]
      right
      cases arguments with
      | list items => exact listed items member
      | null | bool | number | string | operation =>
          obtain rfl := List.mem_singleton.mp member
          exact mentions
  | null | bool | number | string => simp [Rule.children] at member

/-- A rule mentions the running value if some rule inside of it does. -/
theorem mentionsAccumulator_of_contains
    {rule inner : Rule}
    (contained : rule.Contains inner)
    (mentions : mentionsAccumulator inner = true) :
    mentionsAccumulator rule = true := by
  obtain ⟨trail, occurs⟩ := contained
  induction occurs with
  | here => exact mentions
  | inside _ found inductionHypothesis =>
      exact inductionHypothesis
        (mentionsAccumulator_of_mem_children (List.mem_of_getElem? found) mentions)

/-- The value of a recognised reducer does not mention the running value. -/
theorem mentionsAccumulator_of_aggregateOf?
    {reducer value : Rule}
    {aggregate : Dialect.Aggregate}
    {index : Nat}
    (recognised : aggregateOf? reducer = some (aggregate, index))
    (found : reducer.parts[index]? = some value) :
    mentionsAccumulator value = false := by
  unfold aggregateOf? at recognised
  split at recognised
  · rename_i operator terms
    simp only [Option.bind_eq_bind, Option.bind_eq_some_iff, Option.pure_def,
      Option.some.injEq, Prod.mk.injEq] at recognised
    obtain ⟨_, _, _, placed, _, rfl⟩ := recognised
    unfold valueIndex? at placed
    split at placed
    · rename_i first second
      split at placed
      · rename_i leading
        obtain rfl : 1 = _ := by simpa using placed
        obtain rfl : second = value := by simpa [Rule.parts] using found
        simpa using (Bool.and_eq_true_iff.mp leading).2
      · split at placed
        · rename_i trailing
          obtain rfl : 0 = _ := by simpa using placed
          obtain rfl : first = value := by simpa [Rule.parts] using found
          simpa using (Bool.and_eq_true_iff.mp trailing).2
        · simp at placed
    · simp at placed
  · simp at recognised

end Arrays

/-! ## Jobs inside reductions -/

namespace Job

variable {context : Context (Except Error)} {job inner : Job}

/-- Inside a reduction, no variable in the rule reads the running value. -/
def Silent (job : Job) : Prop :=
  job.scope = .reduction → Arrays.mentionsAccumulator job.rule = false

/-- The same holds for a rule inside, compiled in the same scope. -/
theorem Silent.of_contains
    (silent : job.Silent)
    (contained : job.rule.Contains inner.rule)
    (same : inner.scope = job.scope) :
    inner.Silent := by
  intro reduction
  rw [← Bool.not_eq_true]
  intro mentions
  have outer := Arrays.mentionsAccumulator_of_contains contained mentions
  simp [silent (same ▸ reduction)] at outer

/-- Where reductions are aggregates, a job starts silent jobs if it is silent itself. -/
theorem Starts.silent
    (starts : job.Starts context inner)
    (aggregates : context.dialect.Aggregates)
    (silent : job.Silent) :
    inner.Silent := by
  cases starts with
  | item found =>
      exact silent.of_contains (.of_mem_children (List.mem_of_getElem? found)) rfl
  | argument registered found =>
      exact silent.of_contains (.of_mem_children (List.mem_of_getElem? found)) rfl
  | @request operator arguments rule position place scope hint request _ asks picked =>
      cases (Operator.asksOnly_plan context.dialect operator).of_asks asks with
      | own same => exact silent.of_contains (Selection.contains_of_pick? picked) same
      | body =>
          intro reduction
          cases reduction
      | fold _ folds => exact absurd aggregates folds
      | @value reducer _ index _ _ second recognised =>
          intro _
          obtain ⟨operand, found, picked⟩ := Option.bind_eq_some_iff.mp picked
          obtain ⟨part, foundPart, same⟩ := Option.map_eq_some_iff.mp picked
          obtain ⟨rfl, _⟩ := Prod.mk.inj same
          obtain rfl : reducer = operand := Option.some.inj (second.symm.trans found)
          exact Arrays.mentionsAccumulator_of_aggregateOf? recognised foundPart

/-- Every job that a whole rule reaches is silent. -/
theorem Reaches.silent
    {rule : Rule}
    (reaches : (whole rule).Reaches context job)
    (aggregates : context.dialect.Aggregates) :
    job.Silent := by
  induction reaches with
  | refl =>
      intro reduction
      cases reduction
  | tail _ starts inductionHypothesis => exact starts.silent aggregates inductionHypothesis

end Job

/-! ## References to fields -/

/-- The operator names fields. -/
def Operator.namesFields : Operator → Bool
  | .var | .missing | .missingSome => true
  | _ => false

/-- The number of fields decides whether too few of them are present. -/
def Reference.Decided (operator : Operator) (operands : List Rule) : Prop :=
  operator = .missingSome ∧ ∃ value least names,
    operands = [.number value, .list names] ∧ value.toSigned? = some least ∧
      (least ≤ 0 ∨ names.length < least)

namespace Reference

variable {answer : Request → Except Error Sql} {setting : Setting} {call : Call}
  {expression : Sql}

theorem leadingText?_of_operands
    {arguments : Rule}
    {name : String}
    {rest : List Rule}
    (operands : arguments.operands = .string name :: rest) :
    arguments.leadingText? = some name := by
  cases arguments with
  | list items =>
      obtain rfl : items = .string name :: rest := operands
      rfl
  | string text =>
      obtain ⟨same, _⟩ := List.cons.inj operands
      obtain rfl := Rule.string.inj same
      rfl
  | null | bool | number | operation =>
      obtain ⟨same, _⟩ := List.cons.inj operands
      cases same

/-- A variable that is not found to read the running value does not read it. -/
theorem not_readsAccumulator_of_run_reference
    {name : Rule}
    {rest : List Rule}
    (operands : call.operands = name :: rest)
    (silent : setting.scope = .reduction →
      Arrays.mentionsAccumulator (.operation Operator.var.name call.arguments) = false)
    (ended : (reference setting call name).run answer = .ok expression) :
    ¬ expression.ReadsAccumulator := by
  rcases resolves_of_run_reference ended with
    ⟨text, rfl, resolves⟩ | ⟨value, index, rfl, _, rfl⟩
  · rw [resolves.readsAccumulator_iff]
    rintro ⟨reduction, named⟩
    have mentions : Arrays.mentionsAccumulator (.operation Operator.var.name call.arguments) =
        true := by
      have read : (Rule.operation Operator.var.name call.arguments).variableName? =
          some text :=
        leadingText?_of_operands operands
      simp [Arrays.mentionsAccumulator, read, named]
    simp [silent reduction] at mentions
  · rw [Sql.ReadsAccumulator.iff_children]
    simp [Sql.children]

theorem not_readsAccumulator_of_run_var
    (silent : setting.scope = .reduction →
      Arrays.mentionsAccumulator (.operation Operator.var.name call.arguments) = false)
    (ended : (var setting call).run answer = .ok expression) :
    ¬ expression.ReadsAccumulator := by
  rcases of_run_var ended with
    ⟨name, operands, read⟩ | ⟨name, default, reference, fallback, operands, read, literal, _, rfl⟩
  · exact not_readsAccumulator_of_run_reference operands silent read
  · rw [Sql.ReadsAccumulator.iff_children]
    have first := not_readsAccumulator_of_run_reference operands silent read
    have second := Sql.ReadsAccumulator.not_of_ofLiteral? literal
    simp [Sql.children, first, second]

theorem readsAccumulator_of_run_missing
    (ended : (missing setting call).run answer = .ok expression) :
    expression.ReadsAccumulator ↔ setting.scope = .reduction ∧
      ∃ name, .string name ∈ Operator.missing.fieldNames call.operands ∧
        Arrays.namesAccumulator name = true := by
  obtain ⟨references, resolved, rfl⟩ := of_run_missing ended
  rw [readsAccumulator_nullTests, exists_readsAccumulator_iff resolved]
  rfl

theorem readsAccumulator_of_run_missingSome
    (ended : (missingSome setting call).run answer = .ok expression) :
    expression.ReadsAccumulator ↔ setting.scope = .reduction ∧
      ¬ Decided .missingSome call.operands ∧
      ∃ name, .string name ∈ Operator.missingSome.fieldNames call.operands ∧
        Arrays.namesAccumulator name = true := by
  obtain ⟨value, least, names, references, listed, resolved, signed, rfl⟩ :=
    of_run_missingSome ended
  have operands : call.operands = [.number value, .list names] := by
    rw [Call.operands, listed]
    rfl
  have undecided : ¬ Decided .missingSome call.operands ↔
      0 < least ∧ least ≤ references.length := by
    have length := resolved.length_eq
    simp [Decided, operands, signed]
    omega
  rw [readsAccumulator_fewerThan, exists_readsAccumulator_iff resolved, undecided, operands]
  simp only [Operator.fieldNames]
  tauto

end Reference

/--
On a dialect that writes reductions as aggregates, a reference to fields that is
compiled reads the running value exactly if it is a test for missing fields, stands
in the value of a reducer and names the running value, and the number of its fields
does not decide it.
-/
theorem readsAccumulator_iff_missing
    (target : Target)
    (aggregates : target.dialect.Aggregates)
    (rule : Rule)
    (text : String)
    (compiled : target.condition (.rule rule) = .ok text)
    (operator : Operator)
    (refers : operator.namesFields = true)
    (arguments : Rule)
    (position : Position)
    (scope : Scope)
    (hint : Option FieldType)
    (reached : (Job.whole rule).Reaches target.context
      ⟨.operation operator.name arguments, position, scope, hint⟩) :
    ∃ expression,
      compileAt target.context (.operation operator.name arguments) position scope hint =
          .ok expression ∧
        (expression.ReadsAccumulator ↔
          operator ≠ .var ∧ scope = .reduction ∧
            ¬ Reference.Decided operator arguments.operands ∧
            ∃ name, .string name ∈ operator.fieldNames arguments.operands ∧
              Arrays.namesAccumulator name = true) := by
  obtain ⟨_, _, whole, _, ended, _⟩ := Target.exists_compileAt_of_condition compiled
  obtain ⟨expression, outcome⟩ := reached.exists_outcome ended
  refine ⟨expression, outcome, ?_⟩
  have silent := reached.silent aggregates
  rcases of_compileAt_operation outcome with ⟨_, _, registered, _⟩ | ⟨builtin, _, named, run⟩
  · simp at registered
  · obtain rfl := Operator.name_injective named
    cases operator with
    | var =>
        have reads : ¬ expression.ReadsAccumulator := by
          refine Reference.not_readsAccumulator_of_run_var ?_ run
          exact silent
        simp [reads]
    | missing =>
        rw [Reference.readsAccumulator_of_run_missing run]
        simp [Reference.Decided, Call.operands]
    | missingSome =>
        rw [Reference.readsAccumulator_of_run_missingSome run]
        simp [Call.operands]
    | _ => simp [Operator.namesFields] at refers

/-- A test that the running value is missing. -/
def missingAccumulator : Rule :=
  .operation Operator.missing.name (.list [.string "accumulator"])

/-- A choice by that test. -/
def missingChoice : Rule :=
  .operation Operator.conditional.name
    (.list [missingAccumulator, .number (.integer 1), .number (.integer 0)])

/-- A reduction with that choice for the value of its reducer. -/
def missingReduction : Rule :=
  .operation Operator.reduce.name (.list
    [.operation Operator.var.name (.string "items"),
     .operation Operator.add.name
       (.list [.operation Operator.var.name (.string "accumulator"), missingChoice]),
     .number (.integer 0)])

/-- The job of compiling the choice. -/
def choiceJob : Job :=
  ⟨missingChoice, ⟨.item (.member (.member .start "reduce") "+") 1, some 1, 2⟩, .reduction,
    some .number⟩

/-- The job of compiling the test. -/
def missingJob : Job :=
  ⟨missingAccumulator,
    ⟨.item (.member (.item (.member (.member .start "reduce") "+") 1) "if") 1, some 0, 3⟩,
    .reduction, none⟩

theorem reaches_missingJob :
    (Job.whole missingReduction).Reaches (Target.ofDialect .bigQuery).context missingJob := by
  have choice : (Job.whole missingReduction).Starts (Target.ofDialect .bigQuery).context
      choiceJob :=
    @Job.Starts.request _ .reduce _ _ _ _ _ _ ⟨.part 1 1, .reduction, some .number⟩
      rfl (.later rfl (.later rfl .here)) rfl
  have test : choiceJob.Starts (Target.ofDialect .bigQuery).context missingJob :=
    @Job.Starts.request _ .conditional _ _ _ _ _ _ ⟨.operand 0, .reduction, none⟩ rfl .here rfl
  exact .tail (.tail .refl choice) test

theorem readsAccumulator_missingReduction :
    (Target.ofDialect .bigQuery).condition (.rule missingReduction) =
      .ok ("(SELECT 0 + COALESCE(SUM(CASE WHEN acc IS NULL THEN 1 ELSE 0 END), 0) " ++
        "FROM UNNEST(items) AS elem)") ∧
    ∃ expression,
      missingJob.outcome (Target.ofDialect .bigQuery).context = .ok expression ∧
        expression.ReadsAccumulator := by
  have compiled : (Target.ofDialect .bigQuery).condition (.rule missingReduction) =
      .ok ("(SELECT 0 + COALESCE(SUM(CASE WHEN acc IS NULL THEN 1 ELSE 0 END), 0) " ++
        "FROM UNNEST(items) AS elem)") :=
    rfl
  obtain ⟨expression, ended, reads⟩ := readsAccumulator_iff_missing _ ⟨_, rfl⟩ _ _ compiled
    .missing rfl _ _ _ _ reaches_missingJob
  refine ⟨compiled, expression, ended, reads.mpr ⟨by decide, rfl, ?_, "accumulator", ?_, rfl⟩⟩
  · rintro ⟨impossible, _⟩
    cases impossible
  · simp [Operator.fieldNames, Reference.listedNames, Rule.operands]

end RuleClause
