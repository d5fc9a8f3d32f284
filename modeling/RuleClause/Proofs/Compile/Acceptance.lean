import RuleClause.Proofs.Compile.Success
import RuleClause.Proofs.Plan.Outcome
import RuleClause.Proofs.Rule.Occurrence

/-!
# What a compiled operation has seen of its operands

When an operation compiles, each of its operands has been compiled as well, or is
a literal whose outcome was known.  The exceptions are the operands of a folded
operation, and the reducer of a reduction that is written as an aggregate: of a
reducer only the value per element is compiled.
-/

namespace RuleClause

/-- Reductions are written as aggregates over a subquery. -/
def Dialect.Aggregates (dialect : Dialect) : Prop :=
  ∃ naming, dialect.forms.iteration = .subquery naming

/-- How the plan of an operator has dealt with an operand. -/
inductive OperandMet
    (dialect : Dialect)
    (answer : Request → Except Error Sql)
    (setting : Setting)
    (operator : Operator)
    (index : Nat)
    (operand : Rule) : Prop
  /-- It is a literal. -/
  | literal (plain : operand.isLiteral = true)
  /-- It is a list of literals. -/
  | literals
      {items : List Rule}
      (listed : operand = .list items)
      (plain : ∀ item ∈ items, item.isLiteral = true)
  /-- It was compiled. -/
  | whole
      {hint : Option FieldType}
      {expression : Sql}
      (answered : answer (setting.operandRequest hint index) = .ok expression)
  /-- It is a list of which each item was compiled. -/
  | parts
      {items : List Rule}
      {hint : Option FieldType}
      (listed : operand = .list items)
      (answered : ∀ inner < items.length, ∃ expression,
        answer (setting.partRequest index hint inner) = .ok expression)
  /-- It is the body of an iteration and was compiled for the elements. -/
  | body
      {scope : Scope}
      {expression : Sql}
      (iterates : operator.iterates = true)
      (second : index = 1)
      (answered : answer ⟨.operand index, scope, none⟩ = .ok expression)
  /-- It is a reducer, and its value per element was compiled. -/
  | reducer
      {aggregate : Dialect.Aggregate}
      {number : Nat}
      {expression : Sql}
      (aggregates : dialect.Aggregates)
      (reduction : operator = .reduce)
      (second : index = 1)
      (recognised : Arrays.aggregateOf? operand = some (aggregate, number))
      (answered : answer ⟨.part index number, .reduction, some .number⟩ = .ok expression)

namespace OperandMet

variable {dialect : Dialect} {answer : Request → Except Error Sql} {setting : Setting}
  {call : Call} {operator : Operator} {index : Nat} {operand : Rule} {expression : Sql}

theorem of_answered
    {terms : List Sql}
    {hint : Option FieldType}
    (length : terms.length = call.operands.length)
    (answered : Answered answer (setting.operandRequest hint) terms)
    (found : call.operands[index]? = some operand) :
    OperandMet dialect answer setting operator index operand := by
  have bound := (List.getElem?_eq_some_iff.mp found).1
  obtain ⟨expression, asked⟩ := answered.of_lt (length ▸ bound)
  exact .whole asked

theorem of_names
    {names : List Rule}
    {references : List Sql}
    (resolved : List.Forall₂
      (fun rule reference => ∃ name, rule = .string name ∧
        Reference.Resolves setting name reference)
      names references)
    {rule : Rule}
    (member : rule ∈ names) :
    rule.isLiteral = true := by
  obtain ⟨_, _, name, rfl, _⟩ := resolved.exists_of_mem_left member
  rfl

theorem of_run_reference
    {rule : Rule}
    (ended : (Reference.reference setting call rule).run answer = .ok expression) :
    rule.isLiteral = true := by
  rcases Reference.resolves_of_run_reference ended with ⟨name, rfl, _⟩ | ⟨value, _, rfl, _⟩
  · rfl
  · rfl

theorem of_run_var
    (ended : (Reference.var setting call).run answer = .ok expression)
    (found : call.operands[index]? = some operand) :
    OperandMet dialect answer setting operator index operand := by
  apply OperandMet.literal
  have member := List.mem_of_getElem? found
  rcases Reference.of_run_var ended with
    ⟨name, operands, resolved⟩ | ⟨name, default, _, fallback, operands, resolved, written, _⟩
  · obtain rfl : operand = name := by simpa [operands] using member
    exact of_run_reference resolved
  · rcases show operand = name ∨ operand = default by simpa [operands] using member with
      rfl | rfl
    · exact of_run_reference resolved
    · cases operand with
      | list | operation => simp [Sql.ofLiteral?] at written
      | null | bool | number | string => rfl

theorem of_run_missing
    (ended : (Reference.missing setting call).run answer = .ok expression)
    (found : call.operands[index]? = some operand) :
    OperandMet dialect answer setting operator index operand := by
  obtain ⟨references, resolved, _⟩ := Reference.of_run_missing ended
  have member := List.mem_of_getElem? found
  unfold Reference.listedNames at resolved
  split at resolved
  · rename_i names operands
    exact .literals (by simpa [operands] using member) fun _ inside => of_names resolved inside
  · exact .literal (of_names resolved member)

theorem of_run_missingSome
    (ended : (Reference.missingSome setting call).run answer = .ok expression)
    (found : call.operands[index]? = some operand) :
    OperandMet dialect answer setting operator index operand := by
  obtain ⟨value, least, names, references, arguments, resolved, _⟩ :=
    Reference.of_run_missingSome ended
  have member := List.mem_of_getElem? found
  rcases show operand = .number value ∨ operand = .list names by
      simpa [Call.operands, Rule.operands, arguments] using member with rfl | rfl
  · exact .literal rfl
  · exact .literals rfl fun _ inside => of_names resolved inside

theorem of_run_equality
    {binary : BinaryOp}
    {nullTest : Test}
    (ended : (Logic.equality setting call binary nullTest).run answer = .ok expression)
    (found : call.operands[index]? = some operand) :
    OperandMet dialect answer setting operator index operand := by
  obtain ⟨left, right, operands, outcome⟩ := Logic.of_run_equality ended
  rcases index with _ | _ | index
  · obtain rfl : left = operand := by simpa [operands] using found
    rcases outcome with ⟨_, _, asked, _⟩ | ⟨rfl, _⟩ | ⟨_, _, _, _, asked, _⟩
    · exact .whole asked
    · exact .literal rfl
    · exact .whole asked
  · obtain rfl : right = operand := by simpa [operands] using found
    rcases outcome with ⟨rfl, _⟩ | ⟨_, _, asked, _⟩ | ⟨_, _, _, _, _, asked, _⟩
    · exact .literal rfl
    · exact .whole asked
    · exact .whole asked
  · simp [operands] at found

theorem of_run_negation
    (ended : (Logic.negation setting call).run answer = .ok expression)
    (found : call.operands[index]? = some operand) :
    OperandMet dialect answer setting operator index operand := by
  obtain ⟨single, inner, operands, asked, _⟩ := (Logic.run_negation_eq_ok_iff _).mp ended
  obtain ⟨rfl, rfl⟩ : index = 0 ∧ single = operand := by
    simpa [operands, List.getElem?_singleton] using found
  exact .whole asked

theorem of_run_truthy
    (ended : (Logic.truthy setting call).run answer = .ok expression)
    (found : call.operands[index]? = some operand)
    (unlisted : ∀ items, call.operands ≠ [.list items]) :
    OperandMet dialect answer setting operator index operand := by
  rcases Logic.of_run_truthy ended with ⟨empty, _⟩ | ⟨single, operands, outcome⟩
  · simp [empty] at found
  · obtain ⟨rfl, rfl⟩ : index = 0 ∧ single = operand := by
      simpa [operands, List.getElem?_singleton] using found
    rcases outcome with ⟨truth, known, _⟩ | ⟨_, _, asked, _⟩
    · cases single with
      | list items => exact absurd operands (unlisted items)
      | operation => simp [Rule.truth?] at known
      | null | bool | number | string => exact .literal rfl
    · exact .whole asked

theorem of_run_connective
    {binary : BinaryOp}
    (ended : (Logic.connective setting call binary).run answer = .ok expression)
    (found : call.operands[index]? = some operand) :
    OperandMet dialect answer setting operator index operand := by
  obtain ⟨operands, terms, arguments, _, length, answered, _⟩ :=
    (Logic.run_connective_eq_ok_iff _ _).mp ended
  exact of_answered (by simpa [Call.operands, Rule.operands, arguments] using length) answered
    found

theorem of_run_conditional
    (ended : (Logic.conditional setting call).run answer = .ok expression)
    (found : call.operands[index]? = some operand) :
    OperandMet dialect answer setting operator index operand := by
  obtain ⟨operands, outcome, arguments, branched, _⟩ := Logic.of_run_conditional ended
  have bound := (List.getElem?_eq_some_iff.mp found).1
  have count : call.operands.length = operands.length := by
    simp [Call.operands, Rule.operands, arguments]
  obtain ⟨inner, asked⟩ := (Logic.of_run_branches branched).1 index (count ▸ bound)
  rw [Nat.zero_add] at asked
  exact .whole asked

theorem of_run_comparison
    {binary : BinaryOp}
    (ended : (Logic.comparison setting call binary).run answer = .ok expression)
    (found : call.operands[index]? = some operand) :
    OperandMet dialect answer setting operator index operand := by
  obtain ⟨operands, terms, arguments, _, _, length, answered, _⟩ :=
    (Logic.run_comparison_eq_ok_iff _ _).mp ended
  exact of_answered (by simpa [Call.operands, Rule.operands, arguments] using length) answered
    found

theorem of_run_terms
    {terms : List Sql}
    (ended : (Arithmetic.terms setting call).run answer = .ok terms)
    (found : call.operands[index]? = some operand) :
    OperandMet dialect answer setting operator index operand := by
  obtain ⟨_, length, answered⟩ := (Arithmetic.run_terms_eq_ok_iff _).mp ended
  exact of_answered length answered found

theorem of_run_chain
    {binary : BinaryOp}
    (ended : (Arithmetic.chain setting call binary).run answer = .ok expression)
    (found : call.operands[index]? = some operand) :
    OperandMet dialect answer setting operator index operand := by
  obtain ⟨_, terms, asked, _⟩ := (Arithmetic.run_chain_eq_ok_iff _ _).mp ended
  exact of_run_terms asked found

theorem of_run_add
    (ended : (Arithmetic.add setting call).run answer = .ok expression)
    (found : call.operands[index]? = some operand) :
    OperandMet dialect answer setting operator index operand := by
  rcases Arithmetic.of_run_add ended with ⟨single, operands, ended⟩ | ended
  · obtain ⟨rfl, rfl⟩ : index = 0 ∧ single = operand := by
      simpa [operands, List.getElem?_singleton] using found
    rcases (Arithmetic.of_run_plus ended).2 with ⟨_, rfl, _⟩ | ⟨_, rfl, _⟩ | ⟨_, asked, _⟩
    · exact .literal rfl
    · exact .literal rfl
    · exact .whole asked
  · exact of_run_chain ended found

theorem of_run_subtract
    (ended : (Arithmetic.subtract setting call).run answer = .ok expression)
    (found : call.operands[index]? = some operand) :
    OperandMet dialect answer setting operator index operand := by
  rcases Arithmetic.of_run_subtract ended with ⟨single, operands, ended⟩ | ended
  · obtain ⟨rfl, rfl⟩ : index = 0 ∧ single = operand := by
      simpa [operands, List.getElem?_singleton] using found
    obtain ⟨_, _, asked, _⟩ := (Arithmetic.run_minus_eq_ok_iff _ _).mp ended
    exact .whole asked
  · exact of_run_chain ended found

theorem of_run_cat
    (ended : (Strings.cat setting call).run answer = .ok expression)
    (found : call.operands[index]? = some operand) :
    OperandMet dialect answer setting operator index operand := by
  obtain ⟨_, _, terms, length, answered, _⟩ := (Strings.run_cat_eq_ok_iff _).mp ended
  exact of_answered length answered found

theorem isLiteral_of_integer?
    {value : Int}
    (written : Strings.integer? operand = some value) :
    operand.isLiteral = true := by
  cases operand with
  | number => rfl
  | null | bool | string | list | operation => simp [Strings.integer?] at written

theorem of_run_offset
    {place : Strings.Offset}
    (ended : (Strings.offset setting index operand).run answer = .ok place) :
    OperandMet dialect answer setting operator index operand := by
  rcases Strings.of_run_offset ended with ⟨_, written, _⟩ | ⟨_, asked, _⟩
  · exact .literal (isLiteral_of_integer? written)
  · exact .whole asked

theorem of_run_partLength
    {length : Sql}
    {offset : Strings.Offset}
    (ended : (Strings.partLength setting call length offset operand).run answer =
      .ok expression) :
    OperandMet dialect answer setting operator 2 operand := by
  unfold Strings.partLength at ended
  split at ended
  · rename_i value written
    exact .literal (isLiteral_of_integer? written)
  · exact .whole (by simpa using ended)

theorem of_run_substr
    (ended : (Strings.substr setting call).run answer = .ok expression)
    (found : call.operands[index]? = some operand) :
    OperandMet dialect answer setting operator index operand := by
  obtain ⟨text, place, inner, shift, first, _, _, asked, offset, _, outcome⟩ :=
    Strings.of_run_substr ended
  -- Both forms share their first two operands; only the longer one has a third.
  rcases outcome with ⟨arguments, _⟩ | ⟨length, size, arguments, _, measured, _⟩
  · rcases index with _ | _ | index
    · exact .whole asked
    · obtain rfl : place = operand := by
        simpa [Call.operands, Rule.operands, arguments] using found
      exact of_run_offset offset
    · simp [Call.operands, Rule.operands, arguments] at found
  · rcases index with _ | _ | _ | index
    · exact .whole asked
    · obtain rfl : place = operand := by
        simpa [Call.operands, Rule.operands, arguments] using found
      exact of_run_offset offset
    · obtain rfl : length = operand := by
        simpa [Call.operands, Rule.operands, arguments] using found
      exact of_run_partLength measured
    · simp [Call.operands, Rule.operands, arguments] at found

theorem of_run_membership
    (ended : (Arrays.membership setting call).run answer = .ok expression)
    (found : call.operands[index]? = some operand)
    (filled : ∀ needle, call.operands ≠ [needle, .list []]) :
    OperandMet dialect answer setting operator index operand := by
  obtain ⟨needle, haystack, arguments, outcome⟩ := Arrays.of_run_membership ended
  have operands : call.operands = [needle, haystack] := by
    simp [Call.operands, Rule.operands, arguments]
  rcases index with _ | _ | index
  · rcases outcome with ⟨items, rfl, searched⟩ | ⟨_, _, _, _, asked, _⟩
    · rcases Arrays.of_run_membershipIn searched with ⟨rfl, _⟩ | ⟨_, _, _, _, asked, _⟩
      · exact absurd operands (filled needle)
      · exact .whole asked
    · exact .whole asked
  · obtain rfl : haystack = operand := by simpa [operands] using found
    rcases outcome with ⟨items, rfl, searched⟩ | ⟨_, _, _, _, _, asked, _⟩
    · rcases Arrays.of_run_membershipIn searched with
        ⟨rfl, _⟩ | ⟨_, _, _, terms, _, length, answered, _⟩
      · exact absurd operands (filled needle)
      · exact .parts rfl fun inner bound => answered.of_lt (length ▸ bound)
    · exact .whole asked
  · simp [operands] at found

theorem of_run_iteration
    {build : Sql → Sql → Sql}
    (iterates : operator.iterates = true)
    (ended : (Arrays.iteration setting call build).run answer = .ok expression)
    (found : call.operands[index]? = some operand) :
    OperandMet dialect answer setting operator index operand := by
  obtain ⟨source, step, array, inner, arguments, _, askedArray, askedInner, _⟩ :=
    Arrays.of_run_iteration ended
  rcases index with _ | _ | index
  · exact .whole askedArray
  · exact .body iterates rfl askedInner
  · simp [Call.operands, Rule.operands, arguments] at found

theorem of_run_reduce
    (ended : (Arrays.reduce dialect setting call).run answer = .ok expression)
    (found : call.operands[index]? = some operand) :
    OperandMet dialect answer setting .reduce index operand := by
  obtain ⟨source, reducer, first, array, initial, arguments, _, askedArray, askedInitial,
    outcome⟩ := Arrays.of_run_reduce ended
  rcases index with _ | _ | _ | index
  · exact .whole askedArray
  · obtain rfl : reducer = operand := by
      simpa [Call.operands, Rule.operands, arguments] using found
    rcases outcome with
      ⟨_, _, _, asked, _⟩ | ⟨naming, aggregate, number, _, form, recognised, asked, _⟩
    · exact .body rfl rfl asked
    · exact .reducer ⟨naming, form⟩ rfl rfl recognised asked
  · exact .whole askedInitial
  · simp [Call.operands, Rule.operands, arguments] at found

theorem of_run_merge
    (ended : (Arrays.merge setting call).run answer = .ok expression)
    (found : call.operands[index]? = some operand) :
    OperandMet dialect answer setting operator index operand := by
  rcases Arrays.of_run_merge ended with ⟨arrays, merged, _⟩ | ⟨plain, items, merged, _⟩
  · obtain ⟨_, inner, asked⟩ := (Arrays.of_run_mergedArrays merged).1 index operand found
    rw [Nat.zero_add] at asked
    exact .whole asked
  · cases operand with
    | list parts =>
        have answered := (Arrays.of_run_mergedItems merged).1 index parts found
        simp only [Nat.zero_add] at answered
        exact .parts rfl answered
    | operation operator arguments =>
        have unlisted := plain _ (List.mem_of_getElem? found)
        simp [Rule.isOperation] at unlisted
    | null | bool | number | string => exact .literal rfl

/-- The plan of every operator deals with each operand, unless the operation is folded. -/
theorem of_run_plan
    (ended : (operator.plan dialect setting call).run answer = .ok expression)
    (found : call.operands[index]? = some operand)
    (unfolded : ¬ (Rule.operation operator.name call.arguments).IsFolded) :
    OperandMet dialect answer setting operator index operand := by
  cases operator with
  | var => exact of_run_var ended found
  | missing => exact of_run_missing ended found
  | missingSome => exact of_run_missingSome ended found
  | equal | strictEqual | notEqual | strictNotEqual => exact of_run_equality ended found
  | not => exact of_run_negation ended found
  | truthy =>
      exact of_run_truthy ended found fun items listed => unfolded (.inl ⟨rfl, items, listed⟩)
  | and | or => exact of_run_connective ended found
  | conditional => exact of_run_conditional ended found
  | ternary =>
      simp only [Operator.plan, Logic.ternary, Plan.run_bind_eq_ok_iff] at ended
      obtain ⟨_, _, ended⟩ := ended
      exact of_run_conditional ended found
  | greater | greaterEqual | less | lessEqual => exact of_run_comparison ended found
  | add => exact of_run_add ended found
  | subtract => exact of_run_subtract ended found
  | multiply | divide => exact of_run_chain ended found
  | modulo =>
      obtain ⟨_, asked, _⟩ := Arithmetic.of_run_modulo ended
      exact of_run_terms asked found
  | max | min =>
      obtain ⟨_, _, asked, _⟩ := (Arithmetic.run_extremum_eq_ok_iff _ _).mp ended
      exact of_run_terms asked found
  | cat => exact of_run_cat ended found
  | substr => exact of_run_substr ended found
  | membership =>
      exact of_run_membership ended found fun needle empty =>
        unfolded (.inr ⟨rfl, needle, empty⟩)
  | map | filter | all | some | none => exact of_run_iteration rfl ended found
  | reduce => exact of_run_reduce ended found
  | merge => exact of_run_merge ended found

end OperandMet

/-! ## Accepted rules -/

/-- A rule has been compiled in a scope, or consists of such rules and of literals. -/
inductive Accepted (context : Context (Except Error)) (scope : Scope) : Rule → Prop
  | literal
      {rule : Rule}
      (plain : rule.isLiteral = true) :
      Accepted context scope rule
  | list
      {items : List Rule}
      (each : ∀ item ∈ items, Accepted context scope item) :
      Accepted context scope (.list items)
  | operation
      {operator : String}
      {arguments : Rule}
      {position : Position}
      {hint : Option FieldType}
      {expression : Sql}
      (compiled :
        compileAt context (.operation operator arguments) position scope hint =
          .ok expression) :
      Accepted context scope (.operation operator arguments)

namespace Accepted

variable {context : Context (Except Error)} {scope : Scope}

/-- A rule that compiles is accepted. -/
theorem of_compileAt
    {rule : Rule}
    {position : Position}
    {hint : Option FieldType}
    {expression : Sql}
    (compiled : compileAt context rule position scope hint = .ok expression) :
    Accepted context scope rule := by
  match rule with
  | .null | .bool _ | .number _ | .string _ => exact .literal rfl
  | .operation operator arguments => exact .operation compiled
  | .list items =>
      obtain ⟨expressions, _, each⟩ := of_compileAt_list compiled
      refine .list fun item member => ?_
      obtain ⟨_, _, place, inner⟩ := each.exists_of_mem_left member
      exact of_compileAt inner
termination_by sizeOf rule
decreasing_by exact Rule.sizeOf_child_lt member

/-- A reducer combines the running value with a term that is accepted. -/
def Reducer (context : Context (Except Error)) (rule : Rule) : Prop :=
  ∃ combining : Operator, ∃ terms, rule = .operation combining.name (.list terms) ∧
    ∀ term ∈ terms, Arrays.isAccumulator term = true ∨ Accepted context .reduction term

/-- A recognised reducer has two terms, and the one that is not its value is the running value. -/
theorem of_aggregateOf?
    {rule : Rule}
    {aggregate : Dialect.Aggregate}
    {number : Nat}
    (recognised : Arrays.aggregateOf? rule = some (aggregate, number)) :
    ∃ combining : Operator, ∃ first second,
      rule = .operation combining.name (.list [first, second]) ∧
        ((number = 1 ∧ Arrays.isAccumulator first = true) ∨
          (number = 0 ∧ Arrays.isAccumulator second = true)) := by
  unfold Arrays.aggregateOf? at recognised
  split at recognised
  · rename_i operator terms
    simp only [Option.bind_eq_bind, Option.bind_eq_some_iff, Option.pure_def,
      Option.some.injEq, Prod.mk.injEq] at recognised
    obtain ⟨_, named, _, placed, _, rfl⟩ := recognised
    have combining : ∃ combining : Operator, operator = combining.name := by
      unfold Arrays.aggregate? at named
      split at named
      · exact ⟨.add, by assumption⟩
      · split at named
        · exact ⟨.max, by assumption⟩
        · split at named
          · exact ⟨.min, by assumption⟩
          · simp at named
    obtain ⟨combining, rfl⟩ := combining
    unfold Arrays.valueIndex? at placed
    split at placed
    · rename_i first second
      refine ⟨combining, first, second, rfl, ?_⟩
      split at placed
      · rename_i leading
        exact .inl ⟨by simpa using placed.symm, (Bool.and_eq_true_iff.mp leading).1⟩
      · split at placed
        · rename_i trailing
          exact .inr ⟨by simpa using placed.symm, (Bool.and_eq_true_iff.mp trailing).1⟩
        · simp at placed
    · simp at placed
  · simp at recognised

/-- The value of a recognised reducer is the only term of it that has to be accepted. -/
theorem Reducer.of_aggregateOf?
    {rule : Rule}
    {aggregate : Dialect.Aggregate}
    {number : Nat}
    (recognised : Arrays.aggregateOf? rule = some (aggregate, number))
    (value : ∀ term, rule.parts[number]? = some term → Accepted context .reduction term) :
    Reducer context rule := by
  obtain ⟨combining, first, second, rfl, placed⟩ := Accepted.of_aggregateOf? recognised
  refine ⟨combining, [first, second], rfl, fun term member => ?_⟩
  rcases placed with ⟨rfl, running⟩ | ⟨rfl, running⟩
  · rcases show term = first ∨ term = second by simpa using member with rfl | rfl
    · exact .inl running
    · exact .inr (value term rfl)
  · rcases show term = first ∨ term = second by simpa using member with rfl | rfl
    · exact .inr (value term rfl)
    · exact .inl running

/-- The operands of an operation that compiles, as far as its plan has dealt with them. -/
theorem of_operandMet
    {builtin : Operator}
    {arguments operand : Rule}
    {position : Position}
    {index : Nat}
    (met : OperandMet context.dialect
      (OperandCompiler.answer (operandsAt context builtin.name arguments position))
      ⟨context.schema, scope⟩ builtin index operand)
    (found : arguments.operands[index]? = some operand) :
    Accepted context scope operand ∨
      (Rule.LeavesBody (.operation builtin.name arguments, index) ∧
        ((∃ inner, Accepted context inner operand) ∨
          (context.dialect.Aggregates ∧ builtin = .reduce ∧ Reducer context operand))) := by
  cases met with
  | literal plain => exact .inl (.literal plain)
  | literals listed plain =>
      subst listed
      exact .inl (.list fun item member => .literal (plain item member))
  | whole answered =>
      rw [Setting.operandRequest, answer_operand found] at answered
      exact .inl (of_compileAt answered)
  | parts listed answered =>
      subst listed
      refine .inl (.list fun item member => ?_)
      obtain ⟨inner, foundItem⟩ := List.mem_iff_getElem?.mp member
      obtain ⟨expression, asked⟩ := answered inner (List.getElem?_eq_some_iff.mp foundItem).1
      obtain ⟨place, same⟩ := exists_answer_part context builtin.name position found
        (show (Rule.list _).parts[inner]? = some item from foundItem) scope _
      rw [Setting.partRequest, same] at asked
      exact of_compileAt asked
  | body iterates second answered =>
      rw [answer_operand found] at answered
      exact .inr ⟨⟨second, builtin, iterates, arguments, rfl⟩, .inl ⟨_, of_compileAt answered⟩⟩
  | @reducer _ number _ aggregates reduction second recognised answered =>
      subst reduction
      refine .inr ⟨⟨second, .reduce, rfl, arguments, rfl⟩, .inr ⟨aggregates, rfl, ?_⟩⟩
      refine .of_aggregateOf? recognised fun term foundTerm => ?_
      obtain ⟨place, same⟩ := exists_answer_part context Operator.reduce.name position found
        foundTerm .reduction (some .number)
      rw [same] at answered
      exact of_compileAt answered

/--
What stands behind an operand of an operation that compiles: the operand is
accepted, in the same scope unless it is a body, or it is the reducer of an
aggregate.
-/
theorem operand_of_compileAt
    {operator : String}
    {arguments operand : Rule}
    {position : Position}
    {hint : Option FieldType}
    {expression : Sql}
    {index : Nat}
    (compiled :
      compileAt context (.operation operator arguments) position scope hint = .ok expression)
    (unfolded : ¬ (Rule.operation operator arguments).IsFolded)
    (found : arguments.operands[index]? = some operand) :
    Accepted context scope operand ∨
      (Rule.LeavesBody (.operation operator arguments, index) ∧
        ((∃ inner, Accepted context inner operand) ∨
          (context.dialect.Aggregates ∧ operator = Operator.reduce.name ∧
            Reducer context operand))) := by
  rcases of_compileAt_operation compiled with ⟨_, _, _, _, each⟩ | ⟨builtin, _, rfl, ended⟩
  · obtain ⟨place, inner, compiledOperand⟩ := each operand (List.mem_of_getElem? found)
    exact .inl (of_compileAt compiledOperand)
  · rcases of_operandMet (.of_run_plan ended found unfolded) found with
      accepted | ⟨leaves, inside | ⟨aggregates, rfl, reducer⟩⟩
    · exact .inl accepted
    · exact .inr ⟨leaves, .inl inside⟩
    · exact .inr ⟨leaves, .inr ⟨aggregates, rfl, reducer⟩⟩

end Accepted
end RuleClause
