import RuleClause.Plan.Operator
import RuleClause.Proofs.Plan.Success

/-!
# What operators demand and what they give

For each operator, this module says what follows when its plan ends with an
expression: the shape of the operands, the checks that they have passed, the
requests that were answered, and the expression itself.  Nothing is said about
plans that end with an error.
-/

namespace RuleClause

variable {answer : Request → Except Error Sql} {setting : Setting} {call : Call}

namespace Reference

/-- A name stands for an expression: a column that may be named, or what is bound. -/
def Resolves (setting : Setting) (name : String) (expression : Sql) : Prop :=
  match setting.scope with
  | .row => setting.Knows name ∧ expression = .column name
  | scope => bound? scope name = some expression

theorem run_named_eq_ok_iff (path : Path) (name : String) (expression : Sql) :
    (named setting call path name).run answer = .ok expression ↔
      Resolves setting name expression := by
  obtain ⟨schema, scope⟩ := setting
  cases scope with
  | row =>
      simp only [named, Resolves, Plan.run_bind_eq_ok_iff, Setting.run_require_eq_ok_iff,
        Plan.run_pure, Except.ok.injEq]
      constructor
      · rintro ⟨_, known, column⟩
        exact ⟨known, column.symm⟩
      · rintro ⟨known, column⟩
        exact ⟨(), known, column.symm⟩
  | element => simp [named, Resolves, bound?]
  | reduction =>
      cases meaning : bound? .reduction name with
      | none => simp [named, Resolves, meaning]
      | some reference => simp [named, Resolves, meaning]

theorem resolves_of_run_reference
    {rule : Rule}
    {expression : Sql}
    (ended : (reference setting call rule).run answer = .ok expression) :
    (∃ name, rule = .string name ∧ Resolves setting name expression) ∨
      ∃ value index, rule = .number value ∧ setting.scope ≠ .row ∧
        expression = .elementItem index := by
  cases rule with
  | string name =>
      refine .inl ⟨name, rfl, ?_⟩
      simp only [reference, textual] at ended
      split at ended
      · simp at ended
      · exact (run_named_eq_ok_iff call.path name expression).mp ended
  | number value =>
      simp only [reference, positional] at ended
      split at ended
      · simp at ended
      · rename_i index _
        split at ended
        · simp at ended
        · rename_i inside
          exact .inr ⟨value, index, rfl, inside, by simpa using ended.symm⟩
  | null | bool | list | operation => simp [reference] at ended

/-- A default of an enum field is among the values of the field. -/
theorem run_checkDefault_eq_ok_iff (name default : Rule) (value : Unit) :
    (checkDefault setting call name default).run answer = .ok value ↔
      ∀ field, name = .string field → defaultType? setting name = some .enum →
        setting.Allows (some (field, .enum)) default := by
  unfold checkDefault
  split
  · rename_i field enumerated
    simp [Setting.run_checkValue_eq_ok_iff, enumerated]
  · rename_i other
    constructor
    · rintro _ field rfl enumerated
      exact absurd rfl (other field enumerated)
    · simp

/-- A variable is a name, or a name with a literal for its default. -/
theorem of_run_var
    {expression : Sql}
    (ended : (var setting call).run answer = .ok expression) :
    (∃ name, call.operands = [name] ∧
      (reference setting call name).run answer = .ok expression) ∨
    ∃ name default reference fallback, call.operands = [name, default] ∧
      (Reference.reference setting call name).run answer = .ok reference ∧
      Sql.ofLiteral? (defaultType? setting name) default = some fallback ∧
      (∀ field, name = .string field → defaultType? setting name = some .enum →
        setting.Allows (some (field, .enum)) default) ∧
      expression = .call .coalesce [reference, fallback] := by
  unfold var at ended
  split at ended
  · rename_i name operands
    exact .inl ⟨name, operands, ended⟩
  · rename_i name default operands
    simp only [withDefault, Plan.run_bind_eq_ok_iff] at ended
    obtain ⟨reference, resolved, ended⟩ := ended
    cases literal : Sql.ofLiteral? (defaultType? setting name) default with
    | none => simp [literal] at ended
    | some fallback =>
        simp only [literal, Plan.run_bind_eq_ok_iff, run_checkDefault_eq_ok_iff] at ended
        obtain ⟨_, allowed, ended⟩ := ended
        exact .inr ⟨name, default, reference, fallback, operands, resolved, literal, allowed,
          by simpa using ended.symm⟩
  · simp at ended

/-- Listed names stand for expressions, one by one. -/
theorem of_run_fields
    {place : Nat → Path}
    {index : Nat}
    {names : List Rule}
    {references : List Sql}
    (ended : (fields setting call place index names).run answer = .ok references) :
    List.Forall₂
      (fun rule reference => ∃ name, rule = .string name ∧ Resolves setting name reference)
      names references := by
  induction names generalizing index references with
  | nil =>
      obtain rfl : [] = references := by simpa [fields] using ended
      exact .nil
  | cons rule rest inductionHypothesis =>
      cases rule with
      | string name =>
          simp only [fields, Plan.run_bind_eq_ok_iff, run_named_eq_ok_iff] at ended
          obtain ⟨first, resolved, others, remaining, ended⟩ := ended
          obtain rfl : first :: others = references := by simpa using ended
          exact .cons ⟨name, rfl, resolved⟩ (inductionHypothesis remaining)
      | null | bool | number | list | operation => simp [fields] at ended

/-- The names that a test for missing fields lists, directly or once more. -/
def listedNames : List Rule → List Rule
  | [.list names] => names
  | operands => operands

theorem of_run_missing
    {expression : Sql}
    (ended : (missing setting call).run answer = .ok expression) :
    ∃ references,
      List.Forall₂
        (fun rule reference => ∃ name, rule = .string name ∧ Resolves setting name reference)
        (listedNames call.operands) references ∧
      expression = nullTests .or references := by
  simp only [missing, Plan.run_bind_eq_ok_iff] at ended
  obtain ⟨references, resolved, ended⟩ := ended
  refine ⟨references, ?_, ?_⟩
  · unfold missingFields at resolved
    split at resolved
    · rename_i names operands
      simpa [operands, listedNames] using of_run_fields resolved
    · rename_i other
      have direct : listedNames call.operands = call.operands := by
        unfold listedNames
        split
        · rename_i names operands
          exact absurd operands (other names)
        · rfl
      simpa [direct] using of_run_fields resolved
  · split at ended
    · simp at ended
    · simpa using ended.symm

theorem of_run_missingSome
    {expression : Sql}
    (ended : (missingSome setting call).run answer = .ok expression) :
    ∃ value least names references,
      call.arguments = .list [.number value, .list names] ∧
      List.Forall₂
        (fun rule reference => ∃ name, rule = .string name ∧ Resolves setting name reference)
        names references ∧
      value.toSigned? = some least ∧
      expression = fewerThan least references := by
  simp only [missingSome, Call.listedPair, Plan.run_bind_eq_ok_iff, Call.run_listed_eq_ok_iff,
    Call.run_pair_eq_ok_iff] at ended
  obtain ⟨⟨least, names⟩, ⟨items, arguments, operands⟩, minimum, bounded, ended⟩ := ended
  obtain rfl : items = [least, names] := by
    simpa [Call.operands, Rule.operands, arguments] using operands
  cases least with
  | number value =>
      cases names with
      | list names =>
          simp only [Plan.run_bind_eq_ok_iff] at ended
          obtain ⟨references, resolved, ended⟩ := ended
          refine ⟨value, minimum, names, references, arguments, of_run_fields resolved, ?_,
            by simpa using ended.symm⟩
          simp only [Reference.minimum] at bounded
          split at bounded
          · rename_i least signed
            obtain rfl : least = minimum := by simpa using bounded
            exact signed
          · simp at bounded
      | null | bool | number | string | operation => simp at ended
  | null | bool | string | list | operation => simp [Reference.minimum] at bounded

end Reference

/-- The rules among the operands of an operator that stand for names of fields. -/
def Operator.fieldNames : Operator → List Rule → List Rule
  | .var, name :: _ => [name]
  | .missing, operands => Reference.listedNames operands
  | .missingSome, _ :: .list names :: _ => names
  | _, _ => []

namespace Call

theorem run_listedAtLeast_eq_ok_iff (required : Nat) (operands : List Rule) :
    (call.listedAtLeast required).run answer = .ok operands ↔
      call.arguments = .list operands ∧ required ≤ operands.length := by
  simp only [listedAtLeast, Plan.run_bind_eq_ok_iff, run_listed_eq_ok_iff,
    run_atLeast_eq_ok_iff]
  constructor
  · rintro ⟨items, arguments, enough, rfl⟩
    have operands : call.operands = items := by
      simp [Call.operands, Rule.operands, arguments]
    exact ⟨by rw [operands, arguments], enough⟩
  · rintro ⟨arguments, enough⟩
    have same : call.operands = operands := by
      simp [Call.operands, Rule.operands, arguments]
    exact ⟨operands, arguments, by rw [same]; exact enough, same⟩

theorem run_listedPair_eq_ok_iff (operands : Rule × Rule) :
    call.listedPair.run answer = .ok operands ↔
      call.arguments = .list [operands.1, operands.2] := by
  simp only [listedPair, Plan.run_bind_eq_ok_iff, run_listed_eq_ok_iff, run_pair_eq_ok_iff]
  constructor
  · rintro ⟨items, arguments, same⟩
    have operands : call.operands = items := by
      simp [Call.operands, Rule.operands, arguments]
    rw [arguments, ← operands, same]
  · intro arguments
    exact ⟨_, arguments, by simp [Call.operands, Rule.operands, arguments]⟩

theorem run_listedTriple_eq_ok_iff (operands : Rule × Rule × Rule) :
    call.listedTriple.run answer = .ok operands ↔
      call.arguments = .list [operands.1, operands.2.1, operands.2.2] := by
  obtain ⟨first, second, third⟩ := operands
  simp only [listedTriple, Plan.run_bind_eq_ok_iff, run_listed_eq_ok_iff]
  constructor
  · rintro ⟨items, arguments, ended⟩
    split at ended <;> simp_all
  · intro arguments
    exact ⟨_, arguments, rfl⟩

end Call

namespace Logic

/-- An equality with null tests the other side; any other one compares both sides. -/
theorem of_run_equality
    {operator : BinaryOp}
    {nullTest : Test}
    {expression : Sql}
    (ended : (equality setting call operator nullTest).run answer = .ok expression) :
    ∃ left right, call.operands = [left, right] ∧
      ((right = .null ∧ ∃ subject, answer (setting.operandRequest none 0) = .ok subject ∧
          expression = .test subject nullTest) ∨
        (left = .null ∧ ∃ subject, answer (setting.operandRequest none 1) = .ok subject ∧
          expression = .test subject nullTest) ∨
        (setting.Allows (setting.field? left) right ∧
          setting.Allows (setting.field? right) left ∧
          ∃ leftSide rightSide,
            answer (setting.operandRequest (setting.type? right) 0) = .ok leftSide ∧
            answer (setting.operandRequest (setting.type? left) 1) = .ok rightSide ∧
            expression = .binary operator leftSide rightSide)) := by
  simp only [equality, Plan.run_bind_eq_ok_iff, Call.run_pair_eq_ok_iff] at ended
  obtain ⟨⟨left, right⟩, operands, _, _, ended⟩ := ended
  refine ⟨left, right, operands, ?_⟩
  split at ended
  · simp only [Plan.run_bind_eq_ok_iff, Setting.run_ask] at ended
    obtain ⟨subject, asked, ended⟩ := ended
    exact .inl ⟨by assumption, subject, asked, by simpa using ended.symm⟩
  · simp only [Plan.run_bind_eq_ok_iff, Setting.run_ask] at ended
    obtain ⟨subject, asked, ended⟩ := ended
    exact .inr (.inl ⟨by assumption, subject, asked, by simpa using ended.symm⟩)
  · simp only [equalityOf, Plan.run_bind_eq_ok_iff, Setting.run_checkAgainst_eq_ok_iff,
      Setting.run_ask] at ended
    obtain ⟨_, allowedRight, _, allowedLeft, leftSide, askedLeft, rightSide, askedRight,
      ended⟩ := ended
    exact .inr (.inr ⟨allowedRight, allowedLeft, leftSide, rightSide, askedLeft, askedRight,
      by simpa using ended.symm⟩)

/-- An equality with null on the right tests what stands on the left, whatever the schema. -/
theorem run_equality_null
    {operator : BinaryOp}
    {nullTest : Test}
    {left : Rule}
    {subject : Sql}
    (operands : call.operands = [left, .null])
    (answered : answer (setting.operandRequest none 0) = .ok subject) :
    (equality setting call operator nullTest).run answer = .ok (.test subject nullTest) := by
  simp only [equality, Plan.run_bind_eq_ok_iff, Call.run_pair_eq_ok_iff,
    Setting.run_gateEach_eq_ok_iff]
  refine ⟨(left, .null), operands, (), fun _ _ _ _ _ => rfl, ?_⟩
  simp only [Plan.run_bind_eq_ok_iff, Setting.run_ask]
  exact ⟨subject, answered, rfl⟩

theorem run_negation_eq_ok_iff (expression : Sql) :
    (negation setting call).run answer = .ok expression ↔
      ∃ operand inner, call.operands = [operand] ∧
        answer (setting.operandRequest none 0) = .ok inner ∧ expression = .not inner := by
  simp only [negation, Plan.run_bind_eq_ok_iff, Call.run_single_eq_ok_iff, Setting.run_ask,
    Plan.run_pure, Except.ok.injEq]
  constructor
  · rintro ⟨operand, operands, inner, asked, ended⟩
    exact ⟨operand, inner, operands, asked, ended.symm⟩
  · rintro ⟨operand, inner, operands, asked, ended⟩
    exact ⟨operand, operands, inner, asked, ended.symm⟩

/-- The truth of a literal or a list is known; only operations are compiled. -/
theorem of_run_truthy
    {expression : Sql}
    (ended : (truthy setting call).run answer = .ok expression) :
    (call.operands = [] ∧ expression = .bool false) ∨
      ∃ operand, call.operands = [operand] ∧
        ((∃ truth, operand.truth? = some truth ∧ expression = .bool truth) ∨
          (operand.truth? = none ∧ ∃ inner,
            answer (setting.operandRequest none 0) = .ok inner ∧
            expression = truthOf inner (setting.type? operand))) := by
  unfold truthy at ended
  split at ended
  · rename_i arguments
    exact .inl ⟨by simp [Call.operands, Rule.operands, arguments], by simpa using ended.symm⟩
  · simp only [Plan.run_bind_eq_ok_iff, Call.run_single_eq_ok_iff] at ended
    obtain ⟨operand, operands, ended⟩ := ended
    refine .inr ⟨operand, operands, ?_⟩
    cases known : operand.truth? with
    | some truth =>
        simp only [known, Plan.run_pure, Except.ok.injEq] at ended
        exact .inl ⟨truth, rfl, ended.symm⟩
    | none =>
        simp only [known, Plan.run_bind_eq_ok_iff, Setting.run_ask] at ended
        obtain ⟨inner, asked, ended⟩ := ended
        exact .inr ⟨rfl, inner, asked, by simpa using ended.symm⟩

theorem run_connective_eq_ok_iff (operator : BinaryOp) (expression : Sql) :
    (connective setting call operator).run answer = .ok expression ↔
      ∃ operands terms, call.arguments = .list operands ∧ 1 ≤ operands.length ∧
        terms.length = operands.length ∧ Answered answer (setting.operandRequest none) terms ∧
        expression = .joined operator terms := by
  simp only [connective, Plan.run_bind_eq_ok_iff, Call.run_listedAtLeast_eq_ok_iff,
    Setting.run_askEach_eq_ok_iff, Plan.run_pure, Except.ok.injEq]
  constructor
  · rintro ⟨operands, ⟨arguments, enough⟩, terms, ⟨length, answered⟩, ended⟩
    exact ⟨operands, terms, arguments, enough, length, answered, ended.symm⟩
  · rintro ⟨operands, terms, arguments, enough, length, answered, ended⟩
    exact ⟨operands, ⟨arguments, enough⟩, terms, ⟨length, answered⟩, ended.symm⟩

/-- Each operand of a choice is compiled, and the branches hold nothing else. -/
theorem of_run_branches
    {index count : Nat}
    {outcome : List (Sql × Sql) × Sql}
    (ended : (branches setting index count).run answer = .ok outcome) :
    (∀ offset < count, ∃ expression,
      answer (setting.operandRequest none (index + offset)) = .ok expression) ∧
    (∀ branch ∈ outcome.1,
      (∃ number, answer (setting.operandRequest none number) = .ok branch.1) ∧
      ∃ number, answer (setting.operandRequest none number) = .ok branch.2) ∧
    (outcome.2 = .null ∨
      ∃ number, answer (setting.operandRequest none number) = .ok outcome.2) := by
  fun_induction branches setting index count generalizing outcome with
  | case1 index =>
      obtain rfl : ([], .null) = outcome := by simpa using ended
      simp
  | case2 index =>
      simp only [Plan.run_bind_eq_ok_iff, Setting.run_ask] at ended
      obtain ⟨otherwise, asked, ended⟩ := ended
      obtain rfl : ([], otherwise) = outcome := by simpa using ended
      refine ⟨?_, by simp, .inr ⟨index, asked⟩⟩
      intro offset bound
      obtain rfl : offset = 0 := by omega
      exact ⟨otherwise, asked⟩
  | case3 index count inductionHypothesis =>
      simp only [Plan.run_bind_eq_ok_iff, Setting.run_ask] at ended
      obtain ⟨condition, askedCondition, value, askedValue, ⟨rest, otherwise⟩, remaining,
        ended⟩ := ended
      obtain rfl : ((condition, value) :: rest, otherwise) = outcome := by simpa using ended
      obtain ⟨compiled, inner, last⟩ := inductionHypothesis remaining
      refine ⟨?_, ?_, last⟩
      · intro offset bound
        rcases offset with _ | _ | offset
        · exact ⟨condition, askedCondition⟩
        · exact ⟨value, askedValue⟩
        · have later := compiled offset (by omega)
          rwa [show index + 2 + offset = index + (offset + 1 + 1) by omega] at later
      · intro branch member
        rcases List.mem_cons.mp member with rfl | later
        · exact ⟨⟨index, askedCondition⟩, ⟨index + 1, askedValue⟩⟩
        · exact inner branch later

theorem of_run_conditional
    {expression : Sql}
    (ended : (conditional setting call).run answer = .ok expression) :
    ∃ operands outcome, call.arguments = .list operands ∧
      (branches setting 0 operands.length).run answer = .ok outcome ∧
      expression = .cases outcome.1 outcome.2 := by
  simp only [conditional, Plan.run_bind_eq_ok_iff, Call.run_listedAtLeast_eq_ok_iff] at ended
  obtain ⟨operands, ⟨arguments, _⟩, outcome, branched, ended⟩ := ended
  exact ⟨operands, outcome, arguments, branched, by simpa using ended.symm⟩

theorem run_comparison_eq_ok_iff (operator : BinaryOp) (expression : Sql) :
    (comparison setting call operator).run answer = .ok expression ↔
      ∃ operands terms, call.arguments = .list operands ∧ 2 ≤ operands.length ∧
        (∀ operand ∈ operands, setting.Admits .ordering operand) ∧
        terms.length = operands.length ∧
        Answered answer (setting.operandRequest (firstType? setting operands)) terms ∧
        expression = .joined .and (adjacent operator terms) := by
  simp only [comparison, Plan.run_bind_eq_ok_iff, Call.run_listedAtLeast_eq_ok_iff,
    Setting.run_gateEach_eq_ok_iff, Setting.run_askEach_eq_ok_iff, Plan.run_pure,
    Except.ok.injEq]
  constructor
  · rintro ⟨operands, ⟨arguments, enough⟩, _, admitted, terms, ⟨length, answered⟩, ended⟩
    exact ⟨operands, terms, arguments, enough, admitted, length, answered, ended.symm⟩
  · rintro ⟨operands, terms, arguments, enough, admitted, length, answered, ended⟩
    exact ⟨operands, ⟨arguments, enough⟩, (), admitted, terms, ⟨length, answered⟩, ended.symm⟩

end Logic

namespace Arithmetic

theorem run_terms_eq_ok_iff (expressions : List Sql) :
    (terms setting call).run answer = .ok expressions ↔
      (∀ operand ∈ call.operands, setting.Admits .numeric operand) ∧
        expressions.length = call.operands.length ∧
        Answered answer (setting.operandRequest (some .number)) expressions := by
  simp only [terms, Plan.run_bind_eq_ok_iff, Setting.run_gateEach_eq_ok_iff,
    Setting.run_askEach_eq_ok_iff]
  constructor
  · rintro ⟨_, admitted, asked⟩
    exact ⟨admitted, asked⟩
  · rintro ⟨admitted, asked⟩
    exact ⟨(), admitted, asked⟩

theorem run_chain_eq_ok_iff (operator : BinaryOp) (expression : Sql) :
    (chain setting call operator).run answer = .ok expression ↔
      2 ≤ call.operands.length ∧ ∃ expressions,
        (terms setting call).run answer = .ok expressions ∧
        expression = .group operator expressions := by
  simp only [chain, Plan.run_bind_eq_ok_iff, Call.run_atLeast_eq_ok_iff, Plan.run_pure,
    Except.ok.injEq]
  constructor
  · rintro ⟨_, ⟨enough, _⟩, expressions, asked, ended⟩
    exact ⟨enough, expressions, asked, ended.symm⟩
  · rintro ⟨enough, expressions, asked, ended⟩
    exact ⟨_, ⟨enough, rfl⟩, expressions, asked, ended.symm⟩

theorem of_run_modulo
    {expression : Sql}
    (ended : (modulo setting call).run answer = .ok expression) :
    ∃ expressions, (terms setting call).run answer = .ok expressions ∧
      expression = .remainder expressions := by
  simp only [modulo, Plan.run_bind_eq_ok_iff] at ended
  obtain ⟨_, _, expressions, asked, ended⟩ := ended
  exact ⟨expressions, asked, by simpa using ended.symm⟩

theorem run_extremum_eq_ok_iff (function : Function) (expression : Sql) :
    (extremum setting call function).run answer = .ok expression ↔
      1 ≤ call.operands.length ∧ ∃ expressions,
        (terms setting call).run answer = .ok expressions ∧
        expression = .call function expressions := by
  simp only [extremum, Plan.run_bind_eq_ok_iff, Call.run_atLeast_eq_ok_iff, Plan.run_pure,
    Except.ok.injEq]
  constructor
  · rintro ⟨_, ⟨enough, _⟩, expressions, asked, ended⟩
    exact ⟨enough, expressions, asked, ended.symm⟩
  · rintro ⟨enough, expressions, asked, ended⟩
    exact ⟨_, ⟨enough, rfl⟩, expressions, asked, ended.symm⟩

/-- A single plus writes a literal as it is; all else is compiled, and cast unless it is a number. -/
theorem of_run_plus
    {operand : Rule}
    {expression : Sql}
    (ended : (plus setting call operand).run answer = .ok expression) :
    setting.Admits .numeric operand ∧
      ((∃ value, operand = .string value ∧ expression = .numericCast (.string value)) ∨
        (∃ value, operand = .number value ∧ expression = .ofNumber value) ∨
        ∃ inner, answer (setting.operandRequest none 0) = .ok inner ∧
          (expression = inner ∨ expression = .numericCast inner)) := by
  simp only [plus, Plan.run_bind_eq_ok_iff, Setting.run_gate_eq_ok_iff] at ended
  obtain ⟨_, admitted, ended⟩ := ended
  refine ⟨admitted, ?_⟩
  split at ended
  · exact .inl ⟨_, rfl, by simpa using ended.symm⟩
  · exact .inr (.inl ⟨_, rfl, by simpa using ended.symm⟩)
  · simp only [Plan.run_bind_eq_ok_iff, Setting.run_ask] at ended
    obtain ⟨inner, asked, ended⟩ := ended
    refine .inr (.inr ⟨inner, asked, ?_⟩)
    split at ended
    · exact .inl (by simpa using ended.symm)
    · exact .inr (by simpa using ended.symm)

theorem run_minus_eq_ok_iff (operand : Rule) (expression : Sql) :
    (minus setting call operand).run answer = .ok expression ↔
      setting.Admits .numeric operand ∧ ∃ inner,
        answer (setting.operandRequest (some .number) 0) = .ok inner ∧
        expression = negated operand inner := by
  simp only [minus, Plan.run_bind_eq_ok_iff, Setting.run_gate_eq_ok_iff, Setting.run_ask,
    Plan.run_pure, Except.ok.injEq]
  constructor
  · rintro ⟨_, admitted, inner, asked, ended⟩
    exact ⟨admitted, inner, asked, ended.symm⟩
  · rintro ⟨admitted, inner, asked, ended⟩
    exact ⟨(), admitted, inner, asked, ended.symm⟩

theorem of_run_add
    {expression : Sql}
    (ended : (add setting call).run answer = .ok expression) :
    (∃ operand, call.operands = [operand] ∧
      (plus setting call operand).run answer = .ok expression) ∨
      (chain setting call .add).run answer = .ok expression := by
  simp only [add, Plan.run_bind_eq_ok_iff, Call.run_atLeast_eq_ok_iff] at ended
  obtain ⟨operands, ⟨_, rfl⟩, ended⟩ := ended
  split at ended
  · rename_i operand operands
    exact .inl ⟨operand, operands, ended⟩
  · exact .inr ended

theorem of_run_subtract
    {expression : Sql}
    (ended : (subtract setting call).run answer = .ok expression) :
    (∃ operand, call.operands = [operand] ∧
      (minus setting call operand).run answer = .ok expression) ∨
      (chain setting call .subtract).run answer = .ok expression := by
  simp only [subtract, Plan.run_bind_eq_ok_iff, Call.run_atLeast_eq_ok_iff] at ended
  obtain ⟨operands, ⟨_, rfl⟩, ended⟩ := ended
  split at ended
  · rename_i operand operands
    exact .inl ⟨operand, operands, ended⟩
  · exact .inr ended

end Arithmetic

namespace Strings

theorem run_cat_eq_ok_iff (expression : Sql) :
    (cat setting call).run answer = .ok expression ↔
      1 ≤ call.operands.length ∧
        (∀ operand ∈ call.operands, setting.Admits .string operand) ∧
        ∃ expressions, expressions.length = call.operands.length ∧
          Answered answer (setting.operandRequest none) expressions ∧
          expression = .call .concat expressions := by
  simp only [cat, Plan.run_bind_eq_ok_iff, Call.run_atLeast_eq_ok_iff,
    Setting.run_gateEach_eq_ok_iff, Setting.run_askEach_eq_ok_iff, Plan.run_pure,
    Except.ok.injEq]
  constructor
  · rintro ⟨operands, ⟨enough, rfl⟩, _, admitted, expressions, ⟨length, answered⟩, ended⟩
    exact ⟨enough, admitted, expressions, length, answered, ended.symm⟩
  · rintro ⟨enough, admitted, expressions, length, answered, ended⟩
    exact ⟨_, ⟨enough, rfl⟩, (), admitted, expressions, ⟨length, answered⟩, ended.symm⟩

/-- An offset is written as an integer, or its operand is compiled. -/
theorem of_run_offset
    {index : Nat}
    {operand : Rule}
    {place : Offset}
    (ended : (offset setting index operand).run answer = .ok place) :
    (∃ value, integer? operand = some value ∧ place = .literal value) ∨
      ∃ inner, answer (setting.operandRequest (some .number) index) = .ok inner ∧
        place = .dynamic inner := by
  unfold offset at ended
  split at ended
  · rename_i value written
    exact .inl ⟨value, written, by simpa using ended.symm⟩
  · simp only [Plan.run_bind_eq_ok_iff, Setting.run_ask] at ended
    obtain ⟨inner, asked, ended⟩ := ended
    exact .inr ⟨inner, asked, by simpa using ended.symm⟩

theorem of_run_substr
    {expression : Sql}
    (ended : (substr setting call).run answer = .ok expression) :
    ∃ text place inner shift first,
      setting.Admits .string text ∧ setting.Admits .numeric place ∧
      answer (setting.operandRequest none 0) = .ok inner ∧
      (offset setting 1 place).run answer = .ok shift ∧
      (start call (.textLength inner) shift).run answer = .ok first ∧
      ((call.arguments = .list [text, place] ∧ expression = .substring inner first none) ∨
        ∃ length size, call.arguments = .list [text, place, length] ∧
          setting.Admits .numeric length ∧
          (partLength setting call (.textLength inner) shift length).run answer = .ok size ∧
          expression = .substring inner first (some size)) := by
  simp only [substr, Plan.run_bind_eq_ok_iff, Call.run_listed_eq_ok_iff] at ended
  obtain ⟨items, arguments, ended⟩ := ended
  split at ended
  · rename_i text place
    simp only [Plan.run_bind_eq_ok_iff, Setting.run_gate_eq_ok_iff, Setting.run_ask] at ended
    obtain ⟨_, admittedText, _, admittedPlace, inner, asked, shift, offsetGiven, first, started,
      ended⟩ := ended
    exact ⟨text, place, inner, shift, first, admittedText, admittedPlace, asked, offsetGiven,
      started, .inl ⟨arguments, by simpa using ended.symm⟩⟩
  · rename_i text place length
    simp only [Plan.run_bind_eq_ok_iff, Setting.run_gate_eq_ok_iff, Setting.run_ask] at ended
    obtain ⟨_, admittedText, _, admittedPlace, _, admittedLength, inner, asked, shift,
      offsetGiven, first, started, size, measured, ended⟩ := ended
    exact ⟨text, place, inner, shift, first, admittedText, admittedPlace, asked, offsetGiven,
      started, .inr ⟨length, size, arguments, admittedLength, measured,
        by simpa using ended.symm⟩⟩
  · simp at ended

end Strings

namespace Arrays

theorem run_checkItems_eq_ok_iff
    (field : Option (String × FieldType))
    (inner : Nat)
    (items : List Rule)
    (value : Unit) :
    (checkItems setting call field inner items).run answer = .ok value ↔
      ∀ item ∈ items, setting.Allows field item := by
  induction items generalizing inner with
  | nil => simp [checkItems]
  | cons item rest inductionHypothesis => simp [checkItems, inductionHypothesis]

/-- A written list is searched item by item; an empty one holds nothing. -/
theorem of_run_membershipIn
    {needle : Rule}
    {items : List Rule}
    {expression : Sql}
    (ended : (membershipIn setting call needle items).run answer = .ok expression) :
    (items = [] ∧ expression = .bool false) ∨
      (items ≠ [] ∧ (∀ item ∈ items, setting.Allows (setting.field? needle) item) ∧
        ∃ value terms, answer (setting.operandRequest none 0) = .ok value ∧
          terms.length = items.length ∧
          Answered answer (setting.partRequest 1 (setting.type? needle)) terms ∧
          expression = .oneOf value terms) := by
  unfold membershipIn at ended
  split at ended
  · rename_i empty
    exact .inl ⟨by simpa using empty, by simpa using ended.symm⟩
  · rename_i filled
    simp only [Plan.run_bind_eq_ok_iff, run_checkItems_eq_ok_iff, Setting.run_ask,
      Setting.run_askParts_eq_ok_iff] at ended
    obtain ⟨_, allowed, value, asked, terms, ⟨length, answered⟩, ended⟩ := ended
    exact .inr ⟨by simpa using filled, allowed, value, terms, asked, length, answered,
      by simpa using ended.symm⟩

/-- A field can be searched when it holds an array or a text. -/
def isSearchable : FieldType → Bool
  | .array | .string | .enum => true
  | _ => false

theorem isSearchable_of_run_haystack
    {operand : Rule}
    {kind : Haystack}
    (ended : (haystack setting call operand).run answer = .ok kind)
    {name : String}
    {type : FieldType}
    (read : setting.field? operand = some (name, type)) :
    isSearchable type = true := by
  cases type with
  | array | string | enum => rfl
  | integer | number | boolean | object =>
      cases operand with
      | string | null | bool | number | list =>
          simp [Setting.field?, Rule.variableName?] at read
      | operation => simp [haystack, read] at ended

/-- A search goes through a written list, or the searched operand is compiled. -/
theorem of_run_membership
    {expression : Sql}
    (ended : (membership setting call).run answer = .ok expression) :
    ∃ needle operand, call.arguments = .list [needle, operand] ∧
      ((∃ items, operand = .list items ∧
          (membershipIn setting call needle items).run answer = .ok expression) ∨
        (∀ items, operand ≠ .list items) ∧
          (∀ name type, setting.field? operand = some (name, type) → isSearchable type = true) ∧
          ∃ value target, answer (setting.operandRequest none 0) = .ok value ∧
            answer (setting.operandRequest none 1) = .ok target ∧
            (expression = .arrayContains target value ∨ expression = .contains target value)) := by
  simp only [membership, Plan.run_bind_eq_ok_iff, Call.run_listedPair_eq_ok_iff] at ended
  obtain ⟨⟨needle, operand⟩, arguments, ended⟩ := ended
  refine ⟨needle, operand, arguments, ?_⟩
  split at ended
  · exact .inl ⟨_, by assumption, ended⟩
  · rename_i other
    simp only [Plan.run_bind_eq_ok_iff, Setting.run_ask] at ended
    obtain ⟨kind, searched, value, askedValue, target, askedTarget, ended⟩ := ended
    refine .inr ⟨other, fun name type read => isSearchable_of_run_haystack searched read,
      value, target, askedValue, askedTarget, ?_⟩
    split at ended
    · exact .inl (by simpa using ended.symm)
    · exact .inr (by simpa using ended.symm)

theorem of_run_iteration
    {build : Sql → Sql → Sql}
    {expression : Sql}
    (ended : (iteration setting call build).run answer = .ok expression) :
    ∃ operand step array inner, call.arguments = .list [operand, step] ∧
      setting.Admits .array operand ∧
      answer (setting.operandRequest none 0) = .ok array ∧
      answer ⟨.operand 1, .element, none⟩ = .ok inner ∧
      expression = build array inner := by
  simp only [iteration, source, body, Plan.run_bind_eq_ok_iff, Call.run_listedPair_eq_ok_iff,
    Setting.run_gate_eq_ok_iff, Setting.run_ask, Plan.run_request] at ended
  obtain ⟨⟨operand, step⟩, arguments, array, ⟨_, admitted, askedArray⟩, inner, askedInner,
    ended⟩ := ended
  exact ⟨operand, step, array, inner, arguments, admitted, askedArray, askedInner,
    by simpa using ended.symm⟩

/-- A reduction folds its compiled reducer, or aggregates one term of it. -/
theorem of_run_reduce
    {dialect : Dialect}
    {expression : Sql}
    (ended : (reduce dialect setting call).run answer = .ok expression) :
    ∃ operand reducer first array initial,
      call.arguments = .list [operand, reducer, first] ∧
      setting.Admits .array operand ∧
      answer (setting.operandRequest none 0) = .ok array ∧
      answer (setting.operandRequest none 2) = .ok initial ∧
      ((∃ functions inner, dialect.forms.iteration = .lambda functions ∧
          answer ⟨.operand 1, .reduction, none⟩ = .ok inner ∧
          expression = .folded functions array inner initial) ∨
        ∃ naming aggregate index value, dialect.forms.iteration = .subquery naming ∧
          aggregateOf? reducer = some (aggregate, index) ∧
          answer ⟨.part 1 index, .reduction, some .number⟩ = .ok value ∧
          expression = .aggregated naming aggregate array value initial) := by
  simp only [reduce, source, body, Plan.run_bind_eq_ok_iff, Call.run_listedTriple_eq_ok_iff,
    Setting.run_gate_eq_ok_iff, Setting.run_ask] at ended
  obtain ⟨⟨operand, reducer, first⟩, arguments, array, ⟨_, admitted, askedArray⟩, initial,
    askedInitial, ended⟩ := ended
  refine ⟨operand, reducer, first, array, initial, arguments, admitted, askedArray, askedInitial,
    ?_⟩
  cases form : dialect.forms.iteration with
  | lambda functions =>
      simp only [form, Plan.run_bind_eq_ok_iff, Plan.run_request] at ended
      obtain ⟨inner, askedInner, ended⟩ := ended
      exact .inl ⟨functions, inner, rfl, askedInner, by simpa using ended.symm⟩
  | subquery naming =>
      cases recognised : aggregateOf? reducer with
      | none => simp [form, recognised] at ended
      | some outcome =>
          obtain ⟨aggregate, index⟩ := outcome
          simp only [form, recognised, Plan.run_bind_eq_ok_iff, Plan.run_request] at ended
          obtain ⟨value, askedValue, ended⟩ := ended
          exact .inr ⟨naming, aggregate, index, value, rfl, rfl, askedValue,
            by simpa using ended.symm⟩

/-- Every operand of a concatenation is compiled, and each array is one of them. -/
theorem of_run_mergedArrays
    {index : Nat}
    {operands : List Rule}
    {arrays : List Sql}
    (ended : (mergedArrays setting call index operands).run answer = .ok arrays) :
    (∀ offset operand, operands[offset]? = some operand →
      setting.Admits .array operand ∧ ∃ inner,
        answer (setting.operandRequest none (index + offset)) = .ok inner) ∧
    ∀ array ∈ arrays, ∃ number inner,
      answer (setting.operandRequest none number) = .ok inner ∧
      (array = inner ∨ array = .array [inner]) := by
  induction operands generalizing index arrays with
  | nil =>
      obtain rfl : [] = arrays := by simpa [mergedArrays] using ended
      simp
  | cons operand rest inductionHypothesis =>
      simp only [mergedArrays, Plan.run_bind_eq_ok_iff, Setting.run_gate_eq_ok_iff,
        Setting.run_ask] at ended
      obtain ⟨_, admitted, inner, asked, others, remaining, ended⟩ := ended
      obtain rfl : (if operand.isLiteral then .array [inner] else inner) :: others = arrays := by
        simpa using ended
      obtain ⟨compiled, given⟩ := inductionHypothesis remaining
      constructor
      · intro offset current found
        cases offset with
        | zero =>
            obtain rfl : operand = current := by simpa using found
            exact ⟨admitted, inner, asked⟩
        | succ offset =>
            have later := compiled offset current (by simpa using found)
            rwa [show index + 1 + offset = index + (offset + 1) by omega] at later
      · intro array member
        rcases List.mem_cons.mp member with rfl | later
        · refine ⟨index, inner, asked, ?_⟩
          split
          · exact .inr rfl
          · exact .inl rfl
        · exact given array later

/-- Every item of a written array is compiled from a literal, or from an item of a list. -/
theorem of_run_mergedItems
    {index : Nat}
    {operands : List Rule}
    {items : List Sql}
    (ended : (mergedItems setting index operands).run answer = .ok items) :
    (∀ offset parts, operands[offset]? = some (.list parts) → ∀ inner < parts.length,
      ∃ item, answer (setting.partRequest (index + offset) none inner) = .ok item) ∧
    ∀ item ∈ items, ∃ request, answer request = .ok item := by
  fun_induction mergedItems setting index operands generalizing items with
  | case1 index =>
      obtain rfl : [] = items := by simpa using ended
      simp
  | case2 index parts rest inductionHypothesis =>
      simp only [Plan.run_bind_eq_ok_iff, Setting.run_askParts_eq_ok_iff] at ended
      obtain ⟨first, ⟨length, answered⟩, others, remaining, ended⟩ := ended
      obtain rfl : first ++ others = items := by simpa using ended
      obtain ⟨compiled, given⟩ := inductionHypothesis remaining
      constructor
      · intro offset current found inner bound
        cases offset with
        | zero =>
            obtain rfl : parts = current := by simpa using found
            exact answered.of_lt (by omega)
        | succ offset =>
            have later := compiled offset current (by simpa using found) inner bound
            rwa [show index + 1 + offset = index + (offset + 1) by omega] at later
      · intro item member
        rcases List.mem_append.mp member with early | later
        · obtain ⟨inner, asked⟩ := answered.of_mem early
          exact ⟨_, asked⟩
        · exact given item later
  | case3 index operand rest literal inductionHypothesis =>
      simp only [Plan.run_bind_eq_ok_iff, Setting.run_ask] at ended
      obtain ⟨first, asked, others, remaining, ended⟩ := ended
      obtain rfl : first :: others = items := by simpa using ended
      obtain ⟨compiled, given⟩ := inductionHypothesis remaining
      constructor
      · intro offset current found inner bound
        cases offset with
        | zero => exact absurd (by simpa using found) (literal current)
        | succ offset =>
            have later := compiled offset current (by simpa using found) inner bound
            rwa [show index + 1 + offset = index + (offset + 1) by omega] at later
      · intro item member
        rcases List.mem_cons.mp member with rfl | later
        · exact ⟨_, asked⟩
        · exact given item later

theorem of_run_merge
    {expression : Sql}
    (ended : (merge setting call).run answer = .ok expression) :
    (∃ arrays, (mergedArrays setting call 0 call.operands).run answer = .ok arrays ∧
      expression = concatenated arrays) ∨
      ((∀ operand ∈ call.operands, operand.isOperation = false) ∧
        ∃ items, (mergedItems setting 0 call.operands).run answer = .ok items ∧
          expression = .array items) := by
  unfold merge at ended
  split at ended
  · simp only [Plan.run_bind_eq_ok_iff] at ended
    obtain ⟨arrays, merged, ended⟩ := ended
    exact .inl ⟨arrays, merged, by simpa using ended.symm⟩
  · rename_i literal
    simp only [Plan.run_bind_eq_ok_iff] at ended
    obtain ⟨items, merged, ended⟩ := ended
    exact .inr ⟨by simpa using literal, items, merged, by simpa using ended.symm⟩

end Arrays
end RuleClause
