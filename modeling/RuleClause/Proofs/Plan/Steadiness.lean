import RuleClause.Proofs.Plan.Restriction

/-!
# Answers do not change the course of a plan

An operator puts the expressions that it is given together and does not look into them.  So
two runs of its plan make the same requests, whatever they are answered, and they end in
the same way.  A run that has ended with a value tells, then, when another run does: when
everything that was asked for has an answer there as well.
-/

namespace RuleClause
namespace Plan

variable {α β γ δ : Type} {related : α → β → Prop} {further : γ → δ → Prop}

/-- Two plans make the same requests, whatever the two answers are, and end in the same way. -/
inductive InStep (related : α → β → Prop) : Plan α → Plan β → Prop
  | done
      {first : α}
      {second : β}
      (values : related first second) :
      InStep related (.done first) (.done second)
  | fail (error : Error) : InStep related (.fail error) (.fail error)
  | ask
      {request : Request}
      {first : Sql → Plan α}
      {second : Sql → Plan β}
      (next : ∀ left right, InStep related (first left) (second right)) :
      InStep related (.ask request first) (.ask request second)

/-- A plan takes the same course whatever it is answered. -/
abbrev Steady (plan : Plan α) : Prop :=
  InStep anyTwo plan plan

namespace InStep

theorem bind
    {first : Plan α}
    {second : Plan β}
    {firstNext : α → Plan γ}
    {secondNext : β → Plan δ}
    (inStep : InStep related first second)
    (next : ∀ left right, related left right →
      InStep further (firstNext left) (secondNext right)) :
    InStep further (first >>= firstNext) (second >>= secondNext) := by
  induction inStep with
  | done values => exact next _ _ values
  | fail error => exact .fail error
  | ask _ inductionHypothesis => exact .ask inductionHypothesis

/-- Plans that go on whatever the values are. -/
theorem andThen
    {first : Plan α}
    {second : Plan β}
    {firstNext : α → Plan γ}
    {secondNext : β → Plan δ}
    (inStep : InStep related first second)
    (next : ∀ left right, InStep further (firstNext left) (secondNext right)) :
    InStep further (first >>= firstNext) (second >>= secondNext) :=
  inStep.bind fun left right _ => next left right

/-- Where the first of two plans ends with a value, the second does if it is answered alike. -/
theorem exists_run_iff
    {first : Plan α}
    {second : Plan β}
    {firstAnswer secondAnswer : Request → Except Error Sql}
    {value : α}
    (inStep : InStep related first second)
    (ended : first.run firstAnswer = .ok value) :
    (∃ other, second.run secondAnswer = .ok other) ↔
      ∀ request, first.Asks firstAnswer request →
        ∃ expression, secondAnswer request = .ok expression := by
  induction inStep with
  | @done _ second _ =>
      constructor
      · rintro _ _ ⟨⟩
      · exact fun _ => ⟨second, rfl⟩
  | fail error => cases ended
  | @ask request first second _ inductionHypothesis =>
      cases met : firstAnswer request with
      | error error => simp [run, met, Bind.bind, Except.bind] at ended
      | ok left =>
          have remaining : (first left).run firstAnswer = .ok value := by
            simpa [run, met, Bind.bind, Except.bind] using ended
          constructor
          · rintro ⟨other, reached⟩ asked asks
            obtain ⟨right, answered⟩ :=
              (Asks.here : (Plan.ask request second).Asks secondAnswer request).answered reached
            have rest : (second right).run secondAnswer = .ok other := by
              simpa [run, answered, Bind.bind, Except.bind] using reached
            cases asks with
            | here => exact ⟨right, answered⟩
            | later answered asks =>
                obtain rfl := Except.ok.inj (met.symm.trans answered)
                exact (inductionHypothesis left right remaining).mp ⟨other, rest⟩ asked asks
          · intro each
            obtain ⟨right, answered⟩ := each request .here
            obtain ⟨other, rest⟩ := (inductionHypothesis left right remaining).mpr
              fun asked asks => each asked (.later met asks)
            exact ⟨other, by simpa [run, answered, Bind.bind, Except.bind] using rest⟩

end InStep

/-- What makes no requests has one outcome. -/
theorem Settled.inStep {plan : Plan α} (settled : plan.Settled) : InStep Eq plan plan := by
  rcases settled.eq_done_or_fail with ⟨value, rfl⟩ | ⟨error, rfl⟩
  · exact .done rfl
  · exact .fail error

theorem Settled.thenSteady
    {plan : Plan α}
    {next : α → Plan γ}
    (settled : plan.Settled)
    (rest : ∀ value, (next value).Steady) :
    (plan >>= next).Steady := by
  refine settled.inStep.bind ?_
  rintro value _ rfl
  exact rest value

theorem Settled.steady {plan : Plan α} (settled : plan.Settled) : plan.Steady := by
  rcases settled.eq_done_or_fail with ⟨value, rfl⟩ | ⟨error, rfl⟩
  · exact .done trivial
  · exact .fail error

theorem steady_request (request : Request) : (Plan.request request).Steady :=
  .ask fun _ _ => .done trivial

theorem steady_requestEach (request : Nat → Request) (index count : Nat) :
    (requestEach request index count).Steady := by
  induction count generalizing index with
  | zero => exact .done trivial
  | succ count inductionHypothesis =>
      refine (steady_request (request index)).andThen fun _ _ => ?_
      exact (inductionHypothesis (index + 1)).andThen fun _ _ => .done trivial

end Plan

open Plan (InStep Steady anyTwo)

variable {setting : Setting} {call : Call}

namespace Setting

theorem steady_ask (index : Nat) (hint : Option FieldType) : (setting.ask index hint).Steady :=
  Plan.steady_request _

theorem steady_askEach (hint : Option FieldType) (index count : Nat) :
    (setting.askEach hint index count).Steady :=
  Plan.steady_requestEach _ index count

theorem steady_askParts (index : Nat) (hint : Option FieldType) (inner count : Nat) :
    (setting.askParts index hint inner count).Steady :=
  Plan.steady_requestEach _ inner count

end Setting

/-! ## Equality, truth, connectives and comparisons -/

namespace Logic

theorem steady_equality (operator : BinaryOp) (nullTest : Test) :
    (equality setting call operator nullTest).Steady := by
  refine Call.settled_pair.thenSteady fun operands => ?_
  refine (Setting.settled_gateEach _ _ _).thenSteady fun _ => ?_
  split
  · exact (Setting.steady_ask 0 none).andThen fun _ _ => .done trivial
  · exact (Setting.steady_ask 1 none).andThen fun _ _ => .done trivial
  · refine (Setting.settled_checkAgainst _ _ _).thenSteady fun _ => ?_
    refine (Setting.settled_checkAgainst _ _ _).thenSteady fun _ => ?_
    refine (Setting.steady_ask 0 _).andThen fun _ _ => ?_
    exact (Setting.steady_ask 1 _).andThen fun _ _ => .done trivial

theorem steady_negation : (negation setting call).Steady :=
  Call.settled_single.thenSteady fun _ =>
    (Setting.steady_ask 0 none).andThen fun _ _ => .done trivial

theorem steady_truthy : (truthy setting call).Steady := by
  unfold truthy
  split
  · exact .done trivial
  · refine Call.settled_single.thenSteady fun operand => ?_
    split
    · exact .done trivial
    · exact (Setting.steady_ask 0 none).andThen fun _ _ => .done trivial

theorem steady_connective (operator : BinaryOp) : (connective setting call operator).Steady :=
  (Call.settled_listedAtLeast 1).thenSteady fun _ =>
    (Setting.steady_askEach _ _ _).andThen fun _ _ => .done trivial

theorem steady_branches (index count : Nat) : (branches setting index count).Steady := by
  fun_induction branches setting index count with
  | case1 index => exact .done trivial
  | case2 index => exact (Setting.steady_ask index none).andThen fun _ _ => .done trivial
  | case3 index count inductionHypothesis =>
      refine (Setting.steady_ask index none).andThen fun _ _ => ?_
      refine (Setting.steady_ask (index + 1) none).andThen fun _ _ => ?_
      exact inductionHypothesis.andThen fun _ _ => .done trivial

theorem steady_conditional : (conditional setting call).Steady :=
  (Call.settled_listedAtLeast 2).thenSteady fun _ =>
    (steady_branches _ _).andThen fun _ _ => .done trivial

theorem steady_ternary : (ternary setting call).Steady :=
  Call.settled_listedTriple.thenSteady fun _ => steady_conditional

theorem steady_comparison (operator : BinaryOp) : (comparison setting call operator).Steady := by
  refine (Call.settled_listedAtLeast 2).thenSteady fun operands => ?_
  refine (Setting.settled_gateEach _ _ _).thenSteady fun _ => ?_
  exact (Setting.steady_askEach _ _ _).andThen fun _ _ => .done trivial

end Logic

/-! ## Arithmetic -/

namespace Arithmetic

theorem steady_terms : (terms setting call).Steady :=
  (Setting.settled_gateEach _ _ _).thenSteady fun _ => Setting.steady_askEach _ _ _

theorem steady_chain (operator : BinaryOp) : (chain setting call operator).Steady :=
  (Call.settled_atLeast 2).thenSteady fun _ => steady_terms.andThen fun _ _ => .done trivial

theorem steady_plus (operand : Rule) : (plus setting call operand).Steady := by
  refine (Setting.settled_gate _ _ _).thenSteady fun _ => ?_
  split
  · exact .done trivial
  · exact .done trivial
  · refine (Setting.steady_ask 0 none).andThen fun _ _ => ?_
    split <;> exact .done trivial

theorem steady_minus (operand : Rule) : (minus setting call operand).Steady :=
  (Setting.settled_gate _ _ _).thenSteady fun _ =>
    (Setting.steady_ask 0 _).andThen fun _ _ => .done trivial

theorem steady_add : (add setting call).Steady := by
  refine (Call.settled_atLeast 1).thenSteady fun operands => ?_
  split
  · exact steady_plus _
  · exact steady_chain .add

theorem steady_subtract : (subtract setting call).Steady := by
  refine (Call.settled_atLeast 1).thenSteady fun operands => ?_
  split
  · exact steady_minus _
  · exact steady_chain .subtract

theorem steady_modulo : (modulo setting call).Steady :=
  (Call.settled_atLeast 2).thenSteady fun _ => steady_terms.andThen fun _ _ => .done trivial

theorem steady_extremum (function : Function) : (extremum setting call function).Steady :=
  (Call.settled_atLeast 1).thenSteady fun _ => steady_terms.andThen fun _ _ => .done trivial

end Arithmetic

/-! ## Texts -/

namespace Strings

theorem steady_cat : (cat setting call).Steady := by
  refine (Call.settled_atLeast 1).thenSteady fun operands => ?_
  refine (Setting.settled_gateEach _ _ _).thenSteady fun _ => ?_
  exact (Setting.steady_askEach _ _ _).andThen fun _ _ => .done trivial

theorem inStep_offset (index : Nat) (operand : Rule) :
    InStep Offset.Alike (offset setting index operand) (offset setting index operand) := by
  unfold offset
  split
  · exact .done (.literal _)
  · exact (Setting.steady_ask index _).andThen fun _ _ => .done (.dynamic _ _)

theorem inStep_start
    {first second : Offset}
    (alike : first.Alike second)
    (firstLength secondLength : Sql) :
    InStep anyTwo (start call firstLength first) (start call secondLength second) := by
  cases alike with
  | literal value =>
      simp only [start]
      split
      · exact (settled_inRange _).inStep.andThen fun _ _ => .done trivial
      · exact (settled_inRange _).inStep.andThen fun _ _ => .done trivial
  | dynamic => exact .done trivial

theorem inStep_lengthWithout
    {first second : Offset}
    (alike : first.Alike second)
    (firstLength secondLength : Sql)
    (dropped : Int) :
    InStep anyTwo (lengthWithout call firstLength dropped first)
      (lengthWithout call secondLength dropped second) := by
  cases alike with
  | literal value =>
      simp only [lengthWithout]
      split
      · exact (settled_inRange _).inStep.andThen fun _ _ => .done trivial
      · exact (settled_inRange _).inStep.andThen fun _ _ => .done trivial
  | dynamic => exact .done trivial

theorem inStep_partLength
    {first second : Offset}
    (alike : first.Alike second)
    (firstLength secondLength : Sql)
    (operand : Rule) :
    InStep anyTwo (partLength setting call firstLength first operand)
      (partLength setting call secondLength second operand) := by
  unfold partLength
  split
  · split
    · exact .done trivial
    · refine (settled_inRange _).inStep.bind ?_
      rintro dropped _ rfl
      exact inStep_lengthWithout alike _ _ dropped
  · exact Setting.steady_ask 2 _

theorem steady_substr : (substr setting call).Steady := by
  refine Call.settled_listed.thenSteady fun items => ?_
  split
  · refine (Setting.settled_gate _ _ _).thenSteady fun _ => ?_
    refine (Setting.settled_gate _ _ _).thenSteady fun _ => ?_
    refine (Setting.steady_ask 0 none).andThen fun _ _ => ?_
    refine (inStep_offset 1 _).bind fun _ _ alike => ?_
    exact (inStep_start alike _ _).andThen fun _ _ => .done trivial
  · refine (Setting.settled_gate _ _ _).thenSteady fun _ => ?_
    refine (Setting.settled_gate _ _ _).thenSteady fun _ => ?_
    refine (Setting.settled_gate _ _ _).thenSteady fun _ => ?_
    refine (Setting.steady_ask 0 none).andThen fun _ _ => ?_
    refine (inStep_offset 1 _).bind fun _ _ alike => ?_
    refine (inStep_start alike _ _).andThen fun _ _ => ?_
    exact (inStep_partLength alike _ _ _).andThen fun _ _ => .done trivial
  · exact (Call.settled_failCount 2 3).steady

end Strings

/-! ## Arrays -/

namespace Arrays

theorem steady_membership : (membership setting call).Steady := by
  refine Call.settled_listedPair.thenSteady fun operands => ?_
  dsimp only
  split
  · unfold membershipIn
    split
    · exact .done trivial
    · refine (settled_checkItems _ 0 _).thenSteady fun _ => ?_
      refine (Setting.steady_ask 0 none).andThen fun _ _ => ?_
      exact (Setting.steady_askParts 1 _ 0 _).andThen fun _ _ => .done trivial
  · refine (settled_haystack _).thenSteady fun kind => ?_
    refine (Setting.steady_ask 0 none).andThen fun _ _ => ?_
    refine (Setting.steady_ask 1 none).andThen fun _ _ => ?_
    cases kind <;> exact .done trivial

theorem steady_source (operand : Rule) : (source setting call operand).Steady :=
  (Setting.settled_gate _ _ _).thenSteady fun _ => Setting.steady_ask 0 none

theorem steady_iteration (build : Sql → Sql → Sql) : (iteration setting call build).Steady := by
  refine Call.settled_listedPair.thenSteady fun operands => ?_
  refine (steady_source operands.1).andThen fun _ _ => ?_
  exact (Plan.steady_request _).andThen fun _ _ => .done trivial

theorem steady_reduce (dialect : Dialect) : (reduce dialect setting call).Steady := by
  refine Call.settled_listedTriple.thenSteady fun operands => ?_
  refine (steady_source operands.1).andThen fun _ _ => ?_
  refine (Setting.steady_ask 2 none).andThen fun _ _ => ?_
  split
  · exact (Plan.steady_request _).andThen fun _ _ => .done trivial
  · split
    · exact .fail _
    · exact (Plan.steady_request _).andThen fun _ _ => .done trivial

theorem steady_mergedItems (index : Nat) (operands : List Rule) :
    (mergedItems setting index operands).Steady := by
  induction operands generalizing index with
  | nil => exact .done trivial
  | cons operand rest inductionHypothesis =>
      cases operand with
      | list items =>
          refine (Setting.steady_askParts index none 0 items.length).andThen fun _ _ => ?_
          exact (inductionHypothesis (index + 1)).andThen fun _ _ => .done trivial
      | null | bool | number | string | operation =>
          refine (Setting.steady_ask index none).andThen fun _ _ => ?_
          exact (inductionHypothesis (index + 1)).andThen fun _ _ => .done trivial

theorem steady_mergedArrays (index : Nat) (operands : List Rule) :
    (mergedArrays setting call index operands).Steady := by
  induction operands generalizing index with
  | nil => exact .done trivial
  | cons operand rest inductionHypothesis =>
      refine (Setting.settled_gate _ _ _).thenSteady fun _ => ?_
      refine (Setting.steady_ask index none).andThen fun _ _ => ?_
      exact (inductionHypothesis (index + 1)).andThen fun _ _ => .done trivial

theorem steady_merge : (merge setting call).Steady := by
  unfold merge
  split
  · exact (steady_mergedArrays 0 call.operands).andThen fun _ _ => .done trivial
  · exact (steady_mergedItems 0 call.operands).andThen fun _ _ => .done trivial

end Arrays

/-- Every operator takes the same course whatever it is answered. -/
theorem Operator.steady_plan (dialect : Dialect) (operator : Operator) :
    (operator.plan dialect setting call).Steady := by
  cases operator with
  | var => exact Reference.settled_var.steady
  | missing => exact Reference.settled_missing.steady
  | missingSome => exact Reference.settled_missingSome.steady
  | equal | strictEqual | notEqual | strictNotEqual => exact Logic.steady_equality _ _
  | not => exact Logic.steady_negation
  | truthy => exact Logic.steady_truthy
  | and | or => exact Logic.steady_connective _
  | conditional => exact Logic.steady_conditional
  | ternary => exact Logic.steady_ternary
  | greater | greaterEqual | less | lessEqual => exact Logic.steady_comparison _
  | add => exact Arithmetic.steady_add
  | subtract => exact Arithmetic.steady_subtract
  | multiply | divide => exact Arithmetic.steady_chain _
  | modulo => exact Arithmetic.steady_modulo
  | max | min => exact Arithmetic.steady_extremum _
  | cat => exact Strings.steady_cat
  | substr => exact Strings.steady_substr
  | membership => exact Arrays.steady_membership
  | map | filter | all | some | none => exact Arrays.steady_iteration _
  | reduce => exact Arrays.steady_reduce dialect
  | merge => exact Arrays.steady_merge

end RuleClause
