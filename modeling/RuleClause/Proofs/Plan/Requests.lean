import RuleClause.Plan.Operator
import RuleClause.Proofs.Compile.Acceptance

/-!
# What plans ask for

The operators ask for their operands in the scope that they stand in themselves,
with two exceptions.  An iteration asks for its body in the scope of an element, or
of a reduction if it is one.  A reduction that is written as an aggregate asks, of its
reducer, only for the value that it has recognised.  Checks ask for nothing.
-/

namespace RuleClause
namespace Plan

variable {α β : Type} {allowed : Request → Prop}

/-- A plan makes only requests of a certain kind, whatever the answers are. -/
inductive AsksOnly (allowed : Request → Prop) : Plan α → Prop
  | done (value : α) : AsksOnly allowed (.done value)
  | fail (error : Error) : AsksOnly allowed (.fail error)
  | ask
      {request : Request}
      {next : Sql → Plan α}
      (permitted : allowed request)
      (rest : ∀ expression, AsksOnly allowed (next expression)) :
      AsksOnly allowed (.ask request next)

/-- A plan that makes no requests. -/
abbrev Settled (plan : Plan α) : Prop :=
  plan.AsksOnly fun _ => False

/-- A plan that makes its requests in one scope. -/
abbrev Keeps (scope : Scope) (plan : Plan α) : Prop :=
  plan.AsksOnly (·.scope = scope)

/-- With the given answers, a plan comes to make a request. -/
inductive Asks (answer : Request → Except Error Sql) (request : Request) : Plan α → Prop
  | here {next : Sql → Plan α} : Asks answer request (.ask request next)
  | later
      {first : Request}
      {next : Sql → Plan α}
      {expression : Sql}
      (answered : answer first = .ok expression)
      (asks : Asks answer request (next expression)) :
      Asks answer request (.ask first next)

theorem AsksOnly.of_asks
    {answer : Request → Except Error Sql}
    {request : Request}
    {plan : Plan α}
    (only : plan.AsksOnly allowed)
    (asks : plan.Asks answer request) :
    allowed request := by
  induction asks with
  | here =>
      cases only with
      | ask permitted _ => exact permitted
  | later _ _ inductionHypothesis =>
      cases only with
      | ask _ rest => exact inductionHypothesis (rest _)

/-- A plan that ends with a value has had all its requests answered. -/
theorem Asks.answered
    {answer : Request → Except Error Sql}
    {request : Request}
    {plan : Plan α}
    {value : α}
    (asks : plan.Asks answer request)
    (ended : plan.run answer = .ok value) :
    ∃ expression, answer request = .ok expression := by
  induction asks with
  | @here next =>
      simp only [run] at ended
      cases met : answer request with
      | ok expression => exact ⟨expression, rfl⟩
      | error error => simp [met, Bind.bind, Except.bind] at ended
  | later met _ inductionHypothesis =>
      refine inductionHypothesis ?_
      simpa [run, met, Bind.bind, Except.bind] using ended

namespace AsksOnly

theorem bind
    {plan : Plan α}
    {next : α → Plan β}
    (only : plan.AsksOnly allowed)
    (rest : ∀ value, (next value).AsksOnly allowed) :
    (plan >>= next).AsksOnly allowed := by
  induction only with
  | done value => exact rest value
  | fail error => exact .fail error
  | ask permitted _ inductionHypothesis => exact .ask permitted inductionHypothesis

theorem mono
    {plan : Plan α}
    {wider : Request → Prop}
    (only : plan.AsksOnly allowed)
    (widens : ∀ request, allowed request → wider request) :
    plan.AsksOnly wider := by
  induction only with
  | done value => exact .done value
  | fail error => exact .fail error
  | ask permitted _ inductionHypothesis => exact .ask (widens _ permitted) inductionHypothesis

end AsksOnly

/-- Nothing is asked for before a plan goes on. -/
theorem Settled.bind
    {plan : Plan α}
    {next : α → Plan β}
    (settled : plan.Settled)
    (rest : ∀ value, (next value).AsksOnly allowed) :
    (plan >>= next).AsksOnly allowed :=
  (settled.mono fun _ => False.elim).bind rest

/-- A plan without requests has come to its end. -/
theorem Settled.eq_done_or_fail {plan : Plan α} (settled : plan.Settled) :
    (∃ value, plan = .done value) ∨ ∃ error, plan = .fail error := by
  cases settled with
  | done value => exact .inl ⟨value, rfl⟩
  | fail error => exact .inr ⟨error, rfl⟩
  | ask impossible _ => exact impossible.elim

theorem settled_ofExcept (result : Except Error α) : (ofExcept result).Settled := by
  cases result with
  | ok value => exact .done value
  | error error => exact .fail error

theorem keeps_requestEach
    {request : Nat → Request}
    {scope : Scope}
    (same : ∀ index, (request index).scope = scope)
    (index count : Nat) :
    (requestEach request index count).Keeps scope := by
  induction count generalizing index with
  | zero => exact .done []
  | succ count inductionHypothesis =>
      refine .ask (same index) fun first => ?_
      exact (inductionHypothesis (index + 1)).bind fun rest => .done (first :: rest)

end Plan

open Plan (AsksOnly Settled Keeps)

variable {setting : Setting} {call : Call}

/-! ## Arguments and checks -/

namespace Call

theorem settled_listed : call.listed.Settled := by
  unfold listed
  split
  · exact .done _
  · exact .fail _

theorem settled_failCount {α : Type} (least most : Nat) :
    (call.failCount least most : Plan α).Settled := by
  unfold failCount
  split
  · exact .fail _
  · exact .fail _

theorem settled_atLeast (required : Nat) : (call.atLeast required).Settled := by
  unfold atLeast
  split
  · exact .fail _
  · exact .done _

theorem settled_single : call.single.Settled := by
  unfold single
  split
  · exact .done _
  · exact settled_failCount 1 1

theorem settled_pair : call.pair.Settled := by
  unfold pair
  split
  · exact .done _
  · exact settled_failCount 2 2

theorem settled_listedPair : call.listedPair.Settled :=
  settled_listed.bind fun _ => settled_pair

theorem settled_listedTriple : call.listedTriple.Settled := by
  refine settled_listed.bind fun items => ?_
  split
  · exact .done _
  · exact settled_failCount 3 3

theorem arguments_of_listedTriple
    {first second third : Rule}
    (three : call.listedTriple = .done (first, second, third)) :
    call.arguments = .list [first, second, third] := by
  have ended : call.listedTriple.run (fun _ => (.ok .null : Except Error Sql)) =
      .ok (first, second, third) := by
    rw [three]
    rfl
  exact (run_listedTriple_eq_ok_iff _).mp ended

theorem settled_listedAtLeast (required : Nat) : (call.listedAtLeast required).Settled :=
  settled_listed.bind fun _ => settled_atLeast required

end Call

namespace Setting

theorem settled_gate (usage : Usage) (index : Nat) (rule : Rule) :
    (setting.gate call usage index rule).Settled := by
  unfold gate
  split
  · exact Plan.settled_ofExcept _
  · exact .done ()

theorem settled_gateEach (usage : Usage) (index : Nat) (rules : List Rule) :
    (setting.gateEach call usage index rules).Settled := by
  induction rules generalizing index with
  | nil => exact .done ()
  | cons rule rest inductionHypothesis =>
      exact (settled_gate usage index rule).bind fun _ => inductionHypothesis (index + 1)

theorem settled_checkValue (name : String) (path : Path) (value : Rule) :
    (setting.checkValue call name path value).Settled := by
  unfold checkValue
  split
  · exact Plan.settled_ofExcept _
  · exact .done ()

theorem settled_checkAgainst (field : Option (String × FieldType)) (path : Path) (value : Rule) :
    (setting.checkAgainst call field path value).Settled := by
  unfold checkAgainst
  split
  · exact settled_checkValue _ path value
  · exact .done ()

theorem settled_require (name : String) (path : Path) : (setting.require name path).Settled := by
  unfold require
  split
  · exact Plan.settled_ofExcept _
  · exact .done ()

theorem keeps_ask (index : Nat) (hint : Option FieldType) :
    (setting.ask index hint).Keeps setting.scope :=
  .ask rfl .done

theorem keeps_askEach (hint : Option FieldType) (index count : Nat) :
    (setting.askEach hint index count).Keeps setting.scope := by
  refine Plan.keeps_requestEach ?_ index count
  exact fun _ => rfl

theorem keeps_askParts (index : Nat) (hint : Option FieldType) (inner count : Nat) :
    (setting.askParts index hint inner count).Keeps setting.scope := by
  refine Plan.keeps_requestEach ?_ inner count
  exact fun _ => rfl

end Setting

/-! ## Variables and missing fields -/

namespace Reference

theorem settled_named (path : Path) (name : String) : (named setting call path name).Settled := by
  unfold named
  split
  · exact (Setting.settled_require name path).bind fun _ => .done _
  · split
    · exact .done _
    · exact .fail _

theorem settled_reference (rule : Rule) : (reference setting call rule).Settled := by
  unfold reference
  split
  · unfold textual
    split
    · exact .fail _
    · exact settled_named _ _
  · unfold positional
    split
    · exact .fail _
    · split
      · exact .fail _
      · exact .done _
  · exact .fail _

theorem settled_checkDefault (name default : Rule) :
    (checkDefault setting call name default).Settled := by
  unfold checkDefault
  split
  · exact Setting.settled_checkValue _ _ _
  · exact .done ()

theorem settled_var : (var setting call).Settled := by
  unfold var
  split
  · exact settled_reference _
  · refine (settled_reference _).bind fun reference => ?_
    split
    · exact .fail _
    · exact (settled_checkDefault _ _).bind fun _ => .done _
  · exact Call.settled_failCount 1 2

theorem settled_fields (place : Nat → Path) (index : Nat) (names : List Rule) :
    (fields setting call place index names).Settled := by
  induction names generalizing index with
  | nil => exact .done []
  | cons rule rest inductionHypothesis =>
      cases rule with
      | string name =>
          refine (settled_named (place index) name).bind fun first => ?_
          exact (inductionHypothesis (index + 1)).bind fun rest => .done (first :: rest)
      | null | bool | number | list | operation => exact .fail _

theorem settled_missing : (missing setting call).Settled := by
  have fields : (missingFields setting call).Settled := by
    unfold missingFields
    split
    · exact settled_fields _ _ _
    · exact settled_fields _ _ _
  refine fields.bind fun references => ?_
  split
  · exact .fail _
  · exact .done _

theorem settled_minimum (rule : Rule) : (minimum call rule).Settled := by
  unfold minimum
  split
  · split
    · exact .done _
    · exact .fail _
  · exact .fail _

theorem settled_missingSome : (missingSome setting call).Settled := by
  refine Call.settled_listedPair.bind fun operands => ?_
  refine (settled_minimum operands.1).bind fun least => ?_
  split
  · exact (settled_fields _ _ _).bind fun references => .done _
  · exact .fail _

end Reference

/-! ## Equality, truth, connectives and comparisons -/

namespace Logic

theorem keeps_equality (operator : BinaryOp) (nullTest : Test) :
    (equality setting call operator nullTest).Keeps setting.scope := by
  refine Call.settled_pair.bind fun operands => ?_
  refine (Setting.settled_gateEach _ _ _).bind fun _ => ?_
  split
  · exact (Setting.keeps_ask 0 none).bind fun _ => .done _
  · exact (Setting.keeps_ask 1 none).bind fun _ => .done _
  · refine (Setting.settled_checkAgainst _ _ _).bind fun _ => ?_
    refine (Setting.settled_checkAgainst _ _ _).bind fun _ => ?_
    refine (Setting.keeps_ask 0 _).bind fun _ => ?_
    exact (Setting.keeps_ask 1 _).bind fun _ => .done _

theorem keeps_negation : (negation setting call).Keeps setting.scope :=
  Call.settled_single.bind fun _ => (Setting.keeps_ask 0 none).bind fun _ => .done _

theorem keeps_truthy : (truthy setting call).Keeps setting.scope := by
  unfold truthy
  split
  · exact .done _
  · refine Call.settled_single.bind fun operand => ?_
    split
    · exact .done _
    · exact (Setting.keeps_ask 0 none).bind fun _ => .done _

theorem keeps_connective (operator : BinaryOp) :
    (connective setting call operator).Keeps setting.scope :=
  (Call.settled_listedAtLeast 1).bind fun _ =>
    (Setting.keeps_askEach _ _ _).bind fun _ => .done _

theorem keeps_branches (index count : Nat) : (branches setting index count).Keeps setting.scope := by
  fun_induction branches setting index count with
  | case1 index => exact .done _
  | case2 index => exact (Setting.keeps_ask index none).bind fun _ => .done _
  | case3 index count inductionHypothesis =>
      refine (Setting.keeps_ask index none).bind fun _ => ?_
      refine (Setting.keeps_ask (index + 1) none).bind fun _ => ?_
      exact inductionHypothesis.bind fun _ => .done _

theorem keeps_conditional : (conditional setting call).Keeps setting.scope :=
  (Call.settled_listedAtLeast 2).bind fun _ => (keeps_branches _ _).bind fun _ => .done _

theorem keeps_ternary : (ternary setting call).Keeps setting.scope :=
  Call.settled_listedTriple.bind fun _ => keeps_conditional

theorem keeps_comparison (operator : BinaryOp) :
    (comparison setting call operator).Keeps setting.scope := by
  refine (Call.settled_listedAtLeast 2).bind fun operands => ?_
  refine (Setting.settled_gateEach _ _ _).bind fun _ => ?_
  exact (Setting.keeps_askEach _ _ _).bind fun _ => .done _

end Logic

/-! ## Arithmetic -/

namespace Arithmetic

theorem keeps_terms : (terms setting call).Keeps setting.scope :=
  (Setting.settled_gateEach _ _ _).bind fun _ => Setting.keeps_askEach _ _ _

theorem keeps_chain (operator : BinaryOp) : (chain setting call operator).Keeps setting.scope :=
  (Call.settled_atLeast 2).bind fun _ => keeps_terms.bind fun _ => .done _

theorem keeps_plus (operand : Rule) : (plus setting call operand).Keeps setting.scope := by
  refine (Setting.settled_gate _ _ _).bind fun _ => ?_
  split
  · exact .done _
  · exact .done _
  · refine (Setting.keeps_ask 0 none).bind fun expression => ?_
    split <;> exact .done _

theorem keeps_minus (operand : Rule) : (minus setting call operand).Keeps setting.scope :=
  (Setting.settled_gate _ _ _).bind fun _ => (Setting.keeps_ask 0 _).bind fun _ => .done _

theorem keeps_add : (add setting call).Keeps setting.scope := by
  refine (Call.settled_atLeast 1).bind fun operands => ?_
  split
  · exact keeps_plus _
  · exact keeps_chain .add

theorem keeps_subtract : (subtract setting call).Keeps setting.scope := by
  refine (Call.settled_atLeast 1).bind fun operands => ?_
  split
  · exact keeps_minus _
  · exact keeps_chain .subtract

theorem keeps_modulo : (modulo setting call).Keeps setting.scope :=
  (Call.settled_atLeast 2).bind fun _ => keeps_terms.bind fun _ => .done _

theorem keeps_extremum (function : Function) : (extremum setting call function).Keeps setting.scope :=
  (Call.settled_atLeast 1).bind fun _ => keeps_terms.bind fun _ => .done _

end Arithmetic

/-! ## Texts -/

namespace Strings

theorem keeps_cat : (cat setting call).Keeps setting.scope := by
  refine (Call.settled_atLeast 1).bind fun operands => ?_
  refine (Setting.settled_gateEach _ _ _).bind fun _ => ?_
  exact (Setting.keeps_askEach _ _ _).bind fun _ => .done _

theorem settled_inRange (value : Int) : (inRange call value).Settled := by
  unfold inRange
  split
  · exact .done _
  · exact .fail _

theorem keeps_offset (index : Nat) (operand : Rule) :
    (offset setting index operand).Keeps setting.scope := by
  unfold offset
  split
  · exact .done _
  · exact (Setting.keeps_ask index _).bind fun _ => .done _

theorem settled_start (length : Sql) (offset : Offset) : (start call length offset).Settled := by
  unfold start
  split
  · split
    · exact (settled_inRange _).bind fun _ => .done _
    · exact (settled_inRange _).bind fun _ => .done _
  · exact .done _

theorem settled_lengthWithout (length : Sql) (dropped : Int) (offset : Offset) :
    (lengthWithout call length dropped offset).Settled := by
  unfold lengthWithout
  split
  · split
    · exact (settled_inRange _).bind fun _ => .done _
    · exact (settled_inRange _).bind fun _ => .done _
  · exact .done _

theorem keeps_partLength (length : Sql) (offset : Offset) (operand : Rule) :
    (partLength setting call length offset operand).Keeps setting.scope := by
  unfold partLength
  split
  · split
    · exact .done _
    · refine (settled_inRange _).bind fun dropped => ?_
      exact (settled_lengthWithout length dropped offset).mono fun _ => False.elim
  · exact Setting.keeps_ask 2 _

theorem keeps_substr : (substr setting call).Keeps setting.scope := by
  refine Call.settled_listed.bind fun items => ?_
  split
  · refine (Setting.settled_gate _ _ _).bind fun _ => ?_
    refine (Setting.settled_gate _ _ _).bind fun _ => ?_
    refine (Setting.keeps_ask 0 none).bind fun operand => ?_
    refine (keeps_offset 1 _).bind fun offset => ?_
    exact (settled_start _ offset).bind fun _ => .done _
  · refine (Setting.settled_gate _ _ _).bind fun _ => ?_
    refine (Setting.settled_gate _ _ _).bind fun _ => ?_
    refine (Setting.settled_gate _ _ _).bind fun _ => ?_
    refine (Setting.keeps_ask 0 none).bind fun operand => ?_
    refine (keeps_offset 1 _).bind fun offset => ?_
    refine (settled_start _ offset).bind fun first => ?_
    exact (keeps_partLength _ offset _).bind fun _ => .done _
  · exact (Call.settled_failCount 2 3).mono fun _ => False.elim

end Strings

/-! ## Arrays -/

namespace Arrays

theorem settled_checkItems
    (field : Option (String × FieldType))
    (inner : Nat)
    (items : List Rule) :
    (checkItems setting call field inner items).Settled := by
  induction items generalizing inner with
  | nil => exact .done ()
  | cons item rest inductionHypothesis =>
      exact (Setting.settled_checkAgainst field _ item).bind fun _ =>
        inductionHypothesis (inner + 1)

theorem settled_haystack (operand : Rule) : (haystack setting call operand).Settled := by
  unfold haystack
  split
  · exact .done _
  · exact .done _
  · exact .done _
  · exact .done _
  · exact .fail _
  · exact .done _
  · exact .done _

theorem keeps_membership : (membership setting call).Keeps setting.scope := by
  refine Call.settled_listedPair.bind fun operands => ?_
  dsimp only
  split
  · unfold membershipIn
    split
    · exact .done _
    · refine (settled_checkItems _ 0 _).bind fun _ => ?_
      refine (Setting.keeps_ask 0 none).bind fun value => ?_
      exact (Setting.keeps_askParts 1 _ 0 _).bind fun _ => .done _
  · refine (settled_haystack _).bind fun kind => ?_
    refine (Setting.keeps_ask 0 none).bind fun value => ?_
    refine (Setting.keeps_ask 1 none).bind fun searched => ?_
    cases kind <;> exact .done _

theorem keeps_mergedItems (index : Nat) (operands : List Rule) :
    (mergedItems setting index operands).Keeps setting.scope := by
  induction operands generalizing index with
  | nil => exact .done []
  | cons operand rest inductionHypothesis =>
      cases operand with
      | list items =>
          refine (Setting.keeps_askParts index none 0 items.length).bind fun items => ?_
          exact (inductionHypothesis (index + 1)).bind fun rest => .done (items ++ rest)
      | null | bool | number | string | operation =>
          refine (Setting.keeps_ask index none).bind fun item => ?_
          exact (inductionHypothesis (index + 1)).bind fun rest => .done (item :: rest)

theorem keeps_mergedArrays (index : Nat) (operands : List Rule) :
    (mergedArrays setting call index operands).Keeps setting.scope := by
  induction operands generalizing index with
  | nil => exact .done []
  | cons operand rest inductionHypothesis =>
      refine (Setting.settled_gate _ _ _).bind fun _ => ?_
      refine (Setting.keeps_ask index none).bind fun expression => ?_
      exact (inductionHypothesis (index + 1)).bind fun rest => .done _

theorem keeps_merge : (merge setting call).Keeps setting.scope := by
  unfold merge
  split
  · exact (keeps_mergedArrays 0 call.operands).bind fun _ => .done _
  · exact (keeps_mergedItems 0 call.operands).bind fun _ => .done _

theorem keeps_source (operand : Rule) : (source setting call operand).Keeps setting.scope :=
  (Setting.settled_gate _ _ _).bind fun _ => Setting.keeps_ask 0 none

end Arrays

/-! ## Operators -/

/-- The requests that an operator may make. -/
inductive Operator.MayAsk
    (dialect : Dialect)
    (scope : Scope)
    (call : Call)
    (operator : Operator) : Request → Prop
  /-- For a part of the operation, in the scope of the operation. -/
  | own {request : Request} (same : request.scope = scope) :
      MayAsk dialect scope call operator request
  /-- For the body of an iteration. -/
  | body (iterates : operator.iterates = true) (maps : operator ≠ .reduce) :
      MayAsk dialect scope call operator ⟨.operand 1, .element, Option.none⟩
  /-- For the body of a reduction. -/
  | fold (reduces : operator = .reduce) (folds : ¬ dialect.Aggregates) :
      MayAsk dialect scope call operator ⟨.operand 1, .reduction, Option.none⟩
  /-- For the value per element of a recognised reducer. -/
  | value
      {reducer : Rule}
      {aggregate : Dialect.Aggregate}
      {index : Nat}
      (reduces : operator = .reduce)
      (aggregates : dialect.Aggregates)
      (second : call.operands[1]? = Option.some reducer)
      (recognised : Arrays.aggregateOf? reducer = Option.some (aggregate, index)) :
      MayAsk dialect scope call operator ⟨.part 1 index, .reduction, Option.some .number⟩

namespace Operator

variable {dialect : Dialect} {operator : Operator}

theorem asksOnly_of_keeps {plan : Plan Sql} (keeps : plan.Keeps setting.scope) :
    plan.AsksOnly (operator.MayAsk dialect setting.scope call) :=
  keeps.mono fun _ same => .own same

theorem asksOnly_iteration
    (iterates : operator.iterates = true)
    (maps : operator ≠ .reduce)
    (build : Sql → Sql → Sql) :
    (Arrays.iteration setting call build).AsksOnly
      (operator.MayAsk dialect setting.scope call) := by
  refine Call.settled_listedPair.bind fun operands => ?_
  refine (asksOnly_of_keeps (Arrays.keeps_source _)).bind fun array => ?_
  exact .ask (.body iterates maps) fun _ => .done _

theorem asksOnly_reduce :
    (Arrays.reduce dialect setting call).AsksOnly
      (Operator.reduce.MayAsk dialect setting.scope call) := by
  unfold Arrays.reduce
  rcases call.settled_listedTriple.eq_done_or_fail with
    ⟨⟨operand, reducer, first⟩, three⟩ | ⟨error, other⟩
  · rw [three]
    refine (asksOnly_of_keeps (Arrays.keeps_source operand)).bind fun array => ?_
    refine (asksOnly_of_keeps (Setting.keeps_ask 2 Option.none)).bind fun initial => ?_
    split
    · rename_i functions lambda
      have folds : ¬ dialect.Aggregates := by
        rintro ⟨naming, subquery⟩
        rw [lambda] at subquery
        cases subquery
      exact .ask (.fold rfl folds) fun _ => .done _
    · rename_i naming subquery
      split
      · exact .fail _
      · rename_i aggregate index recognised
        have second : call.operands[1]? = Option.some reducer := by
          rw [Call.operands, Call.arguments_of_listedTriple three]
          rfl
        exact .ask (.value rfl ⟨naming, subquery⟩ second recognised) fun _ => .done _
  · rw [other]
    exact .fail error

/-- Every operator makes only such requests. -/
theorem asksOnly_plan (dialect : Dialect) (operator : Operator) :
    (operator.plan dialect setting call).AsksOnly
      (operator.MayAsk dialect setting.scope call) := by
  cases operator with
  | var => exact Reference.settled_var.mono fun _ => False.elim
  | missing => exact Reference.settled_missing.mono fun _ => False.elim
  | missingSome => exact Reference.settled_missingSome.mono fun _ => False.elim
  | equal | strictEqual | notEqual | strictNotEqual =>
      exact asksOnly_of_keeps (Logic.keeps_equality _ _)
  | not => exact asksOnly_of_keeps Logic.keeps_negation
  | truthy => exact asksOnly_of_keeps Logic.keeps_truthy
  | and | or => exact asksOnly_of_keeps (Logic.keeps_connective _)
  | conditional => exact asksOnly_of_keeps Logic.keeps_conditional
  | ternary => exact asksOnly_of_keeps Logic.keeps_ternary
  | greater | greaterEqual | less | lessEqual =>
      exact asksOnly_of_keeps (Logic.keeps_comparison _)
  | add => exact asksOnly_of_keeps Arithmetic.keeps_add
  | subtract => exact asksOnly_of_keeps Arithmetic.keeps_subtract
  | multiply | divide => exact asksOnly_of_keeps (Arithmetic.keeps_chain _)
  | modulo => exact asksOnly_of_keeps Arithmetic.keeps_modulo
  | max | min => exact asksOnly_of_keeps (Arithmetic.keeps_extremum _)
  | cat => exact asksOnly_of_keeps Strings.keeps_cat
  | substr => exact asksOnly_of_keeps Strings.keeps_substr
  | membership => exact asksOnly_of_keeps Arrays.keeps_membership
  | map | filter | all | some | none => exact asksOnly_iteration rfl (by decide) _
  | reduce => exact asksOnly_reduce
  | merge => exact asksOnly_of_keeps Arrays.keeps_merge

end Operator
end RuleClause
