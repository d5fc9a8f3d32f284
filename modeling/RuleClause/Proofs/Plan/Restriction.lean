import RuleClause.Proofs.Plan.Requests

/-!
# Plans with and without a schema

A schema lets operators check their operands and tells them which types literals
meet.  All else is the same with it as without it: an operator makes the same
requests in the same order, whatever the answers are, and it ends in the same way,
unless the schema objects first.
-/

namespace RuleClause

/-- The codes under which a schema objects to a rule. -/
def ErrorCode.objections : List ErrorCode :=
  [.fieldNotInSchema, .invalidFieldType, .invalidEnumValue]

@[simp]
theorem ErrorCode.mem_objections {code : ErrorCode} :
    code ∈ objections ↔
      code = .fieldNotInSchema ∨ code = .invalidFieldType ∨ code = .invalidEnumValue := by
  simp [objections]

namespace Error

@[simp]
theorem code_ofFault (fault : Fault) : (ofFault fault).code = fault.code :=
  rfl

@[simp]
theorem code_raisedBy (error : Error) (operator : String) :
    (error.raisedBy operator).code = error.code :=
  rfl

@[simp]
theorem code_foundAt (error : Error) (path : Path) : (error.foundAt path).code = error.code :=
  rfl

end Error

/--
A result with a schema beside the one without: both are values, both are the same
error, or the schema objects.
-/
inductive Narrowed {α β : Type} (related : α → β → Prop) :
    Except Error α → Except Error β → Prop
  | ok
      {free : α}
      {bound : β}
      (values : related free bound) :
      Narrowed related (.ok free) (.ok bound)
  | error (error : Error) : Narrowed related (.error error) (.error error)
  | objection
      {result : Except Error α}
      {error : Error}
      (objects : error.code ∈ ErrorCode.objections) :
      Narrowed related result (.error error)

theorem Narrowed.bind
    {α β γ δ : Type}
    {related : α → β → Prop}
    {further : γ → δ → Prop}
    {free : Except Error α}
    {bound : Except Error β}
    {freeNext : α → Except Error γ}
    {boundNext : β → Except Error δ}
    (narrowed : Narrowed related free bound)
    (next : ∀ first second, related first second →
      Narrowed further (freeNext first) (boundNext second)) :
    Narrowed further (free >>= freeNext) (bound >>= boundNext) := by
  cases narrowed with
  | ok values => exact next _ _ values
  | error error => exact .error error
  | objection objects => exact .objection objects

namespace Plan

/-- Any two values. -/
def anyTwo {α β : Type} (_ : α) (_ : β) : Prop :=
  True

/--
A plan with a schema beside the one without.  A request of the one is a request of
the other for the same part in the same scope, and the plans stay beside each other
whatever the two answers are.
-/
inductive Narrows {α β : Type} (related : α → β → Prop) : Plan α → Plan β → Prop
  | done
      {free : α}
      {bound : β}
      (values : related free bound) :
      Narrows related (.done free) (.done bound)
  | fail (error : Error) : Narrows related (.fail error) (.fail error)
  | objection
      {plan : Plan α}
      {error : Error}
      (objects : error.code ∈ ErrorCode.objections) :
      Narrows related plan (.fail error)
  | ask
      {selection : Selection}
      {scope : Scope}
      {freeHint boundHint : Option FieldType}
      {free : Sql → Plan α}
      {bound : Sql → Plan β}
      (next : ∀ first second, Narrows related (free first) (bound second)) :
      Narrows related (.ask ⟨selection, scope, freeHint⟩ free)
        (.ask ⟨selection, scope, boundHint⟩ bound)

namespace Narrows

variable {α β γ δ : Type} {related : α → β → Prop} {further : γ → δ → Prop}

theorem bind
    {free : Plan α}
    {bound : Plan β}
    {freeNext : α → Plan γ}
    {boundNext : β → Plan δ}
    (narrows : Narrows related free bound)
    (next : ∀ first second, related first second →
      Narrows further (freeNext first) (boundNext second)) :
    Narrows further (free >>= freeNext) (bound >>= boundNext) := by
  induction narrows with
  | done values => exact next _ _ values
  | fail error => exact .fail error
  | objection objects => exact .objection objects
  | ask _ inductionHypothesis => exact .ask inductionHypothesis

/-- Plans that go on whatever the values are. -/
theorem andThen
    {free : Plan α}
    {bound : Plan β}
    {freeNext : α → Plan γ}
    {boundNext : β → Plan δ}
    (narrows : Narrows related free bound)
    (next : ∀ first second, Narrows further (freeNext first) (boundNext second)) :
    Narrows further (free >>= freeNext) (bound >>= boundNext) :=
  narrows.bind fun first second _ => next first second

theorem weaken
    {free : Plan α}
    {bound : Plan β}
    (narrows : Narrows related free bound) :
    Narrows anyTwo free bound := by
  induction narrows with
  | done values => exact .done trivial
  | fail error => exact .fail error
  | objection objects => exact .objection objects
  | ask _ inductionHypothesis => exact .ask inductionHypothesis

/-- What makes no requests and does not look at the schema. -/
theorem of_settled {plan : Plan α} (settled : plan.Settled) : Narrows Eq plan plan := by
  rcases settled.eq_done_or_fail with ⟨value, rfl⟩ | ⟨error, rfl⟩
  · exact .done rfl
  · exact .fail error

/-- Where the answers stand beside each other, the results do. -/
theorem run
    {free : Plan α}
    {bound : Plan β}
    {freeAnswer boundAnswer : Request → Except Error Sql}
    (narrows : Narrows related free bound)
    (answers : ∀ selection scope freeHint boundHint,
      Narrowed anyTwo (freeAnswer ⟨selection, scope, freeHint⟩)
        (boundAnswer ⟨selection, scope, boundHint⟩)) :
    Narrowed related (free.run freeAnswer) (bound.run boundAnswer) := by
  induction narrows with
  | done values => exact .ok values
  | fail error => exact .error error
  | objection objects => exact .objection objects
  | @ask selection scope freeHint boundHint free bound _ inductionHypothesis =>
      refine (answers selection scope freeHint boundHint).bind fun first second _ => ?_
      exact inductionHypothesis first second

end Narrows
end Plan

open Plan (Narrows anyTwo)

variable {schema : Schema} {scope : Scope} {call : Call}

/-! ## Requests and checks -/

namespace Setting

@[simp]
theorem field?_schemaless (scope : Scope) (rule : Rule) :
    Setting.field? ⟨none, scope⟩ rule = none := by
  cases scope <;> rfl

/-- A request is made for the same part, though its literals may meet other types. -/
theorem narrows_ask (index : Nat) (freeHint boundHint : Option FieldType) :
    Narrows anyTwo (Setting.ask ⟨none, scope⟩ index freeHint)
      (Setting.ask ⟨some schema, scope⟩ index boundHint) :=
  .ask fun _ _ => .done trivial

theorem narrows_requestEach
    {free bound : Nat → Request}
    (same : ∀ index, (free index).selection = (bound index).selection ∧
      (free index).scope = (bound index).scope)
    (index count : Nat) :
    Narrows (fun first second => first.length = second.length)
      (Plan.requestEach free index count) (Plan.requestEach bound index count) := by
  induction count generalizing index with
  | zero => exact .done rfl
  | succ count inductionHypothesis =>
      have first : Narrows anyTwo (Plan.request (free index)) (Plan.request (bound index)) := by
        obtain ⟨selection, scope⟩ := same index
        generalize free index = freeRequest at selection scope ⊢
        generalize bound index = boundRequest at selection scope ⊢
        cases freeRequest
        cases boundRequest
        subst selection
        subst scope
        exact .ask fun _ _ => .done trivial
      refine first.andThen fun _ _ => ?_
      refine (inductionHypothesis (index + 1)).bind fun _ _ length => ?_
      exact .done (congrArg (· + 1) length)

theorem narrows_askEach (index count : Nat) (freeHint boundHint : Option FieldType) :
    Narrows (fun first second => first.length = second.length)
      (Setting.askEach ⟨none, scope⟩ freeHint index count)
      (Setting.askEach ⟨some schema, scope⟩ boundHint index count) := by
  refine narrows_requestEach ?_ index count
  exact fun _ => ⟨rfl, rfl⟩

theorem narrows_askParts (index inner count : Nat) (freeHint boundHint : Option FieldType) :
    Narrows (fun first second => first.length = second.length)
      (Setting.askParts ⟨none, scope⟩ index freeHint inner count)
      (Setting.askParts ⟨some schema, scope⟩ index boundHint inner count) := by
  refine narrows_requestEach ?_ inner count
  exact fun _ => ⟨rfl, rfl⟩

/-- A check can do nothing but object. -/
theorem narrows_ofExcept
    {check : Except Error Unit}
    {complete : Error → Error}
    (objects : ∀ error, check = .error error →
      (complete error).code ∈ ErrorCode.objections) :
    Narrows anyTwo (Plan.done ()) (Plan.ofExcept (check.mapError complete)) := by
  cases check with
  | ok value => exact .done trivial
  | error error => exact .objection (objects error rfl)

theorem narrows_gate (usage : Usage) (index : Nat) (rule : Rule) :
    Narrows anyTwo (Setting.gate ⟨none, scope⟩ call usage index rule)
      (Setting.gate ⟨some schema, scope⟩ call usage index rule) := by
  have free : Setting.gate ⟨none, scope⟩ call usage index rule = .done () := by
    simp [gate]
  rw [free]
  unfold gate
  split
  · refine narrows_ofExcept fun error refused => ?_
    unfold Schema.checkType at refused
    split at refused
    · cases refused
    · cases refused
      simp [Fault.code]
  · exact .done trivial

theorem narrows_gateEach (usage : Usage) (index : Nat) (rules : List Rule) :
    Narrows anyTwo (Setting.gateEach ⟨none, scope⟩ call usage index rules)
      (Setting.gateEach ⟨some schema, scope⟩ call usage index rules) := by
  induction rules generalizing index with
  | nil => exact .done trivial
  | cons rule rest inductionHypothesis =>
      exact (narrows_gate usage index rule).andThen fun _ _ => inductionHypothesis (index + 1)

theorem narrows_checkValue (setting : Setting) (name : String) (path : Path) (value : Rule) :
    Narrows anyTwo (Plan.done ()) (setting.checkValue call name path value) := by
  unfold checkValue
  split
  · refine narrows_ofExcept fun error refused => ?_
    unfold Schema.checkValue at refused
    split at refused
    · cases refused
    · split at refused
      · cases refused
      · cases refused
        simp [Fault.code]
  · exact .done trivial

theorem narrows_checkAgainst
    (rule : Rule)
    (field : Option (String × FieldType))
    (path : Path)
    (value : Rule) :
    Narrows anyTwo
      (Setting.checkAgainst ⟨none, scope⟩ call (Setting.field? ⟨none, scope⟩ rule) path value)
      (Setting.checkAgainst ⟨some schema, scope⟩ call field path value) := by
  rw [field?_schemaless]
  show Narrows anyTwo (.done ()) _
  unfold checkAgainst
  split
  · exact narrows_checkValue _ _ _ _
  · exact .done trivial

theorem narrows_require (name : String) (path : Path) :
    Narrows anyTwo (Setting.require ⟨none, scope⟩ name path)
      (Setting.require ⟨some schema, scope⟩ name path) := by
  refine narrows_ofExcept fun error refused => ?_
  unfold Schema.require at refused
  split at refused
  · cases refused
  · cases refused
    simp [Fault.code]

end Setting

/-! ## Variables and missing fields -/

namespace Reference

theorem narrows_named (path : Path) (name : String) :
    Narrows anyTwo (named ⟨none, scope⟩ call path name)
      (named ⟨some schema, scope⟩ call path name) := by
  cases scope with
  | row => exact (Setting.narrows_require name path).andThen fun _ _ => .done trivial
  | element => exact .done trivial
  | reduction =>
      simp only [named]
      split
      · exact .done trivial
      · exact .fail _

theorem narrows_reference (rule : Rule) :
    Narrows anyTwo (reference ⟨none, scope⟩ call rule)
      (reference ⟨some schema, scope⟩ call rule) := by
  cases rule with
  | string name =>
      simp only [reference, textual]
      split
      · exact .fail _
      · exact narrows_named call.path name
  | number value =>
      simp only [reference, positional]
      split
      · exact .fail _
      · split
        · exact .fail _
        · exact .done trivial
  | null | bool | list | operation => exact .fail _

/-- Which rules are literals does not depend on the types that they meet. -/
theorem isSome_ofLiteral? (type : Option FieldType) (rule : Rule) :
    (Sql.ofLiteral? type rule).isSome = rule.isLiteral := by
  cases rule <;> rfl

theorem narrows_checkDefault (name default : Rule) :
    Narrows anyTwo (checkDefault ⟨none, scope⟩ call name default)
      (checkDefault ⟨some schema, scope⟩ call name default) := by
  have untyped : defaultType? ⟨none, scope⟩ name = none := by
    cases name <;> simp [defaultType?]
  have free : checkDefault ⟨none, scope⟩ call name default = .done () := by
    simp [checkDefault, untyped]
  rw [free]
  unfold checkDefault
  split
  · exact Setting.narrows_checkValue _ _ _ _
  · exact .done trivial

theorem narrows_withDefault (name default : Rule) :
    Narrows anyTwo (withDefault ⟨none, scope⟩ call name default)
      (withDefault ⟨some schema, scope⟩ call name default) := by
  refine (narrows_reference name).andThen fun _ _ => ?_
  have alike : (Sql.ofLiteral? (defaultType? ⟨none, scope⟩ name) default).isSome =
      (Sql.ofLiteral? (defaultType? ⟨some schema, scope⟩ name) default).isSome := by
    rw [isSome_ofLiteral?, isSome_ofLiteral?]
  generalize Sql.ofLiteral? (defaultType? ⟨none, scope⟩ name) default = free at alike ⊢
  generalize Sql.ofLiteral? (defaultType? ⟨some schema, scope⟩ name) default = bound at alike ⊢
  cases free with
  | none =>
      cases bound with
      | none => exact .fail _
      | some => simp at alike
  | some =>
      cases bound with
      | none => simp at alike
      | some => exact (narrows_checkDefault name default).andThen fun _ _ => .done trivial

theorem narrows_var :
    Narrows anyTwo (var ⟨none, scope⟩ call) (var ⟨some schema, scope⟩ call) := by
  unfold var
  split
  · exact narrows_reference _
  · exact narrows_withDefault _ _
  · exact (Narrows.of_settled (call.settled_failCount 1 2)).weaken

theorem narrows_fields (place : Nat → Path) (index : Nat) (names : List Rule) :
    Narrows (fun first second => first.length = second.length)
      (fields ⟨none, scope⟩ call place index names)
      (fields ⟨some schema, scope⟩ call place index names) := by
  induction names generalizing index with
  | nil => exact .done rfl
  | cons rule rest inductionHypothesis =>
      cases rule with
      | string name =>
          refine (narrows_named (place index) name).andThen fun _ _ => ?_
          refine (inductionHypothesis (index + 1)).bind fun _ _ length => ?_
          exact .done (congrArg (· + 1) length)
      | null | bool | number | list | operation => exact .fail _

theorem narrows_missing :
    Narrows anyTwo (missing ⟨none, scope⟩ call) (missing ⟨some schema, scope⟩ call) := by
  have fields : Narrows (fun first second => first.length = second.length)
      (missingFields ⟨none, scope⟩ call) (missingFields ⟨some schema, scope⟩ call) := by
    unfold missingFields
    split
    · exact narrows_fields _ _ _
    · exact narrows_fields _ _ _
  refine fields.bind fun first second length => ?_
  -- Only the number of the fields decides, and it is the same.
  have empty : first.isEmpty = second.isEmpty := by
    rw [Bool.eq_iff_iff, List.isEmpty_iff_length_eq_zero, List.isEmpty_iff_length_eq_zero, length]
  rw [empty]
  split
  · exact .fail _
  · exact .done trivial

theorem narrows_missingSome :
    Narrows anyTwo (missingSome ⟨none, scope⟩ call) (missingSome ⟨some schema, scope⟩ call) := by
  refine (Narrows.of_settled call.settled_listedPair).bind ?_
  rintro ⟨least, names⟩ _ rfl
  refine (Narrows.of_settled (settled_minimum least)).andThen fun _ _ => ?_
  cases names with
  | list names => exact (narrows_fields _ _ _).andThen fun _ _ => .done trivial
  | null | bool | number | string | operation => exact .fail _

end Reference

/-! ## Equality, truth, connectives and comparisons -/

namespace Logic

theorem narrows_equality (operator : BinaryOp) (nullTest : Test) :
    Narrows anyTwo (equality ⟨none, scope⟩ call operator nullTest)
      (equality ⟨some schema, scope⟩ call operator nullTest) := by
  refine (Narrows.of_settled call.settled_pair).bind ?_
  rintro ⟨left, right⟩ _ rfl
  refine (Setting.narrows_gateEach _ _ _).andThen fun _ _ => ?_
  split
  · exact (Setting.narrows_ask 0 _ _).andThen fun _ _ => .done trivial
  · exact (Setting.narrows_ask 1 _ _).andThen fun _ _ => .done trivial
  · refine (Setting.narrows_checkAgainst _ _ _ _).andThen fun _ _ => ?_
    refine (Setting.narrows_checkAgainst _ _ _ _).andThen fun _ _ => ?_
    refine (Setting.narrows_ask 0 _ _).andThen fun _ _ => ?_
    exact (Setting.narrows_ask 1 _ _).andThen fun _ _ => .done trivial

theorem narrows_negation :
    Narrows anyTwo (negation ⟨none, scope⟩ call) (negation ⟨some schema, scope⟩ call) :=
  (Narrows.of_settled call.settled_single).andThen fun _ _ =>
    (Setting.narrows_ask 0 _ _).andThen fun _ _ => .done trivial

theorem narrows_truthy :
    Narrows anyTwo (truthy ⟨none, scope⟩ call) (truthy ⟨some schema, scope⟩ call) := by
  unfold truthy
  split
  · exact .done trivial
  · refine (Narrows.of_settled call.settled_single).bind ?_
    rintro operand _ rfl
    split
    · exact .done trivial
    · exact (Setting.narrows_ask 0 _ _).andThen fun _ _ => .done trivial

theorem narrows_connective (operator : BinaryOp) :
    Narrows anyTwo (connective ⟨none, scope⟩ call operator)
      (connective ⟨some schema, scope⟩ call operator) := by
  refine (Narrows.of_settled (call.settled_listedAtLeast 1)).bind ?_
  rintro operands _ rfl
  exact (Setting.narrows_askEach _ _ _ _).andThen fun _ _ => .done trivial

theorem narrows_branches (index count : Nat) :
    Narrows anyTwo (branches ⟨none, scope⟩ index count)
      (branches ⟨some schema, scope⟩ index count) := by
  fun_induction branches ⟨none, scope⟩ index count with
  | case1 index => exact .done trivial
  | case2 index => exact (Setting.narrows_ask index _ _).andThen fun _ _ => .done trivial
  | case3 index count inductionHypothesis =>
      refine (Setting.narrows_ask index _ _).andThen fun _ _ => ?_
      refine (Setting.narrows_ask (index + 1) _ _).andThen fun _ _ => ?_
      exact inductionHypothesis.andThen fun _ _ => .done trivial

theorem narrows_conditional :
    Narrows anyTwo (conditional ⟨none, scope⟩ call) (conditional ⟨some schema, scope⟩ call) := by
  refine (Narrows.of_settled (call.settled_listedAtLeast 2)).bind ?_
  rintro operands _ rfl
  exact (narrows_branches 0 operands.length).andThen fun _ _ => .done trivial

theorem narrows_ternary :
    Narrows anyTwo (ternary ⟨none, scope⟩ call) (ternary ⟨some schema, scope⟩ call) :=
  (Narrows.of_settled call.settled_listedTriple).andThen fun _ _ => narrows_conditional

theorem narrows_comparison (operator : BinaryOp) :
    Narrows anyTwo (comparison ⟨none, scope⟩ call operator)
      (comparison ⟨some schema, scope⟩ call operator) := by
  refine (Narrows.of_settled (call.settled_listedAtLeast 2)).bind ?_
  rintro operands _ rfl
  refine (Setting.narrows_gateEach _ _ _).andThen fun _ _ => ?_
  exact (Setting.narrows_askEach _ _ _ _).andThen fun _ _ => .done trivial

end Logic

/-! ## Arithmetic -/

namespace Arithmetic

theorem narrows_terms :
    Narrows anyTwo (terms ⟨none, scope⟩ call) (terms ⟨some schema, scope⟩ call) := by
  refine (Setting.narrows_gateEach _ _ _).andThen fun _ _ => ?_
  exact (Setting.narrows_askEach _ _ _ _).weaken

theorem narrows_chain (operator : BinaryOp) :
    Narrows anyTwo (chain ⟨none, scope⟩ call operator)
      (chain ⟨some schema, scope⟩ call operator) :=
  (Narrows.of_settled (call.settled_atLeast 2)).andThen fun _ _ => narrows_terms.andThen fun _ _ => .done trivial

theorem narrows_plus (operand : Rule) :
    Narrows anyTwo (plus ⟨none, scope⟩ call operand)
      (plus ⟨some schema, scope⟩ call operand) := by
  refine (Setting.narrows_gate _ _ _).andThen fun _ _ => ?_
  split
  · exact .done trivial
  · exact .done trivial
  · refine (Setting.narrows_ask 0 _ _).andThen fun _ _ => ?_
    split
    · split <;> exact .done trivial
    · split <;> exact .done trivial

theorem narrows_minus (operand : Rule) :
    Narrows anyTwo (minus ⟨none, scope⟩ call operand)
      (minus ⟨some schema, scope⟩ call operand) :=
  (Setting.narrows_gate _ _ _).andThen fun _ _ =>
    (Setting.narrows_ask 0 _ _).andThen fun _ _ => .done trivial

theorem narrows_add :
    Narrows anyTwo (add ⟨none, scope⟩ call) (add ⟨some schema, scope⟩ call) := by
  refine (Narrows.of_settled (call.settled_atLeast 1)).bind ?_
  rintro operands _ rfl
  split
  · exact narrows_plus _
  · exact narrows_chain .add

theorem narrows_subtract :
    Narrows anyTwo (subtract ⟨none, scope⟩ call) (subtract ⟨some schema, scope⟩ call) := by
  refine (Narrows.of_settled (call.settled_atLeast 1)).bind ?_
  rintro operands _ rfl
  split
  · exact narrows_minus _
  · exact narrows_chain .subtract

theorem narrows_modulo :
    Narrows anyTwo (modulo ⟨none, scope⟩ call) (modulo ⟨some schema, scope⟩ call) :=
  (Narrows.of_settled (call.settled_atLeast 2)).andThen fun _ _ => narrows_terms.andThen fun _ _ => .done trivial

theorem narrows_extremum (function : Function) :
    Narrows anyTwo (extremum ⟨none, scope⟩ call function)
      (extremum ⟨some schema, scope⟩ call function) :=
  (Narrows.of_settled (call.settled_atLeast 1)).andThen fun _ _ => narrows_terms.andThen fun _ _ => .done trivial

end Arithmetic

/-! ## Texts -/

namespace Strings

theorem narrows_cat :
    Narrows anyTwo (cat ⟨none, scope⟩ call) (cat ⟨some schema, scope⟩ call) := by
  refine (Narrows.of_settled (call.settled_atLeast 1)).bind ?_
  rintro operands _ rfl
  refine (Setting.narrows_gateEach _ _ _).andThen fun _ _ => ?_
  exact (Setting.narrows_askEach _ _ _ _).andThen fun _ _ => .done trivial

/-- Two offsets are the same integer, or both are values of expressions. -/
inductive Offset.Alike : Offset → Offset → Prop
  | literal (value : Int) : Alike (.literal value) (.literal value)
  | dynamic (first second : Sql) : Alike (.dynamic first) (.dynamic second)

theorem narrows_offset (index : Nat) (operand : Rule) :
    Narrows Offset.Alike (offset ⟨none, scope⟩ index operand)
      (offset ⟨some schema, scope⟩ index operand) := by
  unfold offset
  split
  · exact .done (.literal _)
  · exact (Setting.narrows_ask index _ _).andThen fun _ _ => .done (.dynamic _ _)

theorem narrows_start
    {free bound : Offset}
    (alike : free.Alike bound)
    (freeLength boundLength : Sql) :
    Narrows anyTwo (start call freeLength free) (start call boundLength bound) := by
  cases alike with
  | literal value =>
      simp only [start]
      split
      · exact (Narrows.of_settled (settled_inRange _)).andThen fun _ _ => .done trivial
      · exact (Narrows.of_settled (settled_inRange _)).andThen fun _ _ => .done trivial
  | dynamic => exact .done trivial

theorem narrows_lengthWithout
    {free bound : Offset}
    (alike : free.Alike bound)
    (freeLength boundLength : Sql)
    (dropped : Int) :
    Narrows anyTwo (lengthWithout call freeLength dropped free)
      (lengthWithout call boundLength dropped bound) := by
  cases alike with
  | literal value =>
      simp only [lengthWithout]
      split
      · exact (Narrows.of_settled (settled_inRange _)).andThen fun _ _ => .done trivial
      · exact (Narrows.of_settled (settled_inRange _)).andThen fun _ _ => .done trivial
  | dynamic => exact .done trivial

theorem narrows_partLength
    {free bound : Offset}
    (alike : free.Alike bound)
    (freeLength boundLength : Sql)
    (operand : Rule) :
    Narrows anyTwo (partLength ⟨none, scope⟩ call freeLength free operand)
      (partLength ⟨some schema, scope⟩ call boundLength bound operand) := by
  unfold partLength
  split
  · split
    · exact .done trivial
    · refine (Narrows.of_settled (settled_inRange _)).bind ?_
      rintro dropped _ rfl
      exact narrows_lengthWithout alike _ _ dropped
  · exact Setting.narrows_ask 2 _ _

theorem narrows_substr :
    Narrows anyTwo (substr ⟨none, scope⟩ call) (substr ⟨some schema, scope⟩ call) := by
  refine (Narrows.of_settled call.settled_listed).bind ?_
  rintro items _ rfl
  split
  · refine (Setting.narrows_gate _ _ _).andThen fun _ _ => ?_
    refine (Setting.narrows_gate _ _ _).andThen fun _ _ => ?_
    refine (Setting.narrows_ask 0 _ _).andThen fun _ _ => ?_
    refine (narrows_offset 1 _).bind fun _ _ alike => ?_
    exact (narrows_start alike _ _).andThen fun _ _ => .done trivial
  · refine (Setting.narrows_gate _ _ _).andThen fun _ _ => ?_
    refine (Setting.narrows_gate _ _ _).andThen fun _ _ => ?_
    refine (Setting.narrows_gate _ _ _).andThen fun _ _ => ?_
    refine (Setting.narrows_ask 0 _ _).andThen fun _ _ => ?_
    refine (narrows_offset 1 _).bind fun _ _ alike => ?_
    refine (narrows_start alike _ _).andThen fun _ _ => ?_
    exact (narrows_partLength alike _ _ _).andThen fun _ _ => .done trivial
  · exact (Narrows.of_settled (call.settled_failCount 2 3)).weaken

end Strings

/-! ## Arrays -/

namespace Arrays

theorem narrows_checkItems
    (rule : Rule)
    (field : Option (String × FieldType))
    (inner : Nat)
    (items : List Rule) :
    Narrows anyTwo
      (checkItems ⟨none, scope⟩ call (Setting.field? ⟨none, scope⟩ rule) inner items)
      (checkItems ⟨some schema, scope⟩ call field inner items) := by
  induction items generalizing inner with
  | nil => exact .done trivial
  | cons item rest inductionHypothesis =>
      exact (Setting.narrows_checkAgainst rule field _ _).andThen fun _ _ =>
        inductionHypothesis (inner + 1)

theorem narrows_membershipIn (needle : Rule) (items : List Rule) :
    Narrows anyTwo (membershipIn ⟨none, scope⟩ call needle items)
      (membershipIn ⟨some schema, scope⟩ call needle items) := by
  unfold membershipIn
  split
  · exact .done trivial
  · refine (narrows_checkItems needle _ 0 items).andThen fun _ _ => ?_
    refine (Setting.narrows_ask 0 _ _).andThen fun _ _ => ?_
    exact (Setting.narrows_askParts 1 0 _ _ _).andThen fun _ _ => .done trivial

/-- Without a schema everything can be searched. -/
theorem narrows_haystack (operand : Rule) :
    Narrows anyTwo (haystack ⟨none, scope⟩ call operand)
      (haystack ⟨some schema, scope⟩ call operand) := by
  have free : ∃ kind, haystack ⟨none, scope⟩ call operand = .done kind := by
    cases operand <;> simp [haystack]
  obtain ⟨kind, free⟩ := free
  rw [free]
  unfold haystack
  split
  · exact .done trivial
  · exact .done trivial
  · exact .done trivial
  · exact .done trivial
  · exact .objection (by simp [Call.errorAt, Fault.code])
  · exact .done trivial
  · exact .done trivial

theorem narrows_membership :
    Narrows anyTwo (membership ⟨none, scope⟩ call) (membership ⟨some schema, scope⟩ call) := by
  refine (Narrows.of_settled call.settled_listedPair).bind ?_
  rintro ⟨needle, operand⟩ _ rfl
  dsimp only
  split
  · exact narrows_membershipIn _ _
  · refine (narrows_haystack operand).andThen fun first second => ?_
    refine (Setting.narrows_ask 0 _ _).andThen fun _ _ => ?_
    refine (Setting.narrows_ask 1 _ _).andThen fun _ _ => ?_
    cases first <;> cases second <;> exact .done trivial

theorem narrows_source (operand : Rule) :
    Narrows anyTwo (source ⟨none, scope⟩ call operand)
      (source ⟨some schema, scope⟩ call operand) :=
  (Setting.narrows_gate _ _ _).andThen fun _ _ => Setting.narrows_ask 0 _ _

theorem narrows_body (inner : Scope) : Narrows anyTwo (body inner) (body inner) :=
  .ask fun _ _ => .done trivial

theorem narrows_iteration (build : Sql → Sql → Sql) :
    Narrows anyTwo (iteration ⟨none, scope⟩ call build)
      (iteration ⟨some schema, scope⟩ call build) := by
  refine (Narrows.of_settled call.settled_listedPair).bind ?_
  rintro ⟨operand, step⟩ _ rfl
  refine (narrows_source operand).andThen fun _ _ => ?_
  exact (narrows_body .element).andThen fun _ _ => .done trivial

theorem narrows_reduce (dialect : Dialect) :
    Narrows anyTwo (reduce dialect ⟨none, scope⟩ call)
      (reduce dialect ⟨some schema, scope⟩ call) := by
  refine (Narrows.of_settled call.settled_listedTriple).bind ?_
  rintro ⟨operand, reducer, first⟩ _ rfl
  refine (narrows_source operand).andThen fun _ _ => ?_
  refine (Setting.narrows_ask 2 _ _).andThen fun _ _ => ?_
  split
  · exact (narrows_body .reduction).andThen fun _ _ => .done trivial
  · split
    · exact .fail _
    · exact .ask fun _ _ => .done trivial

theorem narrows_mergedItems (index : Nat) (operands : List Rule) :
    Narrows anyTwo (mergedItems ⟨none, scope⟩ index operands)
      (mergedItems ⟨some schema, scope⟩ index operands) := by
  induction operands generalizing index with
  | nil => exact .done trivial
  | cons operand rest inductionHypothesis =>
      cases operand with
      | list items =>
          refine (Setting.narrows_askParts index 0 items.length none none).andThen fun _ _ => ?_
          exact (inductionHypothesis (index + 1)).andThen fun _ _ => .done trivial
      | null | bool | number | string | operation =>
          refine (Setting.narrows_ask index none none).andThen fun _ _ => ?_
          exact (inductionHypothesis (index + 1)).andThen fun _ _ => .done trivial

theorem narrows_mergedArrays (index : Nat) (operands : List Rule) :
    Narrows anyTwo (mergedArrays ⟨none, scope⟩ call index operands)
      (mergedArrays ⟨some schema, scope⟩ call index operands) := by
  induction operands generalizing index with
  | nil => exact .done trivial
  | cons operand rest inductionHypothesis =>
      refine (Setting.narrows_gate _ _ _).andThen fun _ _ => ?_
      refine (Setting.narrows_ask index _ _).andThen fun _ _ => ?_
      exact (inductionHypothesis (index + 1)).andThen fun _ _ => .done trivial

theorem narrows_merge :
    Narrows anyTwo (merge ⟨none, scope⟩ call) (merge ⟨some schema, scope⟩ call) := by
  unfold merge
  split
  · exact (narrows_mergedArrays 0 call.operands).andThen fun _ _ => .done trivial
  · exact (narrows_mergedItems 0 call.operands).andThen fun _ _ => .done trivial

end Arrays

/-- Every operator does the same with a schema as without, unless the schema objects. -/
theorem Operator.narrows_plan (dialect : Dialect) (operator : Operator) :
    Narrows anyTwo (operator.plan dialect ⟨Option.none, scope⟩ call)
      (operator.plan dialect ⟨Option.some schema, scope⟩ call) := by
  cases operator with
  | var => exact Reference.narrows_var
  | missing => exact Reference.narrows_missing
  | missingSome => exact Reference.narrows_missingSome
  | equal | strictEqual | notEqual | strictNotEqual => exact Logic.narrows_equality _ _
  | not => exact Logic.narrows_negation
  | truthy => exact Logic.narrows_truthy
  | and | or => exact Logic.narrows_connective _
  | conditional => exact Logic.narrows_conditional
  | ternary => exact Logic.narrows_ternary
  | greater | greaterEqual | less | lessEqual => exact Logic.narrows_comparison _
  | add => exact Arithmetic.narrows_add
  | subtract => exact Arithmetic.narrows_subtract
  | multiply | divide => exact Arithmetic.narrows_chain _
  | modulo => exact Arithmetic.narrows_modulo
  | max | min => exact Arithmetic.narrows_extremum _
  | cat => exact Strings.narrows_cat
  | substr => exact Strings.narrows_substr
  | membership => exact Arrays.narrows_membership
  | map | filter | all | some | none => exact Arrays.narrows_iteration _
  | reduce => exact Arrays.narrows_reduce dialect
  | merge => exact Arrays.narrows_merge

end RuleClause
