import RuleClause.Proofs.Plan.Requests

/-!
# What plans complain about

An operator complains about its own operation only.  An error that its plan ends
with by itself is found at the place of the operation, of an operand, or of an item
of an operand that is a list, and it names no other operator.  The errors of
requests are not the plan's own; they come out of it as they are.
-/

namespace RuleClause
namespace Plan

variable {α β : Type} {allowed : Error → Prop} {answer : Request → Except Error Sql}

/-- With the given answers, a plan comes to an error of its own. -/
inductive Raises (answer : Request → Except Error Sql) (error : Error) : Plan α → Prop
  | here : Raises answer error (.fail error)
  | later
      {first : Request}
      {next : Sql → Plan α}
      {expression : Sql}
      (answered : answer first = .ok expression)
      (raises : Raises answer error (next expression)) :
      Raises answer error (.ask first next)

/-- An error that a plan ends with is its own, or it is the answer to a request. -/
theorem raises_or_asks
    {plan : Plan α}
    {error : Error}
    (ended : plan.run answer = .error error) :
    plan.Raises answer error ∨
      ∃ request, plan.Asks answer request ∧ answer request = .error error := by
  induction plan with
  | done value => cases ended
  | fail raised =>
      obtain rfl := Except.error.inj ended
      exact .inl .here
  | ask request next inductionHypothesis =>
      simp only [run] at ended
      cases met : answer request with
      | error refused =>
          rw [met] at ended
          obtain rfl := Except.error.inj ended
          exact .inr ⟨request, .here, met⟩
      | ok expression =>
          rw [met] at ended
          rcases inductionHypothesis expression ended with raises | ⟨later, asks, refused⟩
          · exact .inl (.later met raises)
          · exact .inr ⟨later, .later met asks, refused⟩

/-- A plan comes to its own error when it is run. -/
theorem Raises.run_eq_error
    {plan : Plan α}
    {error : Error}
    (raises : plan.Raises answer error) :
    plan.run answer = .error error := by
  induction raises with
  | here => rfl
  | later met _ inductionHypothesis =>
      simp only [run, met]
      exact inductionHypothesis

/-- The error of a request comes out of the plan as it is. -/
theorem Asks.run_eq_error
    {plan : Plan α}
    {request : Request}
    {error : Error}
    (asks : plan.Asks answer request)
    (refused : answer request = .error error) :
    plan.run answer = .error error := by
  induction asks with
  | here =>
      simp only [run, refused]
      rfl
  | later met _ inductionHypothesis =>
      simp only [run, met]
      exact inductionHypothesis

/-- Whatever the answers are, the errors that a plan raises by itself are of a certain kind. -/
inductive RaisesOnly (allowed : Error → Prop) : Plan α → Prop
  | done (value : α) : RaisesOnly allowed (.done value)
  | fail {error : Error} (permitted : allowed error) : RaisesOnly allowed (.fail error)
  | ask
      {request : Request}
      {next : Sql → Plan α}
      (rest : ∀ expression, RaisesOnly allowed (next expression)) :
      RaisesOnly allowed (.ask request next)

namespace RaisesOnly

theorem of_raises
    {plan : Plan α}
    {error : Error}
    (only : plan.RaisesOnly allowed)
    (raises : plan.Raises answer error) :
    allowed error := by
  induction raises with
  | here =>
      cases only with
      | fail permitted => exact permitted
  | later _ _ inductionHypothesis =>
      cases only with
      | ask rest => exact inductionHypothesis (rest _)

theorem bind
    {plan : Plan α}
    {next : α → Plan β}
    (only : plan.RaisesOnly allowed)
    (rest : ∀ value, (next value).RaisesOnly allowed) :
    (plan >>= next).RaisesOnly allowed := by
  induction only with
  | done value => exact rest value
  | fail permitted => exact .fail permitted
  | ask _ inductionHypothesis => exact .ask inductionHypothesis

/-- A plan goes on with a value that the arguments alone have decided. -/
theorem bind_settled
    {plan : Plan α}
    {next : α → Plan β}
    (settled : plan.Settled)
    (only : plan.RaisesOnly allowed)
    (rest : ∀ value, plan = .done value → (next value).RaisesOnly allowed) :
    (plan >>= next).RaisesOnly allowed := by
  rcases settled.eq_done_or_fail with ⟨value, ended⟩ | ⟨error, ended⟩
  · rw [ended]
    exact rest value ended
  · rw [ended] at only ⊢
    cases only with
    | fail permitted => exact .fail permitted

end RaisesOnly

theorem raisesOnly_requestEach (request : Nat → Request) (index count : Nat) :
    (requestEach request index count).RaisesOnly allowed := by
  induction count generalizing index with
  | zero => exact .done []
  | succ count inductionHypothesis =>
      refine .ask fun first => ?_
      exact (inductionHypothesis (index + 1)).bind fun rest => .done (first :: rest)

theorem run_of_eq_done
    {plan : Plan α}
    {value : α}
    (ended : plan = .done value)
    (answer : Request → Except Error Sql) :
    plan.run answer = .ok value := by
  rw [ended, run_done]

end Plan

/-- A fault of an operation itself: neither too many levels nor the failure of a handler. -/
def Fault.IsOwn (fault : Fault) : Prop :=
  fault.code ≠ .maxDepthExceeded ∧ fault.code ≠ .customOperatorFailed

namespace Call

/--
The places that an operation speaks of: its own, those of its operands, and those of
the items of an operand that is a list.
-/
inductive Covers (call : Call) : Path → Prop
  | own : Covers call call.path
  | operand {index : Nat} (bound : index < call.operands.length) :
      Covers call (call.operandPath index)
  | item
      {index inner : Nat}
      {items : List Rule}
      (found : call.operands[index]? = some (.list items))
      (bound : inner < items.length) :
      Covers call (call.itemPath index inner)

/-- The errors that an operator may raise by itself. -/
structure Owns (call : Call) (error : Error) : Prop where
  /-- No other operator is named. -/
  operator : error.operator = none ∨ error.operator = some call.operator
  /-- The operation speaks of the place. -/
  place : ∃ path, error.path = some path ∧ call.Covers path
  /-- There is no other failure behind it. -/
  cause : error.cause = none
  /-- The operation itself is at fault. -/
  fault : error.fault.IsOwn

end Call

/-- A plan raises only errors of an operation. -/
abbrev Plan.Blames {α : Type} (call : Call) (plan : Plan α) : Prop :=
  plan.RaisesOnly call.Owns

open Plan (RaisesOnly Blames)

variable {α : Type} {setting : Setting} {call : Call}

/-! ## Arguments and checks -/

namespace Call

theorem owns_errorAt
    {path : Path}
    {fault : Fault}
    (covers : call.Covers path)
    (own : fault.IsOwn) :
    call.Owns (call.errorAt path fault) where
  operator := .inr rfl
  place := ⟨path, rfl, covers⟩
  cause := rfl
  fault := own

/-- The schema refuses a name without knowing who asks. -/
theorem owns_undeclaredField {path : Path} (covers : call.Covers path) (name : String) :
    call.Owns ((Error.ofFault (.undeclaredField name)).foundAt path) where
  operator := .inl rfl
  place := ⟨path, rfl, covers⟩
  cause := rfl
  fault := ⟨nofun, nofun⟩

theorem blames_fail (fault : Fault) (own : fault.IsOwn) :
    (call.fail fault : Plan α).Blames call :=
  .fail (owns_errorAt .own own)

theorem blames_failAt
    {index : Nat}
    (bound : index < call.operands.length)
    (fault : Fault)
    (own : fault.IsOwn) :
    (call.failAt index fault : Plan α).Blames call :=
  .fail (owns_errorAt (.operand bound) own)

theorem blames_failCount (least most : Nat) : (call.failCount least most : Plan α).Blames call := by
  unfold failCount
  split
  · exact blames_fail _ ⟨nofun, nofun⟩
  · exact blames_fail _ ⟨nofun, nofun⟩

theorem blames_listed : call.listed.Blames call := by
  unfold listed
  split
  · exact .done _
  · exact blames_fail _ ⟨nofun, nofun⟩

theorem blames_atLeast (required : Nat) : (call.atLeast required).Blames call := by
  unfold atLeast
  split
  · exact blames_fail _ ⟨nofun, nofun⟩
  · exact .done _

theorem blames_single : call.single.Blames call := by
  unfold single
  split
  · exact .done _
  · exact blames_failCount 1 1

theorem blames_pair : call.pair.Blames call := by
  unfold pair
  split
  · exact .done _
  · exact blames_failCount 2 2

theorem blames_listedPair : call.listedPair.Blames call :=
  blames_listed.bind fun _ => blames_pair

theorem blames_listedTriple : call.listedTriple.Blames call := by
  refine blames_listed.bind fun items => ?_
  split
  · exact .done _
  · exact blames_failCount 3 3

theorem blames_listedAtLeast (required : Nat) : (call.listedAtLeast required).Blames call :=
  blames_listed.bind fun _ => blames_atLeast required

/-! The operands of an operation whose number is known. -/

theorem operands_of_listed {items : List Rule} (listed : call.listed = .done items) :
    call.operands = items := by
  have arguments := (run_listed_eq_ok_iff call items).mp
    (Plan.run_of_eq_done listed fun _ => .ok .null)
  rw [operands, arguments]
  rfl

theorem operands_of_pair {operands : Rule × Rule} (two : call.pair = .done operands) :
    call.operands = [operands.1, operands.2] :=
  (run_pair_eq_ok_iff call operands).mp (Plan.run_of_eq_done two fun _ => .ok .null)

theorem operands_of_listedPair {operands : Rule × Rule} (two : call.listedPair = .done operands) :
    call.operands = [operands.1, operands.2] := by
  have arguments := (run_listedPair_eq_ok_iff operands).mp
    (Plan.run_of_eq_done two fun _ => .ok .null)
  rw [Call.operands, arguments]
  rfl

theorem operands_of_listedTriple
    {operands : Rule × Rule × Rule}
    (three : call.listedTriple = .done operands) :
    call.operands = [operands.1, operands.2.1, operands.2.2] := by
  rw [Call.operands, arguments_of_listedTriple three]
  rfl

theorem operands_of_atLeast
    {required : Nat}
    {operands : List Rule}
    (enough : call.atLeast required = .done operands) :
    required ≤ operands.length ∧ call.operands = operands := by
  obtain ⟨bound, same⟩ := (run_atLeast_eq_ok_iff call required operands).mp
    (Plan.run_of_eq_done enough fun _ => .ok .null)
  exact ⟨same ▸ bound, same⟩

theorem operands_of_listedAtLeast
    {required : Nat}
    {operands : List Rule}
    (enough : call.listedAtLeast required = .done operands) :
    call.operands = operands := by
  obtain ⟨arguments, _⟩ := (run_listedAtLeast_eq_ok_iff required operands).mp
    (Plan.run_of_eq_done enough fun _ => .ok .null)
  rw [Call.operands, arguments]
  rfl

end Call

namespace Setting

theorem blames_ask (index : Nat) (hint : Option FieldType) : (setting.ask index hint).Blames call :=
  .ask .done

theorem blames_askEach (hint : Option FieldType) (index count : Nat) :
    (setting.askEach hint index count).Blames call :=
  Plan.raisesOnly_requestEach _ index count

theorem blames_askParts (index : Nat) (hint : Option FieldType) (inner count : Nat) :
    (setting.askParts index hint inner count).Blames call :=
  Plan.raisesOnly_requestEach _ inner count

theorem blames_gate
    {index : Nat}
    (bound : index < call.operands.length)
    (usage : Usage)
    (rule : Rule) :
    (setting.gate call usage index rule).Blames call := by
  unfold gate
  split
  · rename_i name type _
    unfold Schema.checkType
    split
    · exact .done ()
    · exact .fail (call.owns_errorAt (.operand bound) ⟨nofun, nofun⟩)
  · exact .done ()

theorem blames_gateEach
    {index : Nat}
    {rules : List Rule}
    (bound : index + rules.length ≤ call.operands.length)
    (usage : Usage) :
    (setting.gateEach call usage index rules).Blames call := by
  induction rules generalizing index with
  | nil => exact .done ()
  | cons rule rest inductionHypothesis =>
      rw [List.length_cons] at bound
      refine (blames_gate (by omega) usage rule).bind fun _ => ?_
      exact inductionHypothesis (by omega)

theorem blames_checkValue
    {path : Path}
    (covers : call.Covers path)
    (name : String)
    (value : Rule) :
    (setting.checkValue call name path value).Blames call := by
  unfold checkValue
  split
  · rename_i schema text _ _
    unfold Schema.checkValue
    split
    · exact .done ()
    · split
      · exact .done ()
      · exact .fail (call.owns_errorAt covers ⟨nofun, nofun⟩)
  · exact .done ()

theorem blames_checkAgainst
    {path : Path}
    (covers : call.Covers path)
    (field : Option (String × FieldType))
    (value : Rule) :
    (setting.checkAgainst call field path value).Blames call := by
  unfold checkAgainst
  split
  · exact blames_checkValue covers _ value
  · exact .done ()

theorem blames_require {path : Path} (covers : call.Covers path) (name : String) :
    (setting.require name path).Blames call := by
  unfold require
  split
  · unfold Schema.require
    split
    · exact .done ()
    · exact .fail (call.owns_undeclaredField covers name)
  · exact .done ()

end Setting

/-! ## Variables and missing fields -/

namespace Reference

theorem blames_named {path : Path} (covers : call.Covers path) (name : String) :
    (named setting call path name).Blames call := by
  unfold named
  split
  · exact (Setting.blames_require covers name).bind fun _ => .done _
  · split
    · exact .done _
    · exact Call.blames_fail _ ⟨nofun, nofun⟩

theorem blames_reference {rule : Rule} (bound : 0 < call.operands.length) :
    (reference setting call rule).Blames call := by
  unfold reference
  split
  · unfold textual
    split
    · exact Call.blames_fail _ ⟨nofun, nofun⟩
    · exact blames_named .own _
  · unfold positional
    split
    · exact Call.blames_fail _ ⟨nofun, nofun⟩
    · split
      · exact Call.blames_fail _ ⟨nofun, nofun⟩
      · exact .done _
  · exact Call.blames_failAt bound _ ⟨nofun, nofun⟩

theorem blames_checkDefault {name default : Rule} (bound : 1 < call.operands.length) :
    (checkDefault setting call name default).Blames call := by
  unfold checkDefault
  split
  · exact Setting.blames_checkValue (.operand bound) _ _
  · exact .done ()

theorem blames_var : (var setting call).Blames call := by
  unfold var
  split
  · rename_i name operands
    exact blames_reference (by simp [operands])
  · rename_i name default operands
    refine (blames_reference (by simp [operands])).bind fun reference => ?_
    split
    · exact Call.blames_failAt (by simp [operands]) _ ⟨nofun, nofun⟩
    · exact (blames_checkDefault (by simp [operands])).bind fun _ => .done _
  · exact Call.blames_failCount 1 2

theorem blames_fields
    {place : Nat → Path}
    {index : Nat}
    {names : List Rule}
    (covers : ∀ offset < names.length, call.Covers (place (index + offset))) :
    (fields setting call place index names).Blames call := by
  induction names generalizing index with
  | nil => exact .done []
  | cons rule rest inductionHypothesis =>
      have here : call.Covers (place index) := covers 0 (by simp)
      cases rule with
      | string name =>
          refine (blames_named here name).bind fun first => ?_
          refine RaisesOnly.bind (inductionHypothesis ?_) fun rest => .done (first :: rest)
          intro offset bound
          have later := covers (offset + 1) (by simpa using bound)
          rwa [show index + (offset + 1) = index + 1 + offset by omega] at later
      | null | bool | number | list | operation =>
          exact .fail (call.owns_errorAt here ⟨nofun, nofun⟩)

theorem blames_missingFields : (missingFields setting call).Blames call := by
  unfold missingFields
  split
  · rename_i names operands
    apply blames_fields
    intro offset bound
    rw [Nat.zero_add]
    exact .item (by simp [operands]) bound
  · apply blames_fields
    intro offset bound
    rw [Nat.zero_add]
    exact .operand bound

theorem blames_missing : (missing setting call).Blames call := by
  refine blames_missingFields.bind fun references => ?_
  split
  · exact Call.blames_fail _ ⟨nofun, nofun⟩
  · exact .done _

theorem blames_minimum {rule : Rule} (bound : 0 < call.operands.length) :
    (minimum call rule).Blames call := by
  unfold minimum
  split
  · split
    · exact .done _
    · exact Call.blames_fail _ ⟨nofun, nofun⟩
  · exact Call.blames_failAt bound _ ⟨nofun, nofun⟩

theorem blames_missingSome : (missingSome setting call).Blames call := by
  refine RaisesOnly.bind_settled Call.settled_listedPair Call.blames_listedPair ?_
  rintro ⟨least, names⟩ two
  have operands := Call.operands_of_listedPair two
  refine (blames_minimum (by simp [operands])).bind fun least => ?_
  split
  · rename_i names _
    refine RaisesOnly.bind (blames_fields ?_) fun references => .done _
    intro offset bound
    rw [Nat.zero_add]
    exact .item (by simp [operands]) bound
  · exact Call.blames_failAt (by simp [operands]) _ ⟨nofun, nofun⟩

end Reference

/-! ## Equality, truth, connectives and comparisons -/

namespace Logic

theorem blames_equality (operator : BinaryOp) (nullTest : Test) :
    (equality setting call operator nullTest).Blames call := by
  refine RaisesOnly.bind_settled Call.settled_pair Call.blames_pair ?_
  rintro ⟨left, right⟩ two
  have operands := Call.operands_of_pair two
  refine (Setting.blames_gateEach (by simp [operands]) .equality).bind fun _ => ?_
  split
  · exact (Setting.blames_ask 0 none).bind fun _ => .done _
  · exact (Setting.blames_ask 1 none).bind fun _ => .done _
  · refine (Setting.blames_checkAgainst (.operand (by simp [operands])) _ _).bind fun _ => ?_
    refine (Setting.blames_checkAgainst (.operand (by simp [operands])) _ _).bind fun _ => ?_
    refine (Setting.blames_ask 0 _).bind fun _ => ?_
    exact (Setting.blames_ask 1 _).bind fun _ => .done _

theorem blames_negation : (negation setting call).Blames call :=
  Call.blames_single.bind fun _ => (Setting.blames_ask 0 none).bind fun _ => .done _

theorem blames_truthy : (truthy setting call).Blames call := by
  unfold truthy
  split
  · exact .done _
  · refine Call.blames_single.bind fun operand => ?_
    split
    · exact .done _
    · exact (Setting.blames_ask 0 none).bind fun _ => .done _

theorem blames_connective (operator : BinaryOp) : (connective setting call operator).Blames call :=
  (Call.blames_listedAtLeast 1).bind fun _ =>
    (Setting.blames_askEach _ _ _).bind fun _ => .done _

theorem blames_branches (index count : Nat) : (branches setting index count).Blames call := by
  fun_induction branches setting index count with
  | case1 index => exact .done _
  | case2 index => exact (Setting.blames_ask index none).bind fun _ => .done _
  | case3 index count inductionHypothesis =>
      refine (Setting.blames_ask index none).bind fun _ => ?_
      refine (Setting.blames_ask (index + 1) none).bind fun _ => ?_
      exact inductionHypothesis.bind fun _ => .done _

theorem blames_conditional : (conditional setting call).Blames call :=
  (Call.blames_listedAtLeast 2).bind fun _ => (blames_branches _ _).bind fun _ => .done _

theorem blames_ternary : (ternary setting call).Blames call :=
  Call.blames_listedTriple.bind fun _ => blames_conditional

theorem blames_comparison (operator : BinaryOp) : (comparison setting call operator).Blames call := by
  refine RaisesOnly.bind_settled (Call.settled_listedAtLeast 2) (Call.blames_listedAtLeast 2) ?_
  intro operands enough
  rw [← Call.operands_of_listedAtLeast enough]
  refine (Setting.blames_gateEach (by simp) .ordering).bind fun _ => ?_
  exact (Setting.blames_askEach _ _ _).bind fun _ => .done _

end Logic

/-! ## Arithmetic -/

namespace Arithmetic

theorem blames_terms : (terms setting call).Blames call :=
  (Setting.blames_gateEach (by simp) .numeric).bind fun _ => Setting.blames_askEach _ _ _

theorem blames_chain (operator : BinaryOp) : (chain setting call operator).Blames call :=
  (Call.blames_atLeast 2).bind fun _ => blames_terms.bind fun _ => .done _

theorem blames_plus {operand : Rule} (bound : 0 < call.operands.length) :
    (plus setting call operand).Blames call := by
  refine (Setting.blames_gate bound .numeric operand).bind fun _ => ?_
  split
  · exact .done _
  · exact .done _
  · refine (Setting.blames_ask 0 none).bind fun expression => ?_
    split <;> exact .done _

theorem blames_minus {operand : Rule} (bound : 0 < call.operands.length) :
    (minus setting call operand).Blames call :=
  (Setting.blames_gate bound .numeric operand).bind fun _ =>
    (Setting.blames_ask 0 _).bind fun _ => .done _

theorem blames_add : (add setting call).Blames call := by
  refine RaisesOnly.bind_settled (Call.settled_atLeast 1) (Call.blames_atLeast 1) ?_
  intro operands enough
  obtain ⟨bound, same⟩ := Call.operands_of_atLeast enough
  split
  · exact blames_plus (by rwa [same])
  · exact blames_chain .add

theorem blames_subtract : (subtract setting call).Blames call := by
  refine RaisesOnly.bind_settled (Call.settled_atLeast 1) (Call.blames_atLeast 1) ?_
  intro operands enough
  obtain ⟨bound, same⟩ := Call.operands_of_atLeast enough
  split
  · exact blames_minus (by rwa [same])
  · exact blames_chain .subtract

theorem blames_modulo : (modulo setting call).Blames call :=
  (Call.blames_atLeast 2).bind fun _ => blames_terms.bind fun _ => .done _

theorem blames_extremum (function : Function) : (extremum setting call function).Blames call :=
  (Call.blames_atLeast 1).bind fun _ => blames_terms.bind fun _ => .done _

end Arithmetic

/-! ## Texts -/

namespace Strings

theorem blames_cat : (cat setting call).Blames call := by
  refine RaisesOnly.bind_settled (Call.settled_atLeast 1) (Call.blames_atLeast 1) ?_
  intro operands enough
  obtain ⟨_, rfl⟩ := Call.operands_of_atLeast enough
  refine (Setting.blames_gateEach (by simp) .string).bind fun _ => ?_
  exact (Setting.blames_askEach _ _ _).bind fun _ => .done _

theorem blames_inRange (value : Int) : (inRange call value).Blames call := by
  unfold inRange
  split
  · exact .done _
  · exact Call.blames_fail _ ⟨nofun, nofun⟩

theorem blames_offset (index : Nat) (operand : Rule) :
    (offset setting index operand).Blames call := by
  unfold offset
  split
  · exact .done _
  · exact (Setting.blames_ask index _).bind fun _ => .done _

theorem blames_start (length : Sql) (offset : Offset) : (start call length offset).Blames call := by
  unfold start
  split
  · split
    · exact (blames_inRange _).bind fun _ => .done _
    · exact (blames_inRange _).bind fun _ => .done _
  · exact .done _

theorem blames_lengthWithout (length : Sql) (dropped : Int) (offset : Offset) :
    (lengthWithout call length dropped offset).Blames call := by
  unfold lengthWithout
  split
  · split
    · exact (blames_inRange _).bind fun _ => .done _
    · exact (blames_inRange _).bind fun _ => .done _
  · exact .done _

theorem blames_partLength (length : Sql) (offset : Offset) (operand : Rule) :
    (partLength setting call length offset operand).Blames call := by
  unfold partLength
  split
  · split
    · exact .done _
    · exact (blames_inRange _).bind fun dropped => blames_lengthWithout length dropped offset
  · exact Setting.blames_ask 2 _

theorem blames_substr : (substr setting call).Blames call := by
  refine RaisesOnly.bind_settled Call.settled_listed Call.blames_listed ?_
  intro items listed
  have operands := Call.operands_of_listed listed
  split
  · refine (Setting.blames_gate (by simp [operands]) .string _).bind fun _ => ?_
    refine (Setting.blames_gate (by simp [operands]) .numeric _).bind fun _ => ?_
    refine (Setting.blames_ask 0 none).bind fun operand => ?_
    refine (blames_offset 1 _).bind fun offset => ?_
    exact (blames_start _ offset).bind fun _ => .done _
  · refine (Setting.blames_gate (by simp [operands]) .string _).bind fun _ => ?_
    refine (Setting.blames_gate (by simp [operands]) .numeric _).bind fun _ => ?_
    refine (Setting.blames_gate (by simp [operands]) .numeric _).bind fun _ => ?_
    refine (Setting.blames_ask 0 none).bind fun operand => ?_
    refine (blames_offset 1 _).bind fun offset => ?_
    refine (blames_start _ offset).bind fun first => ?_
    exact (blames_partLength _ offset _).bind fun _ => .done _
  · exact Call.blames_failCount 2 3

end Strings

/-! ## Arrays -/

namespace Arrays

theorem blames_checkItems
    {field : Option (String × FieldType)}
    {inner : Nat}
    {items : List Rule}
    (covers : ∀ offset < items.length, call.Covers (call.itemPath 1 (inner + offset))) :
    (checkItems setting call field inner items).Blames call := by
  induction items generalizing inner with
  | nil => exact .done ()
  | cons item rest inductionHypothesis =>
      refine (Setting.blames_checkAgainst (covers 0 (by simp)) field item).bind fun _ => ?_
      apply inductionHypothesis
      intro offset bound
      have later := covers (offset + 1) (by simpa using bound)
      rwa [show inner + (offset + 1) = inner + 1 + offset by omega] at later

theorem blames_haystack {operand : Rule} (bound : 1 < call.operands.length) :
    (haystack setting call operand).Blames call := by
  unfold haystack
  split
  · exact .done _
  · exact .done _
  · exact .done _
  · exact .done _
  · exact Call.blames_failAt bound _ ⟨nofun, nofun⟩
  · exact .done _
  · exact .done _

theorem blames_membershipIn
    {needle : Rule}
    {items : List Rule}
    (found : call.operands[1]? = some (.list items)) :
    (membershipIn setting call needle items).Blames call := by
  unfold membershipIn
  split
  · exact .done _
  · refine RaisesOnly.bind (blames_checkItems ?_) fun _ => ?_
    · intro offset bound
      rw [Nat.zero_add]
      exact .item found bound
    · refine (Setting.blames_ask 0 none).bind fun value => ?_
      exact (Setting.blames_askParts 1 _ 0 _).bind fun _ => .done _

theorem blames_membership : (membership setting call).Blames call := by
  refine RaisesOnly.bind_settled Call.settled_listedPair Call.blames_listedPair ?_
  rintro ⟨needle, operand⟩ two
  have operands := Call.operands_of_listedPair two
  dsimp only
  split
  · exact blames_membershipIn (by simp [operands])
  · refine (blames_haystack (by simp [operands])).bind fun kind => ?_
    refine (Setting.blames_ask 0 none).bind fun value => ?_
    refine (Setting.blames_ask 1 none).bind fun searched => ?_
    cases kind <;> exact .done _

theorem blames_source {operand : Rule} (bound : 0 < call.operands.length) :
    (source setting call operand).Blames call :=
  (Setting.blames_gate bound .array operand).bind fun _ => Setting.blames_ask 0 none

theorem blames_iteration (build : Sql → Sql → Sql) :
    (iteration setting call build).Blames call := by
  refine RaisesOnly.bind_settled Call.settled_listedPair Call.blames_listedPair ?_
  rintro operands two
  have bound : 0 < call.operands.length := by simp [Call.operands_of_listedPair two]
  refine (blames_source bound).bind fun array => ?_
  exact .ask fun _ => .done _

theorem blames_reduce (dialect : Dialect) : (reduce dialect setting call).Blames call := by
  refine RaisesOnly.bind_settled Call.settled_listedTriple Call.blames_listedTriple ?_
  rintro ⟨operand, reducer, first⟩ three
  have bound : 0 < call.operands.length := by simp [Call.operands_of_listedTriple three]
  refine (blames_source bound).bind fun array => ?_
  refine (Setting.blames_ask 2 none).bind fun initial => ?_
  split
  · exact .ask fun _ => .done _
  · split
    · exact Call.blames_fail _ ⟨nofun, nofun⟩
    · exact .ask fun _ => .done _

theorem blames_mergedItems (index : Nat) (operands : List Rule) :
    (mergedItems setting index operands).Blames call := by
  induction operands generalizing index with
  | nil => exact .done []
  | cons operand rest inductionHypothesis =>
      cases operand with
      | list items =>
          refine (Setting.blames_askParts index none 0 items.length).bind fun items => ?_
          exact (inductionHypothesis (index + 1)).bind fun rest => .done (items ++ rest)
      | null | bool | number | string | operation =>
          refine (Setting.blames_ask index none).bind fun item => ?_
          exact (inductionHypothesis (index + 1)).bind fun rest => .done (item :: rest)

theorem blames_mergedArrays
    {index : Nat}
    {operands : List Rule}
    (bound : index + operands.length ≤ call.operands.length) :
    (mergedArrays setting call index operands).Blames call := by
  induction operands generalizing index with
  | nil => exact .done []
  | cons operand rest inductionHypothesis =>
      rw [List.length_cons] at bound
      refine (Setting.blames_gate (by omega) .array operand).bind fun _ => ?_
      refine (Setting.blames_ask index none).bind fun expression => ?_
      exact RaisesOnly.bind (inductionHypothesis (by omega)) fun rest => .done _

theorem blames_merge : (merge setting call).Blames call := by
  unfold merge
  split
  · exact (blames_mergedArrays (by simp)).bind fun _ => .done _
  · exact (blames_mergedItems 0 call.operands).bind fun _ => .done _

end Arrays

/-! ## Operators -/

/-- Every operator complains about its own operation only. -/
theorem Operator.blames_plan (dialect : Dialect) (operator : Operator) :
    (operator.plan dialect setting call).Blames call := by
  cases operator with
  | var => exact Reference.blames_var
  | missing => exact Reference.blames_missing
  | missingSome => exact Reference.blames_missingSome
  | equal | strictEqual | notEqual | strictNotEqual => exact Logic.blames_equality _ _
  | not => exact Logic.blames_negation
  | truthy => exact Logic.blames_truthy
  | and | or => exact Logic.blames_connective _
  | conditional => exact Logic.blames_conditional
  | ternary => exact Logic.blames_ternary
  | greater | greaterEqual | less | lessEqual => exact Logic.blames_comparison _
  | add => exact Arithmetic.blames_add
  | subtract => exact Arithmetic.blames_subtract
  | multiply | divide => exact Arithmetic.blames_chain _
  | modulo => exact Arithmetic.blames_modulo
  | max | min => exact Arithmetic.blames_extremum _
  | cat => exact Strings.blames_cat
  | substr => exact Strings.blames_substr
  | membership => exact Arrays.blames_membership
  | map | filter | all | some | none => exact Arrays.blames_iteration _
  | reduce => exact Arrays.blames_reduce dialect
  | merge => exact Arrays.blames_merge

end RuleClause
