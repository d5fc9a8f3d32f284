import RuleClause.Plan.Call
import Mathlib.Data.List.Forall2

/-!
# Plans that end with a value

A plan that is run to its end has passed every check on its way, and every request
that it made was answered.  The lemmas of this module read that off the steps that
the plans of all operators share: requests, counts of arguments, and checks of
fields against the schema.
-/

namespace List

variable {α β : Type} {relation : α → β → Prop} {left : List α} {right : List β}

theorem Forall₂.exists_of_mem_left
    (related : Forall₂ relation left right)
    {first : α}
    (member : first ∈ left) :
    ∃ second ∈ right, relation first second := by
  induction related with
  | nil => simp at member
  | cons head tail inductionHypothesis =>
      rcases mem_cons.mp member with rfl | later
      · exact ⟨_, mem_cons_self, head⟩
      · obtain ⟨second, found, holds⟩ := inductionHypothesis later
        exact ⟨second, mem_cons_of_mem _ found, holds⟩

theorem Forall₂.exists_of_mem_right
    (related : Forall₂ relation left right)
    {second : β}
    (member : second ∈ right) :
    ∃ first ∈ left, relation first second :=
  related.flip.exists_of_mem_left member

end List

namespace RuleClause
namespace Plan

variable {α β : Type} {answer : Request → Except Error Sql}

@[simp]
theorem run_done (value : α) : (Plan.done value).run answer = .ok value :=
  rfl

@[simp]
theorem run_pure (value : α) : (pure value : Plan α).run answer = .ok value :=
  rfl

@[simp]
theorem run_fail (error : Error) : (Plan.fail error : Plan α).run answer = .error error :=
  rfl

/-- A sequence of two plans ends with a value when both do. -/
@[simp]
theorem run_bind_eq_ok_iff (plan : Plan α) (next : α → Plan β) (value : β) :
    (plan >>= next).run answer = .ok value ↔
      ∃ middle, plan.run answer = .ok middle ∧ (next middle).run answer = .ok value := by
  change (plan.bind next).run answer = .ok value ↔ _
  rw [run_bind]
  cases plan.run answer with
  | ok middle => simp [Except.bind]
  | error error => simp [Except.bind]

/-- After a plan that ends with a value, a sequence runs on from it, however it ends. -/
theorem run_bind_of_run_eq_ok
    {plan : Plan α}
    {value : α}
    (ended : plan.run answer = .ok value)
    (next : α → Plan β) :
    (plan >>= next).run answer = (next value).run answer := by
  change (plan.bind next).run answer = _
  rw [run_bind, ended]
  rfl

@[simp]
theorem run_request (request : Request) :
    (Plan.request request).run answer = answer request := by
  change (answer request >>= fun expression => pure expression) = answer request
  simp

@[simp]
theorem run_ofExcept (result : Except Error α) :
    (Plan.ofExcept result).run answer = result := by
  cases result <;> rfl

end Plan

/-- The expressions are the answers to numbered requests, counted from zero. -/
def Answered
    (answer : Request → Except Error Sql)
    (request : Nat → Request)
    (expressions : List Sql) : Prop :=
  ∀ index expression, expressions[index]? = some expression →
    answer (request index) = .ok expression

namespace Answered

variable {answer : Request → Except Error Sql} {request : Nat → Request}

@[simp]
theorem nil : Answered answer request [] := by
  simp [Answered]

@[simp]
theorem cons_iff (first : Sql) (rest : List Sql) :
    Answered answer request (first :: rest) ↔
      answer (request 0) = .ok first ∧ Answered answer (fun index => request (index + 1)) rest := by
  constructor
  · intro answered
    exact ⟨answered 0 first rfl, fun index expression found => answered (index + 1) expression found⟩
  · rintro ⟨head, tail⟩ index expression found
    cases index with
    | zero =>
        obtain rfl : first = expression := by simpa using found
        exact head
    | succ index => exact tail index expression (by simpa using found)

/-- Each of the expressions answers a request. -/
theorem of_mem
    {expressions : List Sql}
    {expression : Sql}
    (answered : Answered answer request expressions)
    (member : expression ∈ expressions) :
    ∃ index, answer (request index) = .ok expression := by
  obtain ⟨index, found⟩ := List.mem_iff_getElem?.mp member
  exact ⟨index, answered index expression found⟩

/-- Each request up to the number of expressions has an answer. -/
theorem of_lt
    {expressions : List Sql}
    {index : Nat}
    (answered : Answered answer request expressions)
    (bound : index < expressions.length) :
    ∃ expression, answer (request index) = .ok expression :=
  ⟨expressions[index], answered index _ (List.getElem?_eq_getElem bound)⟩

end Answered

theorem Plan.run_requestEach_eq_ok_iff
    {answer : Request → Except Error Sql}
    (request : Nat → Request)
    (index count : Nat)
    (expressions : List Sql) :
    (Plan.requestEach request index count).run answer = .ok expressions ↔
      expressions.length = count ∧
        Answered answer (fun offset => request (index + offset)) expressions := by
  induction count generalizing index expressions with
  | zero =>
      constructor
      · intro ended
        obtain rfl : [] = expressions := by simpa [requestEach] using ended
        simp
      · rintro ⟨empty, _⟩
        obtain rfl : expressions = [] := List.length_eq_zero_iff.mp empty
        rfl
  | succ count inductionHypothesis =>
      simp only [requestEach, run_bind_eq_ok_iff, run_request, inductionHypothesis, run_pure]
      constructor
      · rintro ⟨first, asked, rest, ⟨length, answered⟩, ended⟩
        obtain rfl : first :: rest = expressions := by simpa using ended
        refine ⟨by simp [length], (Answered.cons_iff first rest).mpr ⟨asked, ?_⟩⟩
        simpa only [Nat.add_assoc, Nat.add_comm 1] using answered
      · rintro ⟨length, answered⟩
        cases expressions with
        | nil => simp at length
        | cons first rest =>
            obtain ⟨asked, others⟩ := (Answered.cons_iff first rest).mp answered
            refine ⟨first, asked, rest, ⟨by simpa using length, ?_⟩, rfl⟩
            simpa only [Nat.add_assoc, Nat.add_comm 1] using others

namespace Setting

variable {answer : Request → Except Error Sql}

@[simp]
theorem run_ask (setting : Setting) (index : Nat) (hint : Option FieldType) :
    (setting.ask index hint).run answer = answer (setting.operandRequest hint index) :=
  Plan.run_request _

/-- Operands are asked for from the first on. -/
@[simp]
theorem run_askEach_eq_ok_iff
    (setting : Setting)
    (hint : Option FieldType)
    (count : Nat)
    (terms : List Sql) :
    (setting.askEach hint 0 count).run answer = .ok terms ↔
      terms.length = count ∧ Answered answer (setting.operandRequest hint) terms := by
  simpa [askEach] using
    Plan.run_requestEach_eq_ok_iff (setting.operandRequest hint) 0 count terms

/-- Parts of an operand are asked for from the first on. -/
@[simp]
theorem run_askParts_eq_ok_iff
    (setting : Setting)
    (hint : Option FieldType)
    (index count : Nat)
    (terms : List Sql) :
    (setting.askParts index hint 0 count).run answer = .ok terms ↔
      terms.length = count ∧ Answered answer (setting.partRequest index hint) terms := by
  simpa [askParts] using
    Plan.run_requestEach_eq_ok_iff (setting.partRequest index hint) 0 count terms

/-- A rule reads no declared field, or one that may be used in the given way. -/
def Admits (setting : Setting) (usage : Usage) (rule : Rule) : Prop :=
  ∀ name type, setting.field? rule = some (name, type) → usage.accepts type = true

/-- The schema, if there is one, knows the name. -/
def Knows (setting : Setting) (name : String) : Prop :=
  ∀ schema, setting.schema = some schema → schema.knows name = true

/-- A literal that meets an enum field is among the values of the field. -/
def Allows
    (setting : Setting)
    (field : Option (String × FieldType))
    (value : Rule) : Prop :=
  ∀ name schema text, field = some (name, .enum) → setting.schema = some schema →
    value.literalText? = some text → schema.checkValue name text = .ok ()

@[simp]
theorem run_gate_eq_ok_iff
    (setting : Setting)
    (call : Call)
    (usage : Usage)
    (index : Nat)
    (rule : Rule)
    (value : Unit) :
    (setting.gate call usage index rule).run answer = .ok value ↔ setting.Admits usage rule := by
  cases read : setting.field? rule with
  | none => simp [gate, Admits, read]
  | some field =>
      obtain ⟨name, type⟩ := field
      by_cases accepted : usage.accepts type = true
      · simp [gate, Admits, read, Schema.checkType, accepted, Except.mapError]
      · simp [gate, Admits, read, Schema.checkType, accepted, Except.mapError]

@[simp]
theorem run_gateEach_eq_ok_iff
    (setting : Setting)
    (call : Call)
    (usage : Usage)
    (index : Nat)
    (rules : List Rule)
    (value : Unit) :
    (setting.gateEach call usage index rules).run answer = .ok value ↔
      ∀ rule ∈ rules, setting.Admits usage rule := by
  induction rules generalizing index with
  | nil => simp [gateEach]
  | cons rule rest inductionHypothesis => simp [gateEach, inductionHypothesis]

@[simp]
theorem run_require_eq_ok_iff
    (setting : Setting)
    (name : String)
    (path : Path)
    (value : Unit) :
    (setting.require name path).run answer = .ok value ↔ setting.Knows name := by
  cases declared : setting.schema with
  | none => simp [require, Knows, declared]
  | some schema =>
      by_cases known : schema.knows name = true
      · simp [require, Knows, declared, Schema.require, known, Except.mapError]
      · simp [require, Knows, declared, Schema.require, known, Except.mapError]

/-- A value is checked against the enum field with a name. -/
theorem run_checkValue_eq_ok_iff
    (setting : Setting)
    (call : Call)
    (name : String)
    (path : Path)
    (value : Rule)
    (ended : Unit) :
    (setting.checkValue call name path value).run answer = .ok ended ↔
      setting.Allows (some (name, .enum)) value := by
  cases declared : setting.schema with
  | none => simp [checkValue, Allows, declared]
  | some schema =>
      cases written : value.literalText? with
      | none => simp [checkValue, Allows, declared, written]
      | some text =>
          cases checked : schema.checkValue name text with
          | ok => simp [checkValue, Allows, declared, written, checked, Except.mapError]
          | error error =>
              simp [checkValue, Allows, declared, written, checked, Except.mapError]

@[simp]
theorem run_checkAgainst_eq_ok_iff
    (setting : Setting)
    (call : Call)
    (field : Option (String × FieldType))
    (path : Path)
    (value : Rule)
    (ended : Unit) :
    (setting.checkAgainst call field path value).run answer = .ok ended ↔
      setting.Allows field value := by
  match field with
  | none => simp [checkAgainst, Allows]
  | some (name, .enum) => exact setting.run_checkValue_eq_ok_iff call name path value ended
  | some (name, .string) | some (name, .integer) | some (name, .number)
  | some (name, .boolean) | some (name, .array) | some (name, .object) =>
      simp [checkAgainst, Allows]

end Setting

namespace Call

variable {α : Type} {answer : Request → Except Error Sql}

@[simp]
theorem run_fail (call : Call) (fault : Fault) :
    (call.fail fault : Plan α).run answer = .error (call.error fault) :=
  rfl

@[simp]
theorem run_failAt (call : Call) (index : Nat) (fault : Fault) :
    (call.failAt index fault : Plan α).run answer =
      .error (call.errorAt (call.operandPath index) fault) :=
  rfl

@[simp]
theorem run_failFew_ne_ok (call : Call) (required : Nat) (value : α) :
    (call.failFew required).run answer ≠ .ok value := by
  simp [failFew]

@[simp]
theorem run_failCount_ne_ok (call : Call) (least most : Nat) (value : α) :
    (call.failCount least most).run answer ≠ .ok value := by
  unfold failCount
  split <;> simp

@[simp]
theorem run_listed_eq_ok_iff (call : Call) (items : List Rule) :
    call.listed.run answer = .ok items ↔ call.arguments = .list items := by
  unfold listed
  split <;> simp_all

@[simp]
theorem run_atLeast_eq_ok_iff (call : Call) (required : Nat) (operands : List Rule) :
    (call.atLeast required).run answer = .ok operands ↔
      required ≤ call.operands.length ∧ call.operands = operands := by
  by_cases few : call.operands.length < required
  · simp only [atLeast, few, if_true, run_failFew_ne_ok, false_iff, not_and]
    omega
  · simp [atLeast, few, Nat.not_lt.mp few]

@[simp]
theorem run_single_eq_ok_iff (call : Call) (operand : Rule) :
    call.single.run answer = .ok operand ↔ call.operands = [operand] := by
  unfold single
  split <;> simp_all

@[simp]
theorem run_pair_eq_ok_iff (call : Call) (operands : Rule × Rule) :
    call.pair.run answer = .ok operands ↔ call.operands = [operands.1, operands.2] := by
  obtain ⟨first, second⟩ := operands
  unfold pair
  split <;> simp_all

end Call
end RuleClause
