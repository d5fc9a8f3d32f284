import RuleClause.Plan.Operator

/-!
# Plans at another place

Where an operation stands shows in the errors of its plan and nowhere else.  The plan
of an operation at some place is the plan of the same operation at another place, with
the places of its errors put under another base.
-/

namespace RuleClause

namespace Path

/-- The place that a path leads to if it starts at a base in place of its root. -/
def join (base : Path) : Path → Path
  | .root _ => base
  | .member parent name => (base.join parent).member name
  | .item parent index => (base.join parent).item index

/-- The root of paths that lead on from a base. -/
def here : Path := .root ""

@[simp]
theorem join_here (base : Path) : base.join here = base :=
  rfl

@[simp]
theorem join_member (base path : Path) (name : String) :
    base.join (path.member name) = (base.join path).member name :=
  rfl

@[simp]
theorem join_item (base path : Path) (index : Nat) :
    base.join (path.item index) = (base.join path).item index :=
  rfl

@[simp]
theorem join_slot (base path : Path) (index : Option Nat) :
    base.join (path.slot index) = (base.join path).slot index := by
  cases index <;> rfl

/-- In its text, a path that leads on from a base starts with the text of the base. -/
theorem text_join (base path : Path) :
    (base.join path).text = base.text ++ (here.join path).text := by
  induction path with
  | root => simp [join, here, text]
  | member parent name inductionHypothesis => simp [text, inductionHypothesis, String.append_assoc]
  | item parent index inductionHypothesis => simp [text, inductionHypothesis, String.append_assoc]

end Path

/-- An error whose place is put under a base. -/
def Error.movedTo (base : Path) (error : Error) : Error :=
  { error with path := error.path.map base.join }

/-- An operation whose place is put under a base. -/
def Call.movedTo (base : Path) (call : Call) : Call :=
  { call with path := base.join call.path }

namespace Plan

variable {α β : Type}

/-- A plan the places of whose errors are put under a base. -/
def movedTo (base : Path) : Plan α → Plan α
  | .done value => .done value
  | .fail error => .fail (error.movedTo base)
  | .ask request next => .ask request fun expression => (next expression).movedTo base

variable (base : Path)

@[simp]
theorem movedTo_done (value : α) : (Plan.done value).movedTo base = .done value :=
  rfl

@[simp]
theorem movedTo_pure (value : α) : (pure value : Plan α).movedTo base = pure value :=
  rfl

@[simp]
theorem movedTo_fail (error : Error) :
    (Plan.fail error : Plan α).movedTo base = .fail (error.movedTo base) :=
  rfl

@[simp]
theorem movedTo_bind (plan : Plan α) (next : α → Plan β) :
    (plan >>= next).movedTo base =
      plan.movedTo base >>= fun value => (next value).movedTo base := by
  induction plan with
  | done value => rfl
  | fail error => rfl
  | ask request continuation inductionHypothesis =>
      exact congrArg (Plan.ask request) (funext inductionHypothesis)

/-- A sequence of two plans is put under a base if both plans are. -/
theorem bind_eq_movedTo
    {plan moved : Plan α}
    {next movedNext : α → Plan β}
    (first : moved = plan.movedTo base)
    (rest : ∀ value, movedNext value = (next value).movedTo base) :
    (moved >>= movedNext) = (plan >>= next).movedTo base := by
  rw [movedTo_bind, first, funext rest]

@[simp]
theorem movedTo_map (change : α → β) (plan : Plan α) :
    (change <$> plan).movedTo base = change <$> plan.movedTo base :=
  movedTo_bind base plan fun value => .done (change value)

@[simp]
theorem movedTo_request (request : Request) :
    (Plan.request request).movedTo base = Plan.request request :=
  rfl

@[simp]
theorem movedTo_requestEach (request : Nat → Request) (index count : Nat) :
    (requestEach request index count).movedTo base = requestEach request index count := by
  induction count generalizing index with
  | zero => rfl
  | succ count inductionHypothesis => simp [requestEach, inductionHypothesis]

theorem movedTo_ofExcept (result : Except Error α) :
    (ofExcept result).movedTo base = ofExcept (result.mapError (·.movedTo base)) := by
  cases result <;> rfl

end Plan

variable {α : Type} (base : Path) (setting : Setting) (call : Call)

namespace Call

@[simp]
theorem operator_movedTo : (call.movedTo base).operator = call.operator :=
  rfl

@[simp]
theorem arguments_movedTo : (call.movedTo base).arguments = call.arguments :=
  rfl

@[simp]
theorem operands_movedTo : (call.movedTo base).operands = call.operands :=
  rfl

@[simp]
theorem path_movedTo : (call.movedTo base).path = base.join call.path :=
  rfl

@[simp]
theorem operandPath_movedTo (index : Nat) :
    (call.movedTo base).operandPath index = base.join (call.operandPath index) := by
  unfold operandPath
  rw [arguments_movedTo]
  split <;> rfl

@[simp]
theorem itemPath_movedTo (index inner : Nat) :
    (call.movedTo base).itemPath index inner = base.join (call.itemPath index inner) := by
  simp [itemPath]

@[simp]
theorem errorAt_movedTo (path : Path) (fault : Fault) :
    (call.movedTo base).errorAt (base.join path) fault = (call.errorAt path fault).movedTo base :=
  rfl

@[simp]
theorem fail_movedTo (fault : Fault) :
    ((call.movedTo base).fail fault : Plan α) = (call.fail fault).movedTo base :=
  rfl

@[simp]
theorem failAt_movedTo (index : Nat) (fault : Fault) :
    ((call.movedTo base).failAt index fault : Plan α) = (call.failAt index fault).movedTo base := by
  simp [failAt]

@[simp]
theorem failCount_movedTo (least most : Nat) :
    ((call.movedTo base).failCount least most : Plan α) =
      (call.failCount least most).movedTo base := by
  unfold failCount
  rw [operands_movedTo]
  split <;> rfl

@[simp]
theorem listed_movedTo : (call.movedTo base).listed = call.listed.movedTo base := by
  unfold listed
  rw [arguments_movedTo]
  split <;> rfl

@[simp]
theorem atLeast_movedTo (required : Nat) :
    (call.movedTo base).atLeast required = (call.atLeast required).movedTo base := by
  unfold atLeast
  rw [operands_movedTo]
  split <;> rfl

@[simp]
theorem single_movedTo : (call.movedTo base).single = call.single.movedTo base := by
  unfold single
  rw [operands_movedTo]
  split
  · rfl
  · exact failCount_movedTo base call 1 1

@[simp]
theorem pair_movedTo : (call.movedTo base).pair = call.pair.movedTo base := by
  unfold pair
  rw [operands_movedTo]
  split
  · rfl
  · exact failCount_movedTo base call 2 2

@[simp]
theorem listedPair_movedTo : (call.movedTo base).listedPair = call.listedPair.movedTo base := by
  simp [listedPair]

@[simp]
theorem listedTriple_movedTo :
    (call.movedTo base).listedTriple = call.listedTriple.movedTo base := by
  refine Plan.bind_eq_movedTo base (listed_movedTo base call) fun items => ?_
  split
  · rfl
  · exact failCount_movedTo base call 3 3

@[simp]
theorem listedAtLeast_movedTo (required : Nat) :
    (call.movedTo base).listedAtLeast required = (call.listedAtLeast required).movedTo base := by
  simp [listedAtLeast]

end Call

namespace Setting

@[simp]
theorem movedTo_ask (index : Nat) (hint : Option FieldType) :
    (setting.ask index hint).movedTo base = setting.ask index hint :=
  rfl

@[simp]
theorem movedTo_askEach (hint : Option FieldType) (index count : Nat) :
    (setting.askEach hint index count).movedTo base = setting.askEach hint index count :=
  Plan.movedTo_requestEach base _ index count

@[simp]
theorem movedTo_askParts (index : Nat) (hint : Option FieldType) (inner count : Nat) :
    (setting.askParts index hint inner count).movedTo base =
      setting.askParts index hint inner count :=
  Plan.movedTo_requestEach base _ inner count

@[simp]
theorem gate_movedTo (usage : Usage) (index : Nat) (rule : Rule) :
    setting.gate (call.movedTo base) usage index rule =
      (setting.gate call usage index rule).movedTo base := by
  unfold gate
  split
  · rw [Plan.movedTo_ofExcept, Call.operandPath_movedTo, Call.operator_movedTo]
    cases Schema.checkType usage call.operator _ _ <;> rfl
  · rfl

@[simp]
theorem gateEach_movedTo (usage : Usage) (index : Nat) (rules : List Rule) :
    setting.gateEach (call.movedTo base) usage index rules =
      (setting.gateEach call usage index rules).movedTo base := by
  induction rules generalizing index with
  | nil => rfl
  | cons rule rest inductionHypothesis => simp [gateEach, inductionHypothesis]

@[simp]
theorem checkValue_movedTo (name : String) (path : Path) (value : Rule) :
    setting.checkValue (call.movedTo base) name (base.join path) value =
      (setting.checkValue call name path value).movedTo base := by
  unfold checkValue
  split
  · rw [Plan.movedTo_ofExcept, Call.operator_movedTo]
    cases Schema.checkValue _ name _ <;> rfl
  · rfl

@[simp]
theorem checkAgainst_movedTo (field : Option (String × FieldType)) (path : Path) (value : Rule) :
    setting.checkAgainst (call.movedTo base) field (base.join path) value =
      (setting.checkAgainst call field path value).movedTo base := by
  unfold checkAgainst
  split
  · exact checkValue_movedTo base setting call _ path value
  · rfl

@[simp]
theorem require_movedTo (name : String) (path : Path) :
    setting.require name (base.join path) = (setting.require name path).movedTo base := by
  unfold require
  split
  · rw [Plan.movedTo_ofExcept]
    cases Schema.require _ name <;> rfl
  · rfl

end Setting

/-! ## Variables and missing fields -/

namespace Reference

@[simp]
theorem named_movedTo (path : Path) (name : String) :
    named setting (call.movedTo base) (base.join path) name =
      (named setting call path name).movedTo base := by
  unfold named
  split
  · simp
  · split <;> rfl

@[simp]
theorem reference_movedTo (rule : Rule) :
    reference setting (call.movedTo base) rule = (reference setting call rule).movedTo base := by
  cases rule with
  | string name =>
      simp only [reference, textual]
      split
      · rfl
      · exact named_movedTo base setting call call.path name
  | number value =>
      simp only [reference, positional]
      split
      · rfl
      · split <;> rfl
  | null | bool | list | operation => exact Call.failAt_movedTo base call 0 _

@[simp]
theorem checkDefault_movedTo (name default : Rule) :
    checkDefault setting (call.movedTo base) name default =
      (checkDefault setting call name default).movedTo base := by
  unfold checkDefault
  split
  · simp
  · rfl

@[simp]
theorem withDefault_movedTo (name default : Rule) :
    withDefault setting (call.movedTo base) name default =
      (withDefault setting call name default).movedTo base := by
  refine Plan.bind_eq_movedTo base (reference_movedTo base setting call name) fun reference => ?_
  split <;> simp

theorem var_movedTo : var setting (call.movedTo base) = (var setting call).movedTo base := by
  unfold var
  rw [Call.operands_movedTo]
  split <;> simp

@[simp]
theorem fields_movedTo (place : Nat → Path) (index : Nat) (names : List Rule) :
    fields setting (call.movedTo base) (fun number => base.join (place number)) index names =
      (fields setting call place index names).movedTo base := by
  induction names generalizing index with
  | nil => rfl
  | cons rule rest inductionHypothesis =>
      cases rule with
      | string name => simp [fields, inductionHypothesis]
      | null | bool | number | list | operation => rfl

theorem missingFields_movedTo :
    missingFields setting (call.movedTo base) = (missingFields setting call).movedTo base := by
  have operandPlaces : (call.movedTo base).operandPath =
      fun index => base.join (call.operandPath index) :=
    funext (call.operandPath_movedTo base)
  have itemPlaces : (call.movedTo base).itemPath 0 =
      fun inner => base.join (call.itemPath 0 inner) :=
    funext (call.itemPath_movedTo base 0)
  unfold missingFields
  rw [Call.operands_movedTo, operandPlaces, itemPlaces]
  split <;> simp

theorem missing_movedTo :
    missing setting (call.movedTo base) = (missing setting call).movedTo base := by
  refine Plan.bind_eq_movedTo base (missingFields_movedTo base setting call) fun references => ?_
  split <;> rfl

theorem minimum_movedTo (rule : Rule) :
    minimum (call.movedTo base) rule = (minimum call rule).movedTo base := by
  unfold minimum
  split
  · split <;> rfl
  · exact Call.failAt_movedTo base call 0 _

theorem missingSome_movedTo :
    missingSome setting (call.movedTo base) = (missingSome setting call).movedTo base := by
  have places : (call.movedTo base).itemPath 1 = fun inner => base.join (call.itemPath 1 inner) :=
    funext (call.itemPath_movedTo base 1)
  refine Plan.bind_eq_movedTo base (call.listedPair_movedTo base) fun operands => ?_
  refine Plan.bind_eq_movedTo base (minimum_movedTo base call operands.1) fun least => ?_
  rw [places]
  split <;> simp

end Reference

/-! ## Equality, truth, connectives and comparisons -/

namespace Logic

theorem equality_movedTo (operator : BinaryOp) (nullTest : Test) :
    equality setting (call.movedTo base) operator nullTest =
      (equality setting call operator nullTest).movedTo base := by
  refine Plan.bind_eq_movedTo base (call.pair_movedTo base) fun operands => ?_
  refine Plan.bind_eq_movedTo base (Setting.gateEach_movedTo base setting call _ _ _) fun _ => ?_
  split
  · simp
  · simp
  · simp [equalityOf]

theorem negation_movedTo :
    negation setting (call.movedTo base) = (negation setting call).movedTo base := by
  simp [negation]

theorem truthy_movedTo :
    truthy setting (call.movedTo base) = (truthy setting call).movedTo base := by
  unfold truthy
  rw [Call.arguments_movedTo]
  split
  · rfl
  · refine Plan.bind_eq_movedTo base (call.single_movedTo base) fun operand => ?_
    split
    · rfl
    · simp

theorem connective_movedTo (operator : BinaryOp) :
    connective setting (call.movedTo base) operator =
      (connective setting call operator).movedTo base := by
  simp [connective]

@[simp]
theorem movedTo_branches (index count : Nat) :
    (branches setting index count).movedTo base = branches setting index count := by
  fun_induction branches setting index count with
  | case1 index => rfl
  | case2 index => rfl
  | case3 index count inductionHypothesis => simp [inductionHypothesis]

theorem conditional_movedTo :
    conditional setting (call.movedTo base) = (conditional setting call).movedTo base := by
  simp [conditional]

theorem ternary_movedTo :
    ternary setting (call.movedTo base) = (ternary setting call).movedTo base := by
  simp [ternary, conditional_movedTo]

theorem comparison_movedTo (operator : BinaryOp) :
    comparison setting (call.movedTo base) operator =
      (comparison setting call operator).movedTo base := by
  simp [comparison]

end Logic

/-! ## Arithmetic -/

namespace Arithmetic

@[simp]
theorem terms_movedTo : terms setting (call.movedTo base) = (terms setting call).movedTo base := by
  simp [terms]

theorem chain_movedTo (operator : BinaryOp) :
    chain setting (call.movedTo base) operator = (chain setting call operator).movedTo base := by
  simp [chain]

theorem plus_movedTo (operand : Rule) :
    plus setting (call.movedTo base) operand = (plus setting call operand).movedTo base := by
  refine Plan.bind_eq_movedTo base (Setting.gate_movedTo base setting call _ _ _) fun _ => ?_
  split
  · rfl
  · rfl
  · refine Plan.bind_eq_movedTo base (Setting.movedTo_ask base setting 0 none).symm fun _ => ?_
    split <;> rfl

theorem minus_movedTo (operand : Rule) :
    minus setting (call.movedTo base) operand = (minus setting call operand).movedTo base := by
  simp [minus]

theorem add_movedTo : add setting (call.movedTo base) = (add setting call).movedTo base := by
  refine Plan.bind_eq_movedTo base (call.atLeast_movedTo base 1) fun operands => ?_
  split
  · exact plus_movedTo base setting call _
  · exact chain_movedTo base setting call .add

theorem subtract_movedTo :
    subtract setting (call.movedTo base) = (subtract setting call).movedTo base := by
  refine Plan.bind_eq_movedTo base (call.atLeast_movedTo base 1) fun operands => ?_
  split
  · exact minus_movedTo base setting call _
  · exact chain_movedTo base setting call .subtract

theorem modulo_movedTo :
    modulo setting (call.movedTo base) = (modulo setting call).movedTo base := by
  simp [modulo]

theorem extremum_movedTo (function : Function) :
    extremum setting (call.movedTo base) function =
      (extremum setting call function).movedTo base := by
  simp [extremum]

end Arithmetic

/-! ## Texts -/

namespace Strings

theorem cat_movedTo : cat setting (call.movedTo base) = (cat setting call).movedTo base := by
  simp [cat]

@[simp]
theorem inRange_movedTo (value : Int) :
    inRange (call.movedTo base) value = (inRange call value).movedTo base := by
  unfold inRange
  split <;> rfl

@[simp]
theorem movedTo_offset (index : Nat) (operand : Rule) :
    (offset setting index operand).movedTo base = offset setting index operand := by
  unfold offset
  split
  · rfl
  · simp

@[simp]
theorem start_movedTo (length : Sql) (offset : Offset) :
    start (call.movedTo base) length offset = (start call length offset).movedTo base := by
  unfold start
  split
  · split <;> simp
  · rfl

@[simp]
theorem lengthWithout_movedTo (length : Sql) (dropped : Int) (offset : Offset) :
    lengthWithout (call.movedTo base) length dropped offset =
      (lengthWithout call length dropped offset).movedTo base := by
  unfold lengthWithout
  split
  · split <;> simp
  · rfl

@[simp]
theorem partLength_movedTo (length : Sql) (offset : Offset) (operand : Rule) :
    partLength setting (call.movedTo base) length offset operand =
      (partLength setting call length offset operand).movedTo base := by
  unfold partLength
  split
  · split <;> simp
  · simp

theorem substr_movedTo :
    substr setting (call.movedTo base) = (substr setting call).movedTo base := by
  refine Plan.bind_eq_movedTo base (call.listed_movedTo base) fun items => ?_
  split <;> simp

end Strings

/-! ## Arrays -/

namespace Arrays

@[simp]
theorem checkItems_movedTo
    (field : Option (String × FieldType))
    (inner : Nat)
    (items : List Rule) :
    checkItems setting (call.movedTo base) field inner items =
      (checkItems setting call field inner items).movedTo base := by
  induction items generalizing inner with
  | nil => rfl
  | cons item rest inductionHypothesis => simp [checkItems, inductionHypothesis]

theorem membershipIn_movedTo (needle : Rule) (items : List Rule) :
    membershipIn setting (call.movedTo base) needle items =
      (membershipIn setting call needle items).movedTo base := by
  unfold membershipIn
  split <;> simp

@[simp]
theorem haystack_movedTo (operand : Rule) :
    haystack setting (call.movedTo base) operand =
      (haystack setting call operand).movedTo base := by
  unfold haystack
  split <;> simp

theorem membership_movedTo :
    membership setting (call.movedTo base) = (membership setting call).movedTo base := by
  refine Plan.bind_eq_movedTo base (call.listedPair_movedTo base) fun operands => ?_
  dsimp only
  split
  · exact membershipIn_movedTo base setting call _ _
  · refine Plan.bind_eq_movedTo base (haystack_movedTo base setting call _) fun haystack => ?_
    cases haystack <;> simp

@[simp]
theorem source_movedTo (operand : Rule) :
    source setting (call.movedTo base) operand = (source setting call operand).movedTo base := by
  simp [source]

theorem iteration_movedTo (build : Sql → Sql → Sql) :
    iteration setting (call.movedTo base) build = (iteration setting call build).movedTo base := by
  simp [iteration, body]

theorem reduce_movedTo (dialect : Dialect) :
    reduce dialect setting (call.movedTo base) = (reduce dialect setting call).movedTo base := by
  refine Plan.bind_eq_movedTo base (call.listedTriple_movedTo base) fun operands => ?_
  refine Plan.bind_eq_movedTo base (source_movedTo base setting call _) fun array => ?_
  refine Plan.bind_eq_movedTo base (Setting.movedTo_ask base setting 2 none).symm fun initial => ?_
  split
  · simp [body]
  · split
    · rfl
    · simp

@[simp]
theorem movedTo_mergedItems (index : Nat) (operands : List Rule) :
    (mergedItems setting index operands).movedTo base = mergedItems setting index operands := by
  induction operands generalizing index with
  | nil => rfl
  | cons operand rest inductionHypothesis =>
      cases operand <;> simp [mergedItems, inductionHypothesis]

@[simp]
theorem mergedArrays_movedTo (index : Nat) (operands : List Rule) :
    mergedArrays setting (call.movedTo base) index operands =
      (mergedArrays setting call index operands).movedTo base := by
  induction operands generalizing index with
  | nil => rfl
  | cons operand rest inductionHypothesis => simp [mergedArrays, inductionHypothesis]

theorem merge_movedTo : merge setting (call.movedTo base) = (merge setting call).movedTo base := by
  unfold merge
  rw [Call.operands_movedTo]
  split <;> simp

end Arrays

/-- The plan of an operation under a base is the plan of the operation, put under the base. -/
theorem Operator.plan_movedTo (dialect : Dialect) (operator : Operator) :
    operator.plan dialect setting (call.movedTo base) =
      (operator.plan dialect setting call).movedTo base := by
  cases operator with
  | var => exact Reference.var_movedTo base setting call
  | missing => exact Reference.missing_movedTo base setting call
  | missingSome => exact Reference.missingSome_movedTo base setting call
  | equal | strictEqual | notEqual | strictNotEqual =>
      exact Logic.equality_movedTo base setting call _ _
  | not => exact Logic.negation_movedTo base setting call
  | truthy => exact Logic.truthy_movedTo base setting call
  | and | or => exact Logic.connective_movedTo base setting call _
  | conditional => exact Logic.conditional_movedTo base setting call
  | ternary => exact Logic.ternary_movedTo base setting call
  | greater | greaterEqual | less | lessEqual => exact Logic.comparison_movedTo base setting call _
  | add => exact Arithmetic.add_movedTo base setting call
  | subtract => exact Arithmetic.subtract_movedTo base setting call
  | multiply | divide => exact Arithmetic.chain_movedTo base setting call _
  | modulo => exact Arithmetic.modulo_movedTo base setting call
  | max | min => exact Arithmetic.extremum_movedTo base setting call _
  | cat => exact Strings.cat_movedTo base setting call
  | substr => exact Strings.substr_movedTo base setting call
  | membership => exact Arrays.membership_movedTo base setting call
  | map | filter | all | some | none => exact Arrays.iteration_movedTo base setting call _
  | reduce => exact Arrays.reduce_movedTo base setting call dialect
  | merge => exact Arrays.merge_movedTo base setting call

end RuleClause
