import RuleClause.Plan.Operator

/-!
# Plans inside of an iteration

Names inside of an iteration refer to the element or to the running value, never to a
declared field.  So the schema has no say there: no operand is refused for its type,
no literal is written for a field, and no value is looked up among those of an enum.
Every operator then has the plan that it has without a schema.
-/

namespace RuleClause

/-- The same setting without a schema. -/
abbrev Setting.schemaless (setting : Setting) : Setting :=
  ⟨none, setting.scope⟩

variable {setting : Setting} {call : Call}

namespace Setting

@[simp]
theorem ask_schemaless : setting.schemaless.ask = setting.ask :=
  rfl

@[simp]
theorem askEach_schemaless : setting.schemaless.askEach = setting.askEach :=
  rfl

@[simp]
theorem askParts_schemaless : setting.schemaless.askParts = setting.askParts :=
  rfl

@[simp]
theorem checkAgainst_none (path : Path) (value : Rule) :
    setting.checkAgainst call none path value = .done () :=
  rfl

variable (inside : setting.scope ≠ .row)

include inside

@[simp]
theorem field?_inside (rule : Rule) : setting.field? rule = none := by
  unfold field?
  split
  · contradiction
  · rfl

@[simp]
theorem type?_inside (rule : Rule) : setting.type? rule = none := by
  rw [type?, field?_inside inside, Option.map_none]

@[simp]
theorem gate_inside (usage : Usage) (index : Nat) (rule : Rule) :
    setting.gate call usage index rule = .done () := by
  rw [gate, field?_inside inside]

@[simp]
theorem gateEach_inside (usage : Usage) (index : Nat) (rules : List Rule) :
    setting.gateEach call usage index rules = .done () := by
  induction rules generalizing index with
  | nil => rfl
  | cons rule rest inductionHypothesis =>
      rw [gateEach, gate_inside inside, inductionHypothesis]
      rfl

end Setting

/-! ## Variables and missing fields -/

namespace Reference

theorem named_inside (inside : setting.scope ≠ .row) (path : Path) (name : String) :
    named setting.schemaless call path name = named setting call path name := by
  unfold named
  cases scope : setting.scope with
  | row => contradiction
  | element | reduction => simp

theorem reference_inside (inside : setting.scope ≠ .row) (rule : Rule) :
    reference setting.schemaless call rule = reference setting call rule := by
  cases rule with
  | string name => simp [reference, textual, named_inside inside]
  | number | null | bool | list | operation => rfl

theorem defaultType?_inside (inside : setting.scope ≠ .row) (name : Rule) :
    defaultType? setting name = none := by
  cases name with
  | string name => simp [defaultType?, inside]
  | number | null | bool | list | operation => rfl

theorem checkDefault_inside (inside : setting.scope ≠ .row) (name default : Rule) :
    checkDefault setting call name default = .done () := by
  simp [checkDefault, defaultType?_inside inside]

theorem var_inside (inside : setting.scope ≠ .row) :
    var setting.schemaless call = var setting call := by
  simp [var, withDefault, reference_inside, defaultType?_inside, checkDefault_inside, inside]

theorem fields_inside
    (inside : setting.scope ≠ .row)
    (place : Nat → Path)
    (index : Nat)
    (names : List Rule) :
    fields setting.schemaless call place index names = fields setting call place index names := by
  induction names generalizing index with
  | nil => rfl
  | cons name rest inductionHypothesis =>
      cases name with
      | string name => simp only [fields, named_inside inside, inductionHypothesis]
      | number | null | bool | list | operation => rfl

theorem missing_inside (inside : setting.scope ≠ .row) :
    missing setting.schemaless call = missing setting call := by
  simp [missing, missingFields, fields_inside inside]

theorem missingSome_inside (inside : setting.scope ≠ .row) :
    missingSome setting.schemaless call = missingSome setting call := by
  simp [missingSome, fields_inside inside]

end Reference

/-! ## Logic -/

namespace Logic

theorem equality_inside
    (inside : setting.scope ≠ .row)
    (operator : BinaryOp)
    (nullTest : Test) :
    equality setting.schemaless call operator nullTest =
      equality setting call operator nullTest := by
  simp [equality, equalityOf, inside]

theorem truthy_inside (inside : setting.scope ≠ .row) :
    truthy setting.schemaless call = truthy setting call := by
  simp [truthy, inside]

theorem branches_schemaless (index count : Nat) :
    branches setting.schemaless index count = branches setting index count := by
  fun_induction branches setting index count with
  | case1 | case2 => rfl
  | case3 index count inductionHypothesis => simp [branches, inductionHypothesis]

theorem conditional_schemaless :
    conditional setting.schemaless call = conditional setting call := by
  simp [conditional, branches_schemaless]

theorem firstType?_inside (inside : setting.scope ≠ .row) (operands : List Rule) :
    firstType? setting operands = none := by
  simp [firstType?, inside]

theorem comparison_inside (inside : setting.scope ≠ .row) (operator : BinaryOp) :
    comparison setting.schemaless call operator = comparison setting call operator := by
  simp [comparison, firstType?_inside, inside]

end Logic

/-! ## Arithmetic and texts -/

namespace Arithmetic

theorem terms_inside (inside : setting.scope ≠ .row) :
    terms setting.schemaless call = terms setting call := by
  simp [terms, inside]

theorem add_inside (inside : setting.scope ≠ .row) :
    add setting.schemaless call = add setting call := by
  simp [add, plus, chain, terms_inside, inside]

theorem subtract_inside (inside : setting.scope ≠ .row) :
    subtract setting.schemaless call = subtract setting call := by
  simp [subtract, minus, chain, terms_inside, inside]

end Arithmetic

namespace Strings

theorem cat_inside (inside : setting.scope ≠ .row) :
    cat setting.schemaless call = cat setting call := by
  simp [cat, inside]

theorem substr_inside (inside : setting.scope ≠ .row) :
    substr setting.schemaless call = substr setting call := by
  simp [substr, offset, partLength, inside]

end Strings

/-! ## Arrays -/

namespace Arrays

theorem checkItems_none (inner : Nat) (items : List Rule) :
    checkItems setting call none inner items = .done () := by
  induction items generalizing inner with
  | nil => rfl
  | cons item rest inductionHypothesis =>
      rw [checkItems, inductionHypothesis]
      rfl

theorem membership_inside (inside : setting.scope ≠ .row) :
    membership setting.schemaless call = membership setting call := by
  simp [membership, membershipIn, haystack, checkItems_none, inside]

theorem source_inside (inside : setting.scope ≠ .row) (operand : Rule) :
    source setting.schemaless call operand = source setting call operand := by
  simp [source, inside]

theorem mergedItems_schemaless (index : Nat) (operands : List Rule) :
    mergedItems setting.schemaless index operands = mergedItems setting index operands := by
  induction operands generalizing index with
  | nil => rfl
  | cons operand rest inductionHypothesis =>
      cases operand <;> simp [mergedItems, inductionHypothesis]

theorem mergedArrays_inside
    (inside : setting.scope ≠ .row)
    (index : Nat)
    (operands : List Rule) :
    mergedArrays setting.schemaless call index operands =
      mergedArrays setting call index operands := by
  induction operands generalizing index with
  | nil => rfl
  | cons operand rest inductionHypothesis => simp [mergedArrays, inside, inductionHypothesis]

theorem merge_inside (inside : setting.scope ≠ .row) :
    merge setting.schemaless call = merge setting call := by
  simp [merge, mergedItems_schemaless, mergedArrays_inside inside]

end Arrays

namespace Operator

/-- Inside of an iteration, an operator has the plan that it has without a schema. -/
theorem plan_inside
    (inside : setting.scope ≠ .row)
    (dialect : Dialect)
    (operator : Operator) :
    operator.plan dialect setting.schemaless call = operator.plan dialect setting call := by
  cases operator with
  | var => exact Reference.var_inside inside
  | missing => exact Reference.missing_inside inside
  | missingSome => exact Reference.missingSome_inside inside
  | equal | strictEqual | notEqual | strictNotEqual => exact Logic.equality_inside inside _ _
  | not | and | or => rfl
  | truthy => exact Logic.truthy_inside inside
  | conditional => exact Logic.conditional_schemaless
  | ternary => simp [plan, Logic.ternary, Logic.conditional_schemaless]
  | greater | greaterEqual | less | lessEqual => exact Logic.comparison_inside inside _
  | add => exact Arithmetic.add_inside inside
  | subtract => exact Arithmetic.subtract_inside inside
  | multiply | divide => simp [plan, Arithmetic.chain, Arithmetic.terms_inside inside]
  | modulo => simp [plan, Arithmetic.modulo, Arithmetic.terms_inside inside]
  | max | min => simp [plan, Arithmetic.extremum, Arithmetic.terms_inside inside]
  | cat => exact Strings.cat_inside inside
  | substr => exact Strings.substr_inside inside
  | membership => exact Arrays.membership_inside inside
  | map | filter | all | some | none => simp [plan, Arrays.iteration, Arrays.source_inside inside]
  | reduce => simp [plan, Arrays.reduce, Arrays.source_inside inside]
  | merge => exact Arrays.merge_inside inside

/-- Two schemas give an operator the same plan if they are the same for rows. -/
theorem plan_eq_of_row
    {scope : Scope}
    {first second : Option Schema}
    (same : scope = .row → first = second)
    (dialect : Dialect)
    (operator : Operator) :
    operator.plan dialect ⟨first, scope⟩ call = operator.plan dialect ⟨second, scope⟩ call := by
  by_cases row : scope = .row
  · rw [same row]
  · -- inside of an iteration both are the plan without a schema
    have free (schema : Option Schema) :
        operator.plan dialect ⟨Option.none, scope⟩ call =
          operator.plan dialect ⟨schema, scope⟩ call :=
      @plan_inside ⟨schema, scope⟩ call row dialect operator
    exact (free first).symm.trans (free second)

end Operator
end RuleClause
