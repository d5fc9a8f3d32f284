import RuleClause.Proofs.Compile.WithoutSchema
import RuleClause.Proofs.Fragment.Operators

/-!
# Compiling terms

Without a schema, each operation with a number for its value compiles as soon as its
operands do, and its expression denotes the value of the operation when theirs denote
their values.  Terms are written so that they can stand next to any operator but a
minus sign, formulas so that they can stand next to a connective.
-/

namespace RuleClause
namespace Fragment

open Reading

/-- The value of a term, for any database and row. -/
def Term.meaning (term : Term) : Meaning :=
  fun interpretation row => .ofNumber (term.value interpretation row)

/-- The truth of a formula, for any database and row. -/
def Formula.meaning (formula : Formula) : Meaning :=
  fun interpretation row => .ofTruth (formula.truth interpretation row)

/-- A term as an operand whose expression should denote its value. -/
def Term.operand (target : Target) (term : Term) : Operand :=
  ⟨term.toRule, fun sql => Denotes target.dialect 7 sql term.meaning⟩

/-- A formula as an operand whose expression should denote its truth. -/
def Formula.operand (target : Target) (formula : Formula) : Operand :=
  ⟨formula.toRule, fun sql => Denotes target.dialect 3 sql formula.meaning⟩

variable {target : Target}

/-- Expressions that are as they should be denote the values of their operands. -/
theorem forall₂_denotes
    {ι : Type}
    {items : List ι}
    {operand : ι → Operand}
    {meaning : ι → Meaning}
    {dialect : Dialect}
    {level : Nat}
    {sqls : List Sql}
    (each : ∀ item sql, (operand item).good sql → Denotes dialect level sql (meaning item))
    (suit : List.Forall₂ Operand.good (items.map operand) sqls) :
    List.Forall₂ (Denotes dialect level) sqls (items.map meaning) := by
  rw [List.forall₂_map_left_iff] at suit
  rw [List.forall₂_map_right_iff]
  exact suit.flip.imp fun sql item good => each item sql good

theorem forall₂_denotes_terms
    {terms : List Term}
    {sqls : List Sql}
    {level : Nat}
    (bound : level ≤ 7)
    (suit : List.Forall₂ Operand.good (terms.map (Term.operand target)) sqls) :
    List.Forall₂ (Denotes target.dialect level) sqls (terms.map Term.meaning) :=
  forall₂_denotes (fun _ _ denotes => Denotes.mono denotes bound) suit

theorem forall₂_denotes_formulas
    {formulas : List Formula}
    {sqls : List Sql}
    {level : Nat}
    (bound : level ≤ 3)
    (suit : List.Forall₂ Operand.good (formulas.map (Formula.operand target)) sqls) :
    List.Forall₂ (Denotes target.dialect level) sqls (formulas.map Formula.meaning) :=
  forall₂_denotes (fun _ _ denotes => Denotes.mono denotes bound) suit

theorem map_meaning_terms
    (interpretation : Interpretation)
    (row : Row)
    (terms : List Term) :
    (terms.map Term.meaning).map (· interpretation row) =
      (Term.values interpretation row terms).map .ofNumber := by
  simp [Term.values_eq_map, Term.meaning]

theorem map_meaning_formulas
    (interpretation : Interpretation)
    (row : Row)
    (formulas : List Formula) :
    (formulas.map Formula.meaning).map (· interpretation row) =
      (Formula.truths interpretation row formulas).map .ofTruth := by
  simp [Formula.truths_eq_map, Formula.meaning]

theorem map_rule_terms (target : Target) (terms : List Term) :
    (terms.map (Term.operand target)).map (·.rule) = Term.toRules terms := by
  simp [Term.toRules_eq_map, Term.operand]

theorem map_rule_formulas (target : Target) (formulas : List Formula) :
    (formulas.map (Formula.operand target)).map (·.rule) = Formula.toRules formulas := by
  simp [Formula.toRules_eq_map, Formula.operand]

/-! ## Fields and literals -/

theorem Writing.operands_arguments
    (writing : Writing)
    {items : List Rule}
    (unlisted : ∀ inner, items ≠ [.list inner]) :
    (writing.arguments items).operands = items := by
  unfold arguments
  split
  · rename_i single
    cases single with
    | list inner => exact absurd rfl (unlisted inner)
    | null | bool | number | string | operation => rfl
  · rfl

theorem Identifier.ne_empty (name : Identifier) : name.val ≠ "" := by
  intro empty
  have starts := name.property.starts
  simp [empty, startsName] at starts

/-- A field compiles to a column. -/
theorem yields_column
    (schemaless : target.schema = none)
    (name : Identifier)
    (writing : Writing) :
    target.Yields ⟨(Term.field name writing).toRule, (· = .column name.val)⟩ := by
  have listed : (writing.arguments [.string name.val]).operands = [.string name.val] :=
    writing.operands_arguments (by simp)
  intro position hint fits
  refine ⟨_, Target.compileAt_of_run_plan schemaless ?_
    (Reference.run_var_untyped listed name.ne_empty), rfl⟩
  exact ((Rule.Fits.operation_iff _ _).mp fits).1

theorem yields_field
    (schemaless : target.schema = none)
    (name : Identifier)
    (writing : Writing) :
    target.Yields ((Term.field name writing).operand target) := by
  intro position hint fits
  obtain ⟨_, compiled, rfl⟩ := yields_column schemaless name writing position hint fits
  exact ⟨_, compiled, .column name.property⟩

/-- The text of an integer has a minus sign or none. -/
theorem canonicalText_integer (value : Int) :
    (value < 0 ∧ (Number.integer value).canonicalText =
        "-" ++ String.ofList (Nat.toDigits 10 value.natAbs)) ∨
      (0 ≤ value ∧ (Number.integer value).canonicalText =
        String.ofList (Nat.toDigits 10 value.natAbs)) := by
  by_cases negative : value < 0
  · refine .inl ⟨negative, ?_⟩
    simp only [Number.canonicalText, Number.text, Number.integerText, negative, if_true]
    rw [← List.singleton_append, String.ofList_append]
  · refine .inr ⟨by omega, ?_⟩
    simp only [Number.canonicalText, Number.text, Number.integerText, negative, if_false]

theorem denotes_integer (dialect : Dialect) (value : Int) :
    Denotes dialect 7 (.ofNumber (.integer value)) fun _ _ => .number value := by
  rcases canonicalText_integer value with ⟨negative, text⟩ | ⟨natural, text⟩
  · rw [Sql.ofNumber, text]
    obtain ⟨magnitude, rfl⟩ : ∃ magnitude : Nat, value = -magnitude := ⟨value.natAbs, by omega⟩
    rw [Int.natAbs_neg, Int.natAbs_natCast]
    exact .minusDigits magnitude
  · rw [Sql.ofNumber, text]
    obtain ⟨magnitude, rfl⟩ : ∃ magnitude : Nat, value = magnitude := ⟨value.natAbs, by omega⟩
    exact .digits magnitude

theorem negatedText_minus (text : String) : Arithmetic.negatedText ("-" ++ text) = text := by
  simp [Arithmetic.negatedText]

theorem negatedText_digits (number : Nat) :
    Arithmetic.negatedText (String.ofList (Nat.toDigits 10 number)) =
      "-" ++ String.ofList (Nat.toDigits 10 number) := by
  unfold Arithmetic.negatedText
  split
  · rename_i rest digits
    rw [String.toList_ofList] at digits
    have digit : '-'.isDigit = true :=
      Nat.isDigit_of_mem_toDigits (by decide) (by decide)
        (show '-' ∈ Nat.toDigits 10 number by simp [digits])
    exact absurd digit (by decide)
  · rfl

/-- An integer is written with the opposite sign. -/
theorem denotes_negatedText (dialect : Dialect) (value : Int) :
    Denotes dialect 7 (.number (Arithmetic.negatedText (Number.integer value).canonicalText))
      fun _ _ => .number (-value) := by
  rcases canonicalText_integer value with ⟨negative, text⟩ | ⟨natural, text⟩
  · rw [text, negatedText_minus]
    obtain ⟨magnitude, rfl⟩ : ∃ magnitude : Nat, value = -magnitude := ⟨value.natAbs, by omega⟩
    rw [Int.neg_neg, Int.natAbs_neg, Int.natAbs_natCast]
    exact .digits magnitude
  · rw [text, negatedText_digits]
    obtain ⟨magnitude, rfl⟩ : ∃ magnitude : Nat, value = magnitude := ⟨value.natAbs, by omega⟩
    exact .minusDigits magnitude

theorem yields_literal (value : Int) : target.Yields ((Term.literal value).operand target) :=
  fun _ _ _ => ⟨_, rfl, denotes_integer target.dialect value⟩

/-! ## Arithmetic -/

/-- The plan of a calculation with several operands. -/
theorem plan_calculation
    (dialect : Dialect)
    (setting : Setting)
    (calculation : Calculation)
    {call : Call}
    {first second : Rule}
    {rest : List Rule}
    (operands : call.operands = first :: second :: rest) :
    calculation.operator.plan dialect setting call =
      Arithmetic.chain setting call calculation.symbol := by
  cases calculation with
  | add => exact Arithmetic.add_eq_chain setting operands
  | subtract => exact Arithmetic.subtract_eq_chain setting operands
  | multiply => rfl
  | divide => rfl

theorem yields_calculation
    (schemaless : target.schema = none)
    (calculation : Calculation)
    (first second : Term)
    (rest : List Term)
    (each : ∀ term ∈ first :: second :: rest, target.Yields (term.operand target)) :
    target.Yields ((Term.calculation calculation first second rest).operand target) := by
  have listed := (map_rule_terms target (first :: second :: rest)).symm
  refine Target.yields_operation schemaless (some .number) listed (by simpa using each) ?_
  intro answer path sqls answered suit
  have bound : precedence calculation.symbol + 1 ≤ 7 := by
    cases calculation <;> decide
  have length : sqls.length = (Term.toRules (first :: second :: rest)).length := by
    simpa [Term.toRules_eq_map] using suit.length_eq.symm
  refine ⟨.group calculation.symbol sqls, ?_, ?_⟩
  · rw [plan_calculation _ _ _ rfl]
    exact Arithmetic.run_chain_untyped _ (Nat.le_add_left 2 _) length answered
  · have denote := forall₂_denotes_terms bound suit
    cases denote with
    | cons head tail =>
        refine .group (head.mono (Nat.le_succ _)) tail fun interpretation row => ?_
        rw [map_meaning_terms]
        exact foldlM_combine interpretation (combine_calculation interpretation calculation) _ _

theorem Term.toRule_ne_list (term : Term) (items : List Rule) : term.toRule ≠ .list items := by
  cases term <;> simp [Term.toRule]

theorem Formula.toRule_ne_list (formula : Formula) (items : List Rule) :
    formula.toRule ≠ .list items := by
  cases formula with
  | nullity equality operand nullFirst => cases nullFirst <;> simp [Formula.toRule]
  | equality | comparison | connective | negation => simp [Formula.toRule]

/-- An operation other than a variable is negated in parentheses. -/
theorem negated_operation
    {operator : String}
    (other : operator ≠ "var")
    (arguments : Rule)
    (sql : Sql) :
    Arithmetic.negated (.operation operator arguments) sql = .minusGroup sql := by
  simp [Arithmetic.negated, Rule.variableName?, other]

/-- A field is negated by a minus sign right before it. -/
theorem negated_field (name : Identifier) (writing : Writing) (sql : Sql) :
    Arithmetic.negated (Term.field name writing).toRule sql = .minus sql := by
  cases writing <;> rfl

/-- What the expression of a term after a minus is like: only a field stands without parentheses. -/
def Term.negatedOperand (target : Target) (term : Term) : Operand :=
  ⟨term.toRule, fun sql => Denotes target.dialect 7 sql term.meaning ∧
    ∀ name writing, term = .field name writing → sql = .column name.val⟩

theorem yields_negatedOperand
    (schemaless : target.schema = none)
    {term : Term}
    (yields : target.Yields (term.operand target)) :
    target.Yields (term.negatedOperand target) := by
  intro position hint fits
  cases term with
  | field name writing =>
      obtain ⟨_, compiled, rfl⟩ := yields_column schemaless name writing position hint fits
      refine ⟨_, compiled, .column name.property, ?_⟩
      rintro _ _ ⟨rfl, rfl⟩
      rfl
  | literal | calculation | negation | extreme | choice =>
      obtain ⟨sql, compiled, denotes⟩ := yields position hint fits
      exact ⟨sql, compiled, denotes, nofun⟩

theorem denotes_negated
    {term : Term}
    {sql : Sql}
    (suits : (term.negatedOperand target).good sql)
    (writing : Writing) :
    Denotes target.dialect 7 (Arithmetic.negated term.toRule sql)
      (Term.negation term writing).meaning := by
  obtain ⟨denotes, column⟩ := suits
  cases term with
  | field name form =>
      obtain rfl := column name form rfl
      rw [negated_field]
      refine .minus ?_ (.column name.property)
      exact fun character found => name.property.word character (List.mem_of_head? found)
  | literal value => exact denotes_negatedText target.dialect value
  | calculation calculation =>
      rw [Term.toRule, negated_operation (by cases calculation <;> decide)]
      exact .minusGroup denotes (by decide)
  | negation =>
      rw [Term.toRule, negated_operation (by decide)]
      exact .minusGroup denotes (by decide)
  | extreme extreme =>
      rw [Term.toRule, negated_operation (by cases extreme <;> decide)]
      exact .minusGroup denotes (by decide)
  | choice =>
      rw [Term.toRule, negated_operation (by decide)]
      exact .minusGroup denotes (by decide)

theorem yields_negation
    (schemaless : target.schema = none)
    {operand : Term}
    (yields : target.Yields (operand.operand target))
    (writing : Writing) :
    target.Yields ((Term.negation operand writing).operand target) := by
  have single : (writing.arguments [operand.toRule]).operands = [operand.toRule] :=
    writing.operands_arguments (by simp [operand.toRule_ne_list])
  have listed : (writing.arguments [operand.toRule]).operands =
      [operand.negatedOperand target].map (·.rule) :=
    single
  refine Target.yields_operation schemaless (some .number) listed
    (by simpa using yields_negatedOperand schemaless yields) ?_
  intro answer path sqls answered suit
  obtain ⟨sql, rfl, suits⟩ := Operand.eq_singleton_of_good suit
  refine ⟨Arithmetic.negated operand.toRule sql, ?_, denotes_negated suits writing⟩
  exact Arithmetic.run_subtract_single_untyped single (answered 0 sql rfl)

theorem plan_extreme (dialect : Dialect) (setting : Setting) (call : Call) (extreme : Extreme) :
    extreme.operator.plan dialect setting call =
      Arithmetic.extremum setting call extreme.function := by
  cases extreme <;> rfl

theorem yields_extreme
    (schemaless : target.schema = none)
    (extreme : Extreme)
    (first : Term)
    (rest : List Term)
    (writing : Writing)
    (each : ∀ term ∈ first :: rest, target.Yields (term.operand target)) :
    target.Yields ((Term.extreme extreme first rest writing).operand target) := by
  have operands : (writing.arguments (first.toRule :: Term.toRules rest)).operands =
      first.toRule :: Term.toRules rest :=
    writing.operands_arguments (by simp [first.toRule_ne_list])
  have listed := operands.trans (map_rule_terms target (first :: rest)).symm
  refine Target.yields_operation schemaless (some .number) listed (by simpa using each) ?_
  intro answer path sqls answered suit
  have length : sqls.length = (Term.toRules (first :: rest)).length := by
    simpa [Term.toRules_eq_map] using suit.length_eq.symm
  refine ⟨.call extreme.function sqls, ?_, ?_⟩
  · rw [plan_extreme]
    refine Arithmetic.run_extremum_untyped _ ?_ ?_ answered <;> rw [Call.operands, operands]
    · exact Nat.le_add_left 1 _
    · exact length
  · have denote := forall₂_denotes_terms (Nat.le_refl 7) suit
    cases denote with
    | cons head tail =>
        refine .call head tail (by decide) fun interpretation row => ?_
        rw [← List.map_cons, map_meaning_terms]
        exact invoke_extreme interpretation extreme _

/-! ## Choices -/

/-- The operands of a choice, each condition before its value. -/
def Branches.operands (target : Target) : Branches → List Operand
  | .last condition value => [condition.operand target, value.operand target]
  | .lastElse condition value otherwise =>
      [condition.operand target, value.operand target, otherwise.operand target]
  | .more condition value rest =>
      condition.operand target :: value.operand target :: rest.operands target

theorem map_rule_branches (target : Target) : ∀ branches : Branches,
    (branches.operands target).map (·.rule) = branches.toRules
  | .last .. => rfl
  | .lastElse .. => rfl
  | .more _ _ rest => by
      simp [Branches.operands, Branches.toRules, map_rule_branches target rest, Formula.operand,
        Term.operand]

/-- A condition with its value in front of other branches. -/
theorem denotesBranches_cons
    {condition : Formula}
    {value : Term}
    {branches : List (Sql × Sql)}
    {otherwise conditionSql valueSql : Sql}
    {rest : Interpretation → Row → Option Int}
    (suitsCondition : (condition.operand target).good conditionSql)
    (suitsValue : (value.operand target).good valueSql)
    (denotes : DenotesBranches target.dialect branches otherwise fun interpretation row =>
      .ofNumber (rest interpretation row)) :
    DenotesBranches target.dialect ((conditionSql, valueSql) :: branches) otherwise
      fun interpretation row => .ofNumber
        (if condition.truth interpretation row = some true then value.value interpretation row
          else rest interpretation row) := by
  have branch := DenotesBranches.cons (Denotes.mono suitsCondition (by decide))
    (Denotes.mono suitsValue (by decide)) denotes
  convert branch using 3
  split <;> rfl

/-- Conditions and values that are as they should be make up the branches of the choice. -/
theorem denotesBranches (target : Target) : ∀ (branches : Branches) (sqls : List Sql),
    List.Forall₂ Operand.good (branches.operands target) sqls →
      DenotesBranches target.dialect (Logic.paired sqls).1 (Logic.paired sqls).2
        (Term.choice branches).meaning
  | .last _ _, _, .cons first (.cons second .nil) =>
      denotesBranches_cons first second (.nil .null)
  | .lastElse _ _ _, _, .cons first (.cons second (.cons third .nil)) =>
      denotesBranches_cons first second (.nil (Denotes.mono third (by decide)))
  | .more _ _ rest, _, .cons first (.cons second others) =>
      denotesBranches_cons first second (denotesBranches target rest _ others)

/-- The first two of enough expressions make up a branch. -/
theorem exists_paired_eq_cons {sqls : List Sql} (enough : 2 ≤ sqls.length) :
    ∃ branch branches, (Logic.paired sqls).1 = branch :: branches := by
  match sqls with
  | _ :: _ :: _ => exact ⟨_, _, rfl⟩

theorem yields_choice
    (schemaless : target.schema = none)
    (branches : Branches)
    (each : ∀ operand ∈ branches.operands target, target.Yields operand) :
    target.Yields ((Term.choice branches).operand target) := by
  have listed := (map_rule_branches target branches).symm
  refine Target.yields_operation schemaless none listed each ?_
  intro answer path sqls answered suit
  have length : sqls.length = branches.toRules.length := by
    simpa [listed] using suit.length_eq.symm
  have enough : 2 ≤ branches.toRules.length := by
    cases branches <;> simp [Branches.toRules]
  refine ⟨_, Logic.run_conditional rfl enough length answered, ?_⟩
  have denotes := denotesBranches target branches sqls suit
  obtain ⟨branch, others, paired⟩ := exists_paired_eq_cons (length ▸ enough)
  rw [paired] at denotes ⊢
  exact denotes.cases

end Fragment
end RuleClause
