import RuleClause.Proofs.Fragment.Term

/-!
# Compiling formulas

Without a schema, each operation with a truth value compiles as soon as its operands
do, and its expression denotes the truth of the operation when theirs denote their
values.  A longer comparison compares neighbours.
-/

namespace RuleClause
namespace Fragment

open Reading

variable {target : Target}

/-! ## Equalities -/

theorem plan_equality (dialect : Dialect) (setting : Setting) (call : Call) (equality : Equality) :
    equality.operator.plan dialect setting call =
      Logic.equality setting call equality.symbol equality.nullTest := by
  cases equality <;> rfl

theorem Term.toRule_ne_null (term : Term) : term.toRule ≠ .null := by
  cases term <;> simp [Term.toRule]

theorem yields_equality
    (schemaless : target.schema = none)
    (equality : Equality)
    {left right : Term}
    (yieldsLeft : target.Yields (left.operand target))
    (yieldsRight : target.Yields (right.operand target)) :
    target.Yields ((Formula.equality equality left right).operand target) := by
  have listed : (Rule.list [left.toRule, right.toRule]).operands =
      [left.operand target, right.operand target].map (·.rule) :=
    rfl
  refine Target.yields_operation schemaless none listed (by simp [yieldsLeft, yieldsRight]) ?_
  intro answer path sqls answered suit
  obtain ⟨leftSql, rightSql, rfl, suitsLeft, suitsRight⟩ := Operand.eq_pair_of_good suit
  refine ⟨.binary equality.symbol leftSql rightSql, ?_, ?_⟩
  · rw [plan_equality]
    exact Logic.run_equality_untyped rfl left.toRule_ne_null right.toRule_ne_null answered
  · have denotes : Denotes target.dialect (precedence equality.symbol)
        (.binary equality.symbol leftSql rightSql) (Formula.equality equality left right).meaning :=
      .binary (Denotes.mono suitsLeft (by cases equality <;> decide))
        (Denotes.mono suitsRight (by cases equality <;> decide))
        fun interpretation row => combine_equality interpretation equality _ _
    exact denotes.mono (by cases equality <;> decide)

/-- Null as an operand, whose expression is never used. -/
def nullOperand : Operand :=
  ⟨.null, fun _ => True⟩

theorem yields_nullOperand : target.Yields nullOperand :=
  fun _ _ _ => ⟨_, rfl, trivial⟩

theorem denotes_nullity
    {operand : Term}
    {sql : Sql}
    (equality : Equality)
    (nullFirst : Bool)
    (suits : (operand.operand target).good sql) :
    Denotes target.dialect 3 (.test sql equality.nullTest)
      (Formula.nullity equality operand nullFirst).meaning := by
  have denotes : Denotes target.dialect 4 (.test sql equality.nullTest)
      (Formula.nullity equality operand nullFirst).meaning :=
    .test (Denotes.mono suits (by decide)) _ fun interpretation row =>
      examine_nullTest equality (operand.value interpretation row)
  exact denotes.mono (by decide)

theorem yields_nullity
    (schemaless : target.schema = none)
    (equality : Equality)
    {operand : Term}
    (yields : target.Yields (operand.operand target))
    (nullFirst : Bool) :
    target.Yields ((Formula.nullity equality operand nullFirst).operand target) := by
  cases nullFirst with
  | false =>
      have listed : (Rule.list [operand.toRule, .null]).operands =
          [operand.operand target, nullOperand].map (·.rule) :=
        rfl
      refine Target.yields_operation schemaless none listed
        (by simp [yields, yields_nullOperand]) ?_
      intro answer path sqls answered suit
      obtain ⟨sql, _, rfl, suits, _⟩ := Operand.eq_pair_of_good suit
      refine ⟨.test sql equality.nullTest, ?_, denotes_nullity equality false suits⟩
      rw [plan_equality]
      exact Logic.run_equality_null rfl (answered 0 sql rfl)
  | true =>
      have listed : (Rule.list [.null, operand.toRule]).operands =
          [nullOperand, operand.operand target].map (·.rule) :=
        rfl
      refine Target.yields_operation schemaless none listed
        (by simp [yields, yields_nullOperand]) ?_
      intro answer path sqls answered suit
      obtain ⟨_, sql, rfl, _, suits⟩ := Operand.eq_pair_of_good suit
      refine ⟨.test sql equality.nullTest, ?_, denotes_nullity equality true suits⟩
      rw [plan_equality]
      exact Logic.run_null_equality_untyped rfl operand.toRule_ne_null (answered 1 sql rfl)

/-! ## Comparisons -/

theorem plan_comparison
    (dialect : Dialect)
    (setting : Setting)
    (call : Call)
    (comparison : Comparison) :
    comparison.operator.plan dialect setting call =
      Logic.comparison setting call comparison.symbol := by
  cases comparison <;> rfl

/-- Each of some terms compared with the next, for any database and row. -/
def comparisons (comparison : Comparison) (terms : List Term) : List Meaning :=
  (terms.zip terms.tail).map fun pair interpretation row => .ofTruth
    (comparison.apply (pair.1.value interpretation row) (pair.2.value interpretation row))

theorem map_comparisons
    (comparison : Comparison)
    (terms : List Term)
    (interpretation : Interpretation)
    (row : Row) :
    (comparisons comparison terms).map (· interpretation row) =
      ((neighbours (Term.values interpretation row terms)).map
        fun pair => comparison.apply pair.1 pair.2).map .ofTruth := by
  simp only [comparisons, neighbours, Term.values_eq_map, ← List.map_tail, List.zip_map,
    List.map_map]
  rfl

/-- Two expressions are compared as the terms that they denote. -/
theorem denotes_comparison
    {dialect : Dialect}
    {left right : Term}
    {leftSql rightSql : Sql}
    (comparison : Comparison)
    (denotesLeft : Denotes dialect 7 leftSql left.meaning)
    (denotesRight : Denotes dialect 7 rightSql right.meaning) :
    Denotes dialect 4 (.binary comparison.symbol leftSql rightSql) fun interpretation row =>
      .ofTruth (comparison.apply (left.value interpretation row)
        (right.value interpretation row)) := by
  have denotes : Denotes dialect (precedence comparison.symbol)
      (.binary comparison.symbol leftSql rightSql) fun interpretation row =>
        .ofTruth (comparison.apply (left.value interpretation row)
          (right.value interpretation row)) :=
    .binary (denotesLeft.mono (by cases comparison <;> decide))
      (denotesRight.mono (by cases comparison <;> decide))
      fun interpretation row => combine_comparison interpretation comparison _ _
  exact denotes.mono (by cases comparison <;> decide)

/-- Neighbours among expressions are compared as the terms that they denote. -/
theorem forall₂_adjacent
    {dialect : Dialect}
    (comparison : Comparison)
    {terms : List Term}
    {sqls : List Sql}
    (denote : List.Forall₂ (Denotes dialect 7) sqls (terms.map Term.meaning)) :
    List.Forall₂ (Denotes dialect 4) (Logic.adjacent comparison.symbol sqls)
      (comparisons comparison terms) := by
  induction terms generalizing sqls with
  | nil =>
      cases denote
      exact .nil
  | cons first rest inductionHypothesis =>
      cases denote with
      | cons head tail =>
          cases rest with
          | nil =>
              cases tail
              exact .nil
          | cons second others =>
              have later := inductionHypothesis tail
              cases tail with
              | cons next more => exact .cons (denotes_comparison comparison head next) later

theorem yields_comparison
    (schemaless : target.schema = none)
    (comparison : Comparison)
    (first second : Term)
    (rest : List Term)
    (each : ∀ term ∈ first :: second :: rest, target.Yields (term.operand target)) :
    target.Yields ((Formula.comparison comparison first second rest).operand target) := by
  have listed := (map_rule_terms target (first :: second :: rest)).symm
  refine Target.yields_operation schemaless none listed (by simpa using each) ?_
  intro answer path sqls answered suit
  have length : sqls.length = (Term.toRules (first :: second :: rest)).length := by
    simpa [Term.toRules_eq_map] using suit.length_eq.symm
  have compared := forall₂_adjacent comparison (forall₂_denotes_terms (Nat.le_refl 7) suit)
  refine ⟨.joined .and (Logic.adjacent comparison.symbol sqls), ?_, ?_⟩
  · rw [plan_comparison]
    exact Logic.run_comparison_untyped rfl (Nat.le_add_left 2 _) length answered
  · cases adjacent : Logic.adjacent comparison.symbol sqls with
    | nil =>
        rw [adjacent] at compared
        cases compared
    | cons sql others =>
        rw [adjacent] at compared
        cases compared with
        | cons head tail =>
            refine Denotes.mono (.joined (by decide) head tail fun interpretation row => ?_)
              (show 3 ≤ 4 by decide)
            have mapped := map_comparisons comparison (second :: rest) interpretation row
            exact (congrArg (List.foldlM _ _) mapped).trans
              (foldlM_connective interpretation .and _ _)

/-! ## Connectives -/

theorem plan_connective
    (dialect : Dialect)
    (setting : Setting)
    (call : Call)
    (connective : Connective) :
    connective.operator.plan dialect setting call =
      Logic.connective setting call connective.symbol := by
  cases connective <;> rfl

theorem yields_connective
    (schemaless : target.schema = none)
    (connective : Connective)
    (first : Formula)
    (rest : List Formula)
    (each : ∀ formula ∈ first :: rest, target.Yields (formula.operand target)) :
    target.Yields ((Formula.connective connective first rest).operand target) := by
  have listed := (map_rule_formulas target (first :: rest)).symm
  refine Target.yields_operation schemaless none listed (by simpa using each) ?_
  intro answer path sqls answered suit
  have length : sqls.length = (Formula.toRules (first :: rest)).length := by
    simpa [Formula.toRules_eq_map] using suit.length_eq.symm
  have denote := forall₂_denotes_formulas (Nat.le_refl 3) suit
  refine ⟨.joined connective.symbol sqls, ?_, ?_⟩
  · rw [plan_connective]
    exact (Logic.run_connective_eq_ok_iff _ _).mpr
      ⟨_, sqls, rfl, Nat.le_add_left 1 _, length, answered, rfl⟩
  · cases denote with
    | cons head tail =>
        refine .joined (by cases connective <;> decide) head tail fun interpretation row => ?_
        rw [map_meaning_formulas]
        exact foldlM_connective interpretation connective _ _

theorem yields_not
    (schemaless : target.schema = none)
    {operand : Formula}
    (yields : target.Yields (operand.operand target))
    (writing : Writing) :
    target.Yields ((Formula.negation operand writing).operand target) := by
  have single : (writing.arguments [operand.toRule]).operands = [operand.toRule] :=
    writing.operands_arguments (by simp [operand.toRule_ne_list])
  have listed : (writing.arguments [operand.toRule]).operands =
      [operand.operand target].map (·.rule) :=
    single
  refine Target.yields_operation schemaless none listed (by simpa using yields) ?_
  intro answer path sqls answered suit
  obtain ⟨sql, rfl, suits⟩ := Operand.eq_singleton_of_good suit
  refine ⟨.not sql, ?_, Denotes.not suits (by decide)⟩
  exact (Logic.run_negation_eq_ok_iff _).mpr
    ⟨operand.toRule, sql, single, answered 0 sql rfl, rfl⟩

/-! ## Terms and formulas of any depth -/

mutual

/-- Every term compiles to an expression that denotes its value. -/
theorem Term.yields (schemaless : target.schema = none) : ∀ term : Term,
    target.Yields (term.operand target)
  | .field name writing => yields_field schemaless name writing
  | .literal value => yields_literal value
  | .calculation calculation first second rest =>
      yields_calculation schemaless calculation first second rest
        (List.forall_mem_cons.mpr ⟨Term.yields schemaless first, List.forall_mem_cons.mpr
          ⟨Term.yields schemaless second, Term.yieldsEach schemaless rest⟩⟩)
  | .negation operand writing =>
      yields_negation schemaless (Term.yields schemaless operand) writing
  | .extreme extreme first rest writing =>
      yields_extreme schemaless extreme first rest writing
        (List.forall_mem_cons.mpr
          ⟨Term.yields schemaless first, Term.yieldsEach schemaless rest⟩)
  | .choice branches => yields_choice schemaless branches (Branches.yields schemaless branches)

theorem Term.yieldsEach (schemaless : target.schema = none) : ∀ terms : List Term,
    ∀ term ∈ terms, target.Yields (term.operand target)
  | [] => List.forall_mem_nil _
  | first :: rest =>
      List.forall_mem_cons.mpr
        ⟨Term.yields schemaless first, Term.yieldsEach schemaless rest⟩

/-- Every formula compiles to an expression that denotes its truth. -/
theorem Formula.yields (schemaless : target.schema = none) : ∀ formula : Formula,
    target.Yields (formula.operand target)
  | .equality equality left right =>
      yields_equality schemaless equality (Term.yields schemaless left)
        (Term.yields schemaless right)
  | .nullity equality operand nullFirst =>
      yields_nullity schemaless equality (Term.yields schemaless operand) nullFirst
  | .comparison comparison first second rest =>
      yields_comparison schemaless comparison first second rest
        (List.forall_mem_cons.mpr ⟨Term.yields schemaless first, List.forall_mem_cons.mpr
          ⟨Term.yields schemaless second, Term.yieldsEach schemaless rest⟩⟩)
  | .connective connective first rest =>
      yields_connective schemaless connective first rest
        (List.forall_mem_cons.mpr
          ⟨Formula.yields schemaless first, Formula.yieldsEach schemaless rest⟩)
  | .negation operand writing =>
      yields_not schemaless (Formula.yields schemaless operand) writing

theorem Formula.yieldsEach (schemaless : target.schema = none) : ∀ formulas : List Formula,
    ∀ formula ∈ formulas, target.Yields (formula.operand target)
  | [] => List.forall_mem_nil _
  | first :: rest =>
      List.forall_mem_cons.mpr
        ⟨Formula.yields schemaless first, Formula.yieldsEach schemaless rest⟩

theorem Branches.yields (schemaless : target.schema = none) : ∀ branches : Branches,
    ∀ operand ∈ branches.operands target, target.Yields operand
  | .last condition value => by
      simp [Branches.operands, Formula.yields schemaless condition, Term.yields schemaless value]
  | .lastElse condition value otherwise => by
      simp [Branches.operands, Formula.yields schemaless condition, Term.yields schemaless value,
        Term.yields schemaless otherwise]
  | .more condition value rest => by
      simp only [Branches.operands, List.mem_cons, forall_eq_or_imp]
      exact ⟨Formula.yields schemaless condition, Term.yields schemaless value,
        Branches.yields schemaless rest⟩

end

end Fragment
end RuleClause
