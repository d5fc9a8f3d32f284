import RuleClause.Proofs.Fragment.Operators
import RuleClause.Proofs.Plan.Outcome
import RuleClause.Proofs.Target

/-!
# Tests for missing fields count them

A test that too few fields are present is written in one of five forms, by its minimum and by
the number of the fields.  Each form has the truth of one comparison: that of the minimum with
the number of references that are not null, where a field that is named twice counts twice.  A
test that some field is missing is the form whose minimum is the number of the fields.
-/

namespace RuleClause
namespace Reference

open Reading
open Fragment (Connective)

/-- Names of fields as a list. -/
def nameList (names : List String) : Rule :=
  .list (names.map .string)

/-- The test that one of the named fields is missing. -/
def missingRule (names : List String) : Rule :=
  .operation Operator.missing.name (nameList names)

/-- The test that fewer of the named fields than the minimum are present. -/
def missingSomeRule (minimum : Int) (names : List String) : Rule :=
  .operation Operator.missingSome.name (.list [.number (.integer minimum), nameList names])

/-! ## Compiling -/

section

variable
  {answer : Request → Except Error Sql}
  {setting : Setting}
  {call : Call}
  {names : List String}
  {references : List Sql}

/-- Names that stand for expressions are looked up one by one. -/
theorem run_fields_of_resolves
    (resolved : List.Forall₂ (Resolves setting) names references)
    (place : Nat → Path)
    (index : Nat) :
    (fields setting call place index (names.map .string)).run answer = .ok references := by
  induction resolved generalizing index with
  | nil => rfl
  | cons head _ inductionHypothesis =>
      simp only [List.map_cons, fields, Plan.run_bind_eq_ok_iff, run_named_eq_ok_iff]
      exact ⟨_, head, _, inductionHypothesis (index + 1), rfl⟩

theorem run_missing_of_resolves
    (resolved : List.Forall₂ (Resolves setting) names references)
    (filled : names ≠ [])
    (listed : call.arguments = nameList names) :
    (missing setting call).run answer = .ok (nullTests .or references) := by
  obtain ⟨first, rest, rfl⟩ := List.exists_cons_of_ne_nil filled
  have operands : call.operands = .string first :: rest.map .string := by
    rw [Call.operands, listed]
    rfl
  have direct : missingFields setting call =
      fields setting call call.operandPath 0 ((first :: rest).map .string) := by
    rw [missingFields, operands]
    rfl
  have some : references.isEmpty = false := by
    cases resolved
    rfl
  simp only [missing, Plan.run_bind_eq_ok_iff, direct]
  refine ⟨references, run_fields_of_resolves resolved _ _, ?_⟩
  rw [some]
  rfl

theorem run_missingSome_of_resolves
    {minimum : Int}
    (signed : Number.isSigned minimum = true)
    (resolved : List.Forall₂ (Resolves setting) names references)
    (listed : call.arguments = .list [.number (.integer minimum), nameList names]) :
    (missingSome setting call).run answer = .ok (fewerThan minimum references) := by
  simp only [missingSome, Plan.run_bind_eq_ok_iff, Call.run_listedPair_eq_ok_iff]
  refine ⟨(.number (.integer minimum), nameList names), listed, minimum, ?_, ?_⟩
  · simp [Reference.minimum, Number.toSigned?, signed]
  · simp only [nameList, Plan.run_bind_eq_ok_iff]
    exact ⟨references, run_fields_of_resolves resolved _ _, rfl⟩

end

/-- All fields together are the minimum of a test that some field is missing. -/
theorem fewerThan_length {references : List Sql} (filled : references ≠ []) :
    fewerThan references.length references = nullTests .or references := by
  have positive : 0 < references.length := List.length_pos_of_ne_nil filled
  rw [fewerThan, if_neg (by omega), if_neg (by omega), if_pos rfl]

/-! ## Null tests -/

section

variable {dialect : Dialect} {references : List Sql} {meanings : List Meaning}

/-- How many of some values are not null. -/
def present (meanings : List Meaning) (interpretation : Interpretation) (row : Row) : Nat :=
  meanings.countP fun meaning => meaning interpretation row ≠ .null

/-- Whether a value is null, which is always known. -/
def absence (interpretation : Interpretation) (row : Row) (meaning : Meaning) : Option Bool :=
  some (meaning interpretation row = .null)

theorem denotes_nullTest
    {reference : Sql}
    {meaning : Meaning}
    (denotes : Denotes dialect 4 reference meaning) :
    Denotes dialect 4 (.test reference .isNull) fun interpretation row =>
      .ofTruth (absence interpretation row meaning) :=
  denotes.test .isNull fun _ _ => rfl

/-- Null tests with an operator between them have the truth of their connective. -/
theorem denotes_nullTests
    (connective : Connective)
    (denote : List.Forall₂ (Denotes dialect 4) references meanings)
    (filled : references ≠ []) :
    Denotes dialect 4 (nullTests connective.symbol references) fun interpretation row =>
      .ofTruth (connective.apply (meanings.map (absence interpretation row))) := by
  cases denote with
  | nil => exact absurd rfl filled
  | @cons reference meaning references meanings head tail =>
      have each : List.Forall₂ (Denotes dialect 4) (references.map (.test · .isNull))
          (meanings.map fun meaning interpretation row =>
            .ofTruth (absence interpretation row meaning)) := by
        rw [List.forall₂_map_left_iff, List.forall₂_map_right_iff]
        exact tail.imp fun _ _ => denotes_nullTest
      refine Denotes.joined (by cases connective <;> decide) (denotes_nullTest head) each
        fun interpretation row => ?_
      rw [List.map_map]
      exact (congrArg (List.foldlM _ _) (List.map_map (g := Value.ofTruth)).symm).trans
        (Fragment.foldlM_connective interpretation connective _ _)

/-- Some field is missing if not all of them are present. -/
theorem disjunction_absence (interpretation : Interpretation) (row : Row) :
    Fragment.disjunction (meanings.map (absence interpretation row)) =
      some (decide (present meanings interpretation row < meanings.length)) := by
  have known : none ∉ meanings.map (absence interpretation row) := by
    simp [absence]
  have most : present meanings interpretation row ≤ meanings.length := List.countP_le_length
  have complete : some true ∉ meanings.map (absence interpretation row) ↔
      present meanings interpretation row = meanings.length := by
    simp [absence, present, List.countP_eq_length]
  rw [Fragment.disjunction, if_neg known]
  split
  · rename_i missing
    have fewer : present meanings interpretation row ≠ meanings.length :=
      fun all => complete.mpr all missing
    simp only [Option.some.injEq, eq_comm (a := true), decide_eq_true_eq]
    omega
  · rename_i found
    rw [complete.mp found]
    simp

/-- All fields are missing if none of them is present. -/
theorem conjunction_absence (interpretation : Interpretation) (row : Row) :
    Fragment.conjunction (meanings.map (absence interpretation row)) =
      some (decide (present meanings interpretation row < 1)) := by
  have known : none ∉ meanings.map (absence interpretation row) := by
    simp [absence]
  have empty : some false ∉ meanings.map (absence interpretation row) ↔
      present meanings interpretation row = 0 := by
    simp [absence, present, List.countP_eq_zero]
  rw [Fragment.conjunction, if_neg known]
  split
  · rename_i found
    have some : present meanings interpretation row ≠ 0 := fun none => empty.mpr none found
    simp only [Option.some.injEq, eq_comm (a := false), decide_eq_false_iff_not]
    omega
  · rename_i missing
    rw [empty.mp missing]
    simp

/-! ## Counting -/

/-- One for a value, and zero for null. -/
def unit (interpretation : Interpretation) (row : Row) (meaning : Meaning) : Int :=
  if meaning interpretation row ≠ .null then 1 else 0

theorem present_cons
    (interpretation : Interpretation)
    (row : Row)
    (meaning : Meaning)
    (rest : List Meaning) :
    (present (meaning :: rest) interpretation row : Int) =
      unit interpretation row meaning + present rest interpretation row := by
  by_cases null : meaning interpretation row = .null
  · simp [present, unit, null]
  · simp only [present, unit, List.countP_cons, null, ne_eq, not_false_eq_true, if_true,
      decide_true]
    omega

/-- Adding up ones and zeros counts the values. -/
theorem foldl_unit (interpretation : Interpretation) (row : Row) (start : Int) :
    (meanings.map (unit interpretation row)).foldl (· + ·) start =
      start + present meanings interpretation row := by
  induction meanings generalizing start with
  | nil => exact (Int.add_zero start).symm
  | cons meaning rest inductionHypothesis =>
      rw [List.map_cons, List.foldl_cons, inductionHypothesis, present_cons, Int.add_assoc]

theorem denotes_presence
    {outer : Nat}
    {reference : Sql}
    {meaning : Meaning}
    (denotes : Denotes dialect 4 reference meaning) :
    Denotes dialect outer (presence reference) fun interpretation row =>
      .number (unit interpretation row meaning) := by
  have tested : Denotes dialect 1 (.test reference .isNotNull) fun interpretation row =>
      .ofTruth (some (meaning interpretation row ≠ .null)) :=
    (denotes.test .isNotNull fun _ _ => rfl).mono (by decide)
  have branches := DenotesBranches.cons tested (.natural 1) (.nil (.natural 0))
  obtain chosen : Denotes dialect outer (presence reference) _ := branches.cases
  refine cast (congrArg _ (funext fun interpretation => funext fun row => ?_)) chosen
  by_cases null : meaning interpretation row = .null <;> simp [unit, null]

/-- The sum over the fields compared with the minimum counts those that are present. -/
theorem denotes_count
    (denote : List.Forall₂ (Denotes dialect 4) references meanings)
    (filled : references ≠ [])
    (minimum : Nat) :
    Denotes dialect 4 (.binary .less (.group .add (references.map presence)) (.integer minimum))
      fun interpretation row => .truth (present meanings interpretation row < minimum) := by
  cases denote with
  | nil => exact absurd rfl filled
  | @cons reference meaning references meanings head tail =>
      have each : List.Forall₂ (Denotes dialect 6) (references.map presence)
          (meanings.map fun meaning interpretation row =>
            .number (unit interpretation row meaning)) := by
        rw [List.forall₂_map_left_iff, List.forall₂_map_right_iff]
        exact tail.imp fun _ _ => denotes_presence
      have sum : Denotes dialect 4 (.group .add ((reference :: references).map presence))
          fun interpretation row => .number (present (meaning :: meanings) interpretation row) := by
        refine .group (denotes_presence head) each fun interpretation row => ?_
        rw [present_cons, ← foldl_unit, List.map_map]
        exact (congrArg (List.foldlM _ _) (List.map_map (g := Value.number)).symm).trans
          (Fragment.foldlM_combine interpretation (fun _ _ => rfl) _ _)
      refine .binary sum (.natural minimum) fun interpretation row => ?_
      simp [combine, relate, strictly, Value.number?, Value.ofTruth]

/-- Each form of the test has the truth of comparing the number of values with the minimum. -/
theorem denotes_fewerThan
    (denote : List.Forall₂ (Denotes dialect 4) references meanings)
    (minimum : Int) :
    Denotes dialect 4 (fewerThan minimum references) fun interpretation row =>
      .truth (present meanings interpretation row < minimum) := by
  have same : references.length = meanings.length := denote.length_eq
  have most (interpretation : Interpretation) (row : Row) :
      present meanings interpretation row ≤ meanings.length :=
    List.countP_le_length
  -- what is known of the number of values decides the first two forms
  rw [fewerThan]
  split
  · have never (interpretation : Interpretation) (row : Row) :
        decide ((present meanings interpretation row : Int) < minimum) = false := by
      simp only [decide_eq_false_iff_not]
      omega
    simp only [never]
    exact .bool false
  split
  · have always (interpretation : Interpretation) (row : Row) :
        decide ((present meanings interpretation row : Int) < minimum) = true := by
      have fewer := most interpretation row
      simp only [decide_eq_true_eq]
      omega
    simp only [always]
    exact .bool true
  have filled : references ≠ [] := by
    rintro rfl
    simp only [List.length_nil] at *
    omega
  obtain ⟨natural, rfl⟩ : ∃ natural : Nat, minimum = natural := ⟨minimum.toNat, by omega⟩
  simp only [Int.ofNat_lt]
  split
  · rename_i all
    have tests := denotes_nullTests .or denote filled
    simp only [Connective.apply, disjunction_absence] at tests
    have length : natural = meanings.length := by omega
    rw [length]
    exact tests
  split
  · rename_i single
    have tests := denotes_nullTests .and denote filled
    simp only [Connective.apply, conjunction_absence] at tests
    obtain rfl : natural = 1 := by omega
    exact tests
  · exact denotes_count denote filled natural

end

/--
A test that too few of the named fields are present compiles wherever the names stand for
references, however many there are and however often each is named.  Its condition holds exactly
if fewer of the references than the minimum have a value other than null; it is never unknown.
With the number of the fields for its minimum it is the test that some field is missing.
-/
theorem missingSome_holds_iff_fewer_present
    (target : Target)
    (position : Position)
    (scope : Scope)
    (hint : Option FieldType)
    (minimum : Int)
    (names : List String)
    (references : List Sql)
    (signed : Number.isSigned minimum = true)
    (bound : position.depth ≤ target.maxDepth)
    (resolved : List.Forall₂ (Resolves ⟨target.schema, scope⟩) names references) :
    compileAt target.context (missingSomeRule minimum names) position scope hint =
        .ok (fewerThan minimum references) ∧
      (∀ meanings, List.Forall₂ (Denotes target.dialect 4) references meanings →
        ∀ interpretation row,
          evaluate interpretation row ((fewerThan minimum references).render target.dialect) =
            some (.truth (present meanings interpretation row < minimum))) ∧
      (names ≠ [] → minimum = names.length →
        compileAt target.context (missingRule names) position scope hint =
          .ok (fewerThan minimum references)) := by
  refine ⟨?_, fun meanings denote => (denotes_fewerThan denote minimum).evaluate_eq, ?_⟩
  · rw [missingSomeRule, compileAt_operator_eq_ok_iff (target.custom_context_operator_name _)]
    exact ⟨bound, run_missingSome_of_resolves signed resolved rfl⟩
  · rintro filled rfl
    have filledReferences : references ≠ [] := by
      rintro rfl
      exact filled (List.forall₂_nil_right_iff.mp resolved)
    rw [missingRule, compileAt_operator_eq_ok_iff (target.custom_context_operator_name _),
      resolved.length_eq, fewerThan_length filledReferences]
    exact ⟨bound, run_missing_of_resolves resolved filled rfl⟩

/-- A reference whose text is an identifier stands for what a row holds under it. -/
theorem denotes_of_isIdentifier
    {dialect : Dialect}
    {level : Nat}
    {reference : Sql}
    (identifier : IsIdentifier (reference.render dialect)) :
    Denotes dialect level reference fun _ row => .ofNumber (row (reference.render dialect)) :=
  (Denotes.column identifier).of_render_eq rfl

/-- A member of the current element that is named twice counts twice. -/
theorem missingSome_holds_iff_fewer_present_of_contact :
    Number.isSigned 2 = true ∧
      List.Forall₂ (Resolves ⟨none, .element⟩) ["phone", "email", "phone"]
        [.bound .element (some "phone"), .bound .element (some "email"),
          .bound .element (some "phone")] ∧
      ∀ interpretation row, row "elem.phone" = some 1 → row "elem.email" = none →
        evaluate interpretation row
            ("(CASE WHEN elem.phone IS NOT NULL THEN 1 ELSE 0 END + " ++
              "CASE WHEN elem.email IS NOT NULL THEN 1 ELSE 0 END + " ++
              "CASE WHEN elem.phone IS NOT NULL THEN 1 ELSE 0 END) < 2") =
          some (.truth false) := by
  have resolved : List.Forall₂ (Resolves ⟨none, .element⟩) ["phone", "email", "phone"]
      [.bound .element (some "phone"), .bound .element (some "email"),
        .bound .element (some "phone")] :=
    .cons rfl (.cons rfl (.cons rfl .nil))
  refine ⟨by decide, resolved, fun interpretation row phone email => ?_⟩
  have counted := missingSome_holds_iff_fewer_present (.ofDialect .postgreSQL) .start .element none
    2 _ _ (by decide) (by decide) resolved
  have evaluates := counted.2.1 _
    (.cons (denotes_of_isIdentifier (by decide)) (.cons (denotes_of_isIdentifier (by decide))
      (.cons (denotes_of_isIdentifier (by decide)) .nil)))
    interpretation row
  refine evaluates.trans ?_
  simp [present, Sql.render, Sql.boundText, Binding.name, Dialect.elementName, phone, email,
    Value.ofNumber]

end Reference
end RuleClause
