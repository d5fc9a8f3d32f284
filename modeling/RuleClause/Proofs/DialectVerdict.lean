import RuleClause.Proofs.CheckedSums
import RuleClause.Proofs.OperatorNames

/-!
# One verdict for all dialects

Dialects differ in how they write an expression, and only a reduction asks which of them it
is compiled for.  Any other rule of built-in operators is compiled to the same expression
for every dialect, or it is refused for every dialect with the same error.  With checked
sums there is an exception: dialects that count items from one stop at the item with the
last number, and the others do not.
-/

namespace RuleClause
namespace Target

/-- The target with another dialect. -/
def withDialect (target : Target) (dialect : Dialect) : Target :=
  { target with dialect := dialect }

variable (target : Target)

/-- A built-in rule without reductions is compiled the same way for any two dialects. -/
theorem corresponds_withDialect
    {rule : Rule}
    (neutral : ∀ name, rule.Names name →
      name ≠ Operator.reduce.name ∧ target.registry.has name = false)
    (first second : Dialect) :
    Context.Corresponds (.equality (Except Error)) (target.withDialect first).context
      (target.withDialect second).context rule where
  dialect operator arguments contains looks := by
    obtain ⟨other, unregistered⟩ := neutral operator ⟨arguments, contains⟩
    rcases looks with reduces | registered
    · exact absurd reduces other
    · have found : target.registry.has operator = true := by
        rw [← registered, isSome_custom_context]
        rfl
      rw [found] at unregistered
      contradiction
  maxDepth := rfl
  custom operator arguments contains := by
    obtain ⟨_, unregistered⟩ := neutral operator ⟨arguments, contains⟩
    have absent (dialect : Dialect) :
        (target.withDialect dialect).context.custom operator = none := by
      apply custom_context_eq_none
      exact unregistered
    rw [absent first, absent second]
    exact .none
  count _ _ _ _ _ := by
    rw [Context.count_eq_pure rfl, Context.count_eq_pure rfl]
    exact Correspondence.pure _ ()

/-- Such a rule has the same expression for all dialects, before it is written. -/
theorem compile_withDialect_eq
    {rule : Rule}
    (neutral : ∀ name, rule.Names name →
      name ≠ Operator.reduce.name ∧ target.registry.has name = false)
    (first second : Dialect) :
    (target.withDialect first).context.compile rule =
      (target.withDialect second).context.compile rule :=
  (target.corresponds_withDialect neutral first second).compile rfl

/-- What is read from a source does not depend on the dialect. -/
theorem readRule_withDialect (dialect : Dialect) (source : Source) :
    (target.withDialect dialect).context.readRule source = target.context.readRule source :=
  Context.readRule_eq rfl source

/-- Such a rule gives a condition in every dialect, or the same error in every dialect. -/
theorem condition_withDialect_ok_or_error
    {source : Source}
    (neutral : ∀ rule name, target.context.readRule source = .ok rule → rule.Names name →
      name ≠ Operator.reduce.name ∧ target.registry.has name = false) :
    (∀ dialect, ∃ text, (target.withDialect dialect).condition source = .ok text) ∨
      ∃ error, ∀ dialect, (target.withDialect dialect).condition source = .error error := by
  simp only [condition_eq, readRule_withDialect]
  cases read : target.context.readRule source with
  | error error => exact .inr ⟨error, fun _ => rfl⟩
  | ok rule =>
      have same (dialect : Dialect) : (target.withDialect dialect).context.compile rule =
          (target.withDialect target.dialect).context.compile rule :=
        target.compile_withDialect_eq (neutral rule · read) dialect target.dialect
      cases compiled : (target.withDialect target.dialect).context.compile rule with
      | ok expression =>
          refine .inl fun dialect => ⟨expression.render dialect, ?_⟩
          change ((target.withDialect dialect).context.compile rule >>= _) = _
          rw [same, compiled]
          rfl
      | error error =>
          refine .inr ⟨error, fun dialect => ?_⟩
          change ((target.withDialect dialect).context.compile rule >>= _) = _
          rw [same, compiled]
          rfl

end Target

/--
All dialects give one verdict.  A rule without reductions and without custom operators gives
a condition in every dialect, or it is refused in every dialect with the same error.  With
checked sums a dialect leaves out its verdict exactly where a sum does not fit a word, and
no dialect does if no variable has the last number for its name.
-/
theorem condition_verdict_same_in_all_dialects
    (target : Target)
    (source : Source)
    (neutral : ∀ rule name, target.context.readRule source = .ok rule → rule.Names name →
      name ≠ Operator.reduce.name ∧ target.registry.has name = false) :
    ((∀ dialect, ∃ text, (target.withDialect dialect).condition source = .ok text) ∨
      ∃ error, ∀ dialect, (target.withDialect dialect).condition source = .error error) ∧
    (∀ dialect,
      ((target.withDialect dialect).checkedCondition source = none ↔
        (target.withDialect dialect).Overflows source) ∧
      (¬ (target.withDialect dialect).Overflows source →
        (target.withDialect dialect).checkedCondition source =
          some ((target.withDialect dialect).condition source))) ∧
    ((∀ rule, target.context.readRule source = .ok rule → ¬ rule.NumbersLast) →
      (∀ dialect, ∃ text, (target.withDialect dialect).checkedCondition source =
        some (.ok text)) ∨
      ∃ error, ∀ dialect, (target.withDialect dialect).checkedCondition source =
        some (.error error)) := by
  have verdict := target.condition_withDialect_ok_or_error neutral
  refine ⟨verdict, fun dialect => ⟨Target.checkedCondition_eq_none_iff,
    Target.checkedCondition_eq_some⟩, fun apart => ?_⟩
  have checked (dialect : Dialect) : (target.withDialect dialect).checkedCondition source =
      some ((target.withDialect dialect).condition source) := by
    apply Target.checkedCondition_eq_some
    apply Target.not_overflows_of_not_numbersLast
    rw [target.readRule_withDialect]
    exact apart
  simp only [checked, Option.some.injEq]
  exact verdict

/-- Lines with a certain tag whose code, from a place on, is the rest of a division of an item. -/
def giftedLines (start item : Int) : Rule :=
  .operation "some" (.list
    [.operation "filter" (.list
      [.operation "var" (.string "lines"),
       .operation "in" (.list [.string "gift", .operation "merge" (.list
        [.operation "var" (.string "tags"), .string "it's"])])]),
     .operation "==" (.list
      [.operation "substr" (.list [.operation "var" (.string "code"), .number (.integer start)]),
       .operation "%" (.list [.operation "var" (.number (.integer item)), .number (.integer 7)])])])

/--
The place may be counted from the end, unless it is too far from there.  The number of the item
may be the last, unless items are counted from one and sums are checked.
-/
theorem condition_verdict_same_for_giftedLines :
    ((Target.ofDialect .clickHouse).condition (.rule (giftedLines (-2) 0))).toOption = some
      ("arrayExists(elem -> substring(elem.code, GREATEST(lengthUTF8(elem.code) - 2 + 1, 1)) = " ++
        "(elem[1] % 7), arrayFilter(elem -> has(arrayConcat(elem.tags, ['it''s']), 'gift'), lines))") ∧
    (∀ dialect, ∃ text, ((Target.ofDialect .clickHouse).withDialect dialect).condition
      (.rule (giftedLines (-2) 0)) = .ok text) ∧
    (∃ error, error.fault = .offsetOutOfRange ∧
      ∀ dialect, ((Target.ofDialect .clickHouse).withDialect dialect).condition
        (.rule (giftedLines (-9223372036854775808) 0)) = .error error) ∧
    ((Target.ofDialect .clickHouse).condition (.rule (giftedLines (-2) lastNumber))).toOption = some
      ("arrayExists(elem -> substring(elem.code, GREATEST(lengthUTF8(elem.code) - 2 + 1, 1)) = " ++
        "(elem[0] % 7), arrayFilter(elem -> has(arrayConcat(elem.tags, ['it''s']), 'gift'), lines))") ∧
    ∀ dialect, ((Target.ofDialect .clickHouse).withDialect dialect).Overflows
      (.rule (giftedLines (-2) lastNumber)) ↔ dialect.forms.index = .ordinal := by
  have neutral (start item : Int) : ∀ rule name,
      (Target.ofDialect .clickHouse).context.readRule (.rule (giftedLines start item)) = .ok rule →
      rule.Names name →
      name ≠ Operator.reduce.name ∧ (Target.ofDialect .clickHouse).registry.has name = false := by
    rintro _ name ⟨⟩ names
    refine ⟨?_, rfl⟩
    rintro rfl
    rw [← Rule.mem_operatorNames_iff] at names
    simp [giftedLines, Rule.operatorNames, Rule.operatorNamesOfAll, Operator.name] at names
  have verdict (start item : Int) :=
    condition_verdict_same_in_all_dialects (.ofDialect .clickHouse) _ (neutral start item)
  refine ⟨by decide +kernel, ?_, ?_, by decide +kernel, fun dialect => ?_⟩
  · rcases (verdict (-2) 0).1 with accepted | ⟨error, refused⟩
    · exact accepted
    · cases refused .clickHouse
  · rcases (verdict (-9223372036854775808) 0).1 with accepted | ⟨error, refused⟩
    · obtain ⟨_, accepted⟩ := accepted .clickHouse
      cases accepted
    · have same := refused .clickHouse
      cases same
      exact ⟨_, rfl, refused⟩
  · have stops := ((verdict (-2) lastNumber).2.1 dialect).1
    rw [← stops, ← Option.isNone_iff_eq_none]
    cases dialect with
    | bigQuery | spanner => exact iff_of_false (by decide +kernel) (by decide)
    | postgreSQL | duckDB | clickHouse => exact iff_of_true (by decide +kernel) rfl

end RuleClause
