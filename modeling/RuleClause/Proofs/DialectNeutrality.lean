import RuleClause.Proofs.DialectVerdict
import RuleClause.Proofs.Plan.Outcome

/-!
# Conditions that all dialects write alike

Dialects write arrays, casts, remainders and parts of texts differently, and they escape
quotes differently.  A rule that needs none of these has one condition, letter by letter,
in all of them.  Such rules are built of common operators: variables by name, tests for
missing fields, equalities, comparisons, connectives, choices, arithmetic and searches in
written lists.
-/

namespace RuleClause

/-! ## Expressions -/

/-- No character of a text needs to be escaped in any dialect. -/
def IsUnescaped (text : String) : Prop :=
  ∀ character ∈ text.toList, character ≠ '\'' ∧ character ≠ '\\'

instance (text : String) : Decidable (IsUnescaped text) :=
  decidable_of_iff
    (text.toList.all (fun character => character != '\'' && character != '\\') = true)
    (by simp [IsUnescaped])

theorem Dialect.QuoteForm.escape_eq_singleton
    (form : QuoteForm)
    {character : Char}
    (unescaped : character ≠ '\'' ∧ character ≠ '\\') :
    form.escape character = [character] := by
  unfold escape
  split <;> simp_all

/-- A text without quotes and backslashes stands between quotes as it is. -/
theorem Dialect.quote_eq (dialect : Dialect) {text : String} (unescaped : IsUnescaped text) :
    dialect.quote text = "'" ++ text ++ "'" := by
  have kept : text.toList.flatMap dialect.forms.quote.escape = text.toList.flatMap ([·]) :=
    List.flatMap_congr fun character member =>
      QuoteForm.escape_eq_singleton _ (unescaped character member)
  rw [quote, kept, List.flatMap_singleton', String.ofList_toList]

namespace Sql

/-- An expression has the same text in all dialects. -/
def IsNeutral (expression : Sql) : Prop :=
  ∀ first second : Dialect, expression.render first = expression.render second

namespace IsNeutral

variable {expression left right : Sql} {expressions : List Sql}

theorem null : IsNeutral .null := fun _ _ => rfl

theorem bool (value : Bool) : IsNeutral (.bool value) := fun _ _ => rfl

theorem number (text : String) : IsNeutral (.number text) := fun _ _ => rfl

theorem integer (value : Int) : IsNeutral (.integer value) := number _

theorem column (name : String) : IsNeutral (.column name) := fun _ _ => rfl

theorem string {value : String} (unescaped : IsUnescaped value) : IsNeutral (.string value) := by
  intro first second
  simp only [render, Dialect.quote_eq _ unescaped]

theorem ofText
    {value : String}
    (type : Option FieldType)
    (unescaped : IsUnescaped value) :
    IsNeutral (.ofText type value) := by
  unfold Sql.ofText
  split
  · exact number _
  · exact string unescaped

theorem test (neutral : expression.IsNeutral) (check : Test) :
    IsNeutral (.test expression check) := by
  intro first second
  simp only [render, neutral first second]

theorem not (neutral : expression.IsNeutral) : IsNeutral (.not expression) := by
  intro first second
  simp only [render, neutral first second]

theorem minus (neutral : expression.IsNeutral) : IsNeutral (.minus expression) := by
  intro first second
  simp only [render, neutral first second]

theorem minusGroup (neutral : expression.IsNeutral) : IsNeutral (.minusGroup expression) := by
  intro first second
  simp only [render, neutral first second]

theorem binary
    (operator : BinaryOp)
    (neutralLeft : left.IsNeutral)
    (neutralRight : right.IsNeutral) :
    IsNeutral (.binary operator left right) := by
  intro first second
  simp only [render, neutralLeft first second, neutralRight first second]

theorem renderAll_eq
    (neutral : ∀ expression ∈ expressions, expression.IsNeutral)
    (first second : Dialect) :
    renderAll first expressions = renderAll second expressions := by
  rw [renderAll_eq_map, renderAll_eq_map]
  exact List.map_congr_left fun expression member => neutral expression member first second

theorem group
    (operator : BinaryOp)
    (neutral : ∀ expression ∈ expressions, expression.IsNeutral) :
    IsNeutral (.group operator expressions) := by
  intro first second
  simp only [render, renderAll_eq neutral first second]

theorem joined
    (operator : BinaryOp)
    (neutral : ∀ expression ∈ expressions, expression.IsNeutral) :
    IsNeutral (.joined operator expressions) := by
  unfold Sql.joined
  split
  · exact neutral _ List.mem_cons_self
  · exact group operator neutral

theorem call
    (function : Function)
    (neutral : ∀ expression ∈ expressions, expression.IsNeutral) :
    IsNeutral (.call function expressions) := by
  intro first second
  simp only [render, renderAll_eq neutral first second]

theorem oneOf
    (neutral : expression.IsNeutral)
    (neutralItems : ∀ item ∈ expressions, item.IsNeutral) :
    IsNeutral (.oneOf expression expressions) := by
  intro first second
  simp only [render, neutral first second, renderAll_eq neutralItems first second]

theorem renderBranches_eq
    {branches : List (Sql × Sql)}
    (neutral : ∀ branch ∈ branches, branch.1.IsNeutral ∧ branch.2.IsNeutral)
    (first second : Dialect) :
    renderBranches first branches = renderBranches second branches := by
  induction branches with
  | nil => rfl
  | cons branch rest inductionHypothesis =>
      obtain ⟨⟨condition, value⟩, remaining⟩ := List.forall_mem_cons.mp neutral
      simp only [renderBranches, condition first second, value first second,
        inductionHypothesis remaining]

theorem cases
    {branches : List (Sql × Sql)}
    (neutral : ∀ branch ∈ branches, branch.1.IsNeutral ∧ branch.2.IsNeutral)
    (otherwise : expression.IsNeutral) :
    IsNeutral (.cases branches expression) := by
  intro first second
  simp only [render, renderBranches_eq neutral first second, otherwise first second]

/-! ## References -/

variable {answer : Request → Except Error Sql} {setting : Setting} {call : Call}

/-- Outside of iterations a name stands for a column. -/
theorem of_resolves
    {name : String}
    (outside : setting.scope = .row)
    (resolves : Reference.Resolves setting name expression) :
    expression.IsNeutral := by
  rw [Reference.Resolves, outside] at resolves
  rw [resolves.2]
  exact column name

theorem of_ofLiteral?
    {type : Option FieldType}
    {rule : Rule}
    (unescaped : ∀ value, rule = .string value → IsUnescaped value)
    (written : Sql.ofLiteral? type rule = some expression) :
    expression.IsNeutral := by
  cases rule with
  | null =>
      obtain rfl := Option.some.inj written
      exact null
  | bool value =>
      obtain rfl := Option.some.inj written
      exact bool value
  | number value =>
      obtain rfl := Option.some.inj written
      exact number _
  | string value =>
      obtain rfl := Option.some.inj written
      exact ofText type (unescaped value rfl)
  | list | operation => simp [Sql.ofLiteral?] at written

/-- Outside of iterations a variable is neutral unless its default is a text to escape. -/
theorem of_run_var
    (outside : setting.scope = .row)
    (unescaped : ∀ value, .string value ∈ call.operands.tail → IsUnescaped value)
    (ended : (Reference.var setting call).run answer = .ok expression) :
    expression.IsNeutral := by
  have ofReference {rule : Rule} {reference : Sql}
      (resolved : (Reference.reference setting call rule).run answer = .ok reference) :
      reference.IsNeutral := by
    rcases Reference.resolves_of_run_reference resolved with
      ⟨_, _, resolves⟩ | ⟨_, _, _, inside, _⟩
    · exact of_resolves outside resolves
    · exact absurd outside inside
  rcases Reference.of_run_var ended with
    ⟨_, _, resolved⟩ | ⟨_, default, _, _, operands, resolved, written, _, rfl⟩
  · exact ofReference resolved
  · have permitted : ∀ value, default = .string value → IsUnescaped value := by
      rintro value rfl
      exact unescaped value (by simp [operands])
    have fallback := of_ofLiteral? permitted written
    exact IsNeutral.call .coalesce (by simp [ofReference resolved, fallback])

theorem of_forall₂_resolves
    {names : List Rule}
    (outside : setting.scope = .row)
    (resolved : List.Forall₂
      (fun rule reference => ∃ name, rule = .string name ∧
        Reference.Resolves setting name reference)
      names expressions) :
    ∀ reference ∈ expressions, reference.IsNeutral := by
  intro reference member
  obtain ⟨_, _, _, _, resolves⟩ := resolved.exists_of_mem_right member
  exact of_resolves outside resolves

theorem nullTests
    (operator : BinaryOp)
    (neutral : ∀ reference ∈ expressions, reference.IsNeutral) :
    (Reference.nullTests operator expressions).IsNeutral := by
  refine joined operator fun term member => ?_
  obtain ⟨reference, inside, rfl⟩ := List.mem_map.mp member
  exact test (neutral reference inside) .isNull

theorem fewerThan
    (least : Int)
    (neutral : ∀ reference ∈ expressions, reference.IsNeutral) :
    (Reference.fewerThan least expressions).IsNeutral := by
  unfold Reference.fewerThan
  split
  · exact bool false
  · split
    · exact bool true
    · split
      · exact nullTests .or neutral
      · split
        · exact nullTests .and neutral
        · refine binary .less (group .add fun term member => ?_) (integer least)
          obtain ⟨reference, inside, rfl⟩ := List.mem_map.mp member
          exact cases (by simpa using ⟨test (neutral reference inside) .isNotNull, integer 1⟩)
            (integer 0)

/-! ## Operators over compiled operands -/

theorem presentAndNot
    (neutral : expression.IsNeutral)
    (neutralOthers : ∀ other ∈ expressions, other.IsNeutral) :
    (Logic.presentAndNot expression expressions).IsNeutral := by
  refine group .and fun term member => ?_
  rcases List.mem_cons.mp member with rfl | later
  · exact test neutral .isNotNull
  · obtain ⟨other, inside, rfl⟩ := List.mem_map.mp later
    exact binary .notEqual neutral (neutralOthers other inside)

/-- Only the truth of an array is tested by its length, which each dialect calls differently. -/
theorem truthOf
    {type : Option FieldType}
    (neutral : expression.IsNeutral)
    (other : type ≠ some .array) :
    (Logic.truthOf expression type).IsNeutral := by
  have empty : IsNeutral (.string "") := string (by decide)
  match type with
  | some .boolean => exact test neutral .isTrue
  | some .string | some .enum => exact presentAndNot neutral (by simpa using empty)
  | some .integer | some .number => exact presentAndNot neutral (by simpa using integer 0)
  | some .array => exact absurd rfl other
  | some .object => exact test neutral .isNotNull
  | none => exact presentAndNot neutral (by simpa using ⟨bool false, integer 0, empty⟩)

theorem adjacent
    (operator : BinaryOp)
    (neutral : ∀ term ∈ expressions, term.IsNeutral) :
    ∀ comparison ∈ Logic.adjacent operator expressions, comparison.IsNeutral := by
  induction expressions with
  | nil => simp [Logic.adjacent]
  | cons first rest inductionHypothesis =>
      cases rest with
      | nil => simp [Logic.adjacent]
      | cons next rest =>
          obtain ⟨head, tail⟩ := List.forall_mem_cons.mp neutral
          intro comparison member
          rcases List.mem_cons.mp member with rfl | later
          · exact binary operator head (tail next List.mem_cons_self)
          · exact inductionHypothesis tail comparison later

section

variable
  (answers : ∀ hint index inner, answer (setting.operandRequest hint index) = .ok inner →
    inner.IsNeutral)
include answers

theorem of_answered
    {hint : Option FieldType}
    (answered : Answered answer (setting.operandRequest hint) expressions) :
    ∀ term ∈ expressions, term.IsNeutral := by
  intro term member
  obtain ⟨index, asked⟩ := answered.of_mem member
  exact answers hint index term asked

theorem of_run_equality
    {operator : BinaryOp}
    {nullTest : Test}
    (ended : (Logic.equality setting call operator nullTest).run answer = .ok expression) :
    expression.IsNeutral := by
  obtain ⟨_, _, _, outcome⟩ := Logic.of_run_equality ended
  rcases outcome with ⟨_, _, asked, rfl⟩ | ⟨_, _, asked, rfl⟩ |
    ⟨_, _, _, _, askedLeft, askedRight, rfl⟩
  · exact test (answers _ _ _ asked) nullTest
  · exact test (answers _ _ _ asked) nullTest
  · exact binary operator (answers _ _ _ askedLeft) (answers _ _ _ askedRight)

theorem of_run_truthy
    (other : ∀ operand ∈ call.operands, setting.type? operand ≠ some .array)
    (ended : (Logic.truthy setting call).run answer = .ok expression) :
    expression.IsNeutral := by
  rcases Logic.of_run_truthy ended with
    ⟨_, rfl⟩ | ⟨operand, operands, ⟨truth, _, rfl⟩ | ⟨_, _, asked, rfl⟩⟩
  · exact bool false
  · exact bool truth
  · exact truthOf (answers _ _ _ asked) (other operand (by simp [operands]))

theorem of_run_connective
    {operator : BinaryOp}
    (ended : (Logic.connective setting call operator).run answer = .ok expression) :
    expression.IsNeutral := by
  obtain ⟨_, _, _, _, _, answered, rfl⟩ := (Logic.run_connective_eq_ok_iff _ _).mp ended
  exact joined operator (of_answered answers answered)

theorem of_run_conditional
    (ended : (Logic.conditional setting call).run answer = .ok expression) :
    expression.IsNeutral := by
  obtain ⟨_, outcome, _, branched, rfl⟩ := Logic.of_run_conditional ended
  obtain ⟨_, inner, last⟩ := Logic.of_run_branches branched
  refine cases (fun branch member => ?_) ?_
  · obtain ⟨⟨_, condition⟩, _, value⟩ := inner branch member
    exact ⟨answers _ _ _ condition, answers _ _ _ value⟩
  · rcases last with nothing | ⟨_, asked⟩
    · rw [nothing]
      exact null
    · exact answers _ _ _ asked

theorem of_run_comparison
    {operator : BinaryOp}
    (ended : (Logic.comparison setting call operator).run answer = .ok expression) :
    expression.IsNeutral := by
  obtain ⟨_, _, _, _, _, _, answered, rfl⟩ := (Logic.run_comparison_eq_ok_iff _ _).mp ended
  exact joined .and (adjacent operator (of_answered answers answered))

theorem of_run_terms
    (ended : (Arithmetic.terms setting call).run answer = .ok expressions) :
    ∀ term ∈ expressions, term.IsNeutral :=
  of_answered answers ((Arithmetic.run_terms_eq_ok_iff _).mp ended).2.2

theorem of_run_chain
    {operator : BinaryOp}
    (ended : (Arithmetic.chain setting call operator).run answer = .ok expression) :
    expression.IsNeutral := by
  obtain ⟨_, _, asked, rfl⟩ := (Arithmetic.run_chain_eq_ok_iff _ _).mp ended
  exact group operator (of_run_terms answers asked)

theorem of_run_extremum
    {function : Function}
    (ended : (Arithmetic.extremum setting call function).run answer = .ok expression) :
    expression.IsNeutral := by
  obtain ⟨_, _, asked, rfl⟩ := (Arithmetic.run_extremum_eq_ok_iff _ _).mp ended
  exact IsNeutral.call function (of_run_terms answers asked)

/-- An addition of several terms holds no cast, unlike a single plus. -/
theorem of_run_add
    (several : call.operands.length ≠ 1)
    (ended : (Arithmetic.add setting call).run answer = .ok expression) :
    expression.IsNeutral := by
  rcases Arithmetic.of_run_add ended with ⟨_, operands, _⟩ | ended
  · simp [operands] at several
  · exact of_run_chain answers ended

theorem of_run_subtract
    (ended : (Arithmetic.subtract setting call).run answer = .ok expression) :
    expression.IsNeutral := by
  rcases Arithmetic.of_run_subtract ended with ⟨operand, operands, ended⟩ | ended
  · obtain ⟨_, inner, asked, rfl⟩ := (Arithmetic.run_minus_eq_ok_iff _ _).mp ended
    have neutral := answers _ _ inner asked
    unfold Arithmetic.negated
    split
    · exact number _
    · split
      · exact minus neutral
      · exact minusGroup neutral
  · exact of_run_chain answers ended

end

/-- A search in a written list compares with its items. -/
theorem of_run_membership
    {needle : Rule}
    {items rest : List Rule}
    (arguments : call.arguments = .list (needle :: .list items :: rest))
    (value : ∀ inner, answer (setting.operandRequest none 0) = .ok inner → inner.IsNeutral)
    (parts : ∀ hint index inner, answer (setting.partRequest 1 hint index) = .ok inner →
      inner.IsNeutral)
    (ended : (Arrays.membership setting call).run answer = .ok expression) :
    expression.IsNeutral := by
  obtain ⟨_, operand, listed, outcome⟩ := Arrays.of_run_membership ended
  obtain ⟨_, rfl, _⟩ : needle = _ ∧ .list items = operand ∧ rest = [] := by
    simpa [arguments] using listed
  rcases outcome with ⟨_, _, searched⟩ | ⟨other, _⟩
  · rcases Arrays.of_run_membershipIn searched with
      ⟨_, rfl⟩ | ⟨_, _, _, _, asked, _, answered, rfl⟩
    · exact bool false
    · refine oneOf (value _ asked) fun term member => ?_
      obtain ⟨index, askedPart⟩ := answered.of_mem member
      exact parts _ index term askedPart
  · exact absurd rfl (other items)

end IsNeutral
end Sql

/-! ## Rules -/

namespace Operator

/-- The operators whose expressions are neutral wherever their operands are. -/
def isElementary : Operator → Bool
  | .equal | .strictEqual | .notEqual | .strictNotEqual | .not | .truthy | .and | .or
  | .conditional | .ternary | .greater | .greaterEqual | .less | .lessEqual | .add | .subtract
  | .multiply | .divide | .max | .min | .cat => true
  | _ => false

/-- The operators of rules that all dialects write alike. -/
def isCommon (operator : Operator) : Bool :=
  operator.isElementary || operator matches .var | .missing | .missingSome | .membership

theorem isCommon_of_isElementary
    {operator : Operator}
    (elementary : operator.isElementary = true) :
    operator.isCommon = true := by
  simp [isCommon, elementary]

theorem ne_reduce_of_isCommon {operator : Operator} (common : operator.isCommon = true) :
    operator ≠ .reduce := by
  rintro rfl
  simp [isCommon, isElementary] at common

end Operator

/-- An elementary operator keeps expressions neutral, given what it is not applied to. -/
theorem Sql.IsNeutral.of_run_plan
    {answer : Request → Except Error Sql}
    {dialect : Dialect}
    {setting : Setting}
    {call : Call}
    {operator : Operator}
    {expression : Sql}
    (answers : ∀ hint index inner, answer (setting.operandRequest hint index) = .ok inner →
      inner.IsNeutral)
    (elementary : operator.isElementary = true)
    (truth : operator = .truthy → ∀ operand ∈ call.operands,
      setting.type? operand ≠ some .array)
    (sum : operator = .add → call.operands.length ≠ 1)
    (ended : (operator.plan dialect setting call).run answer = .ok expression) :
    expression.IsNeutral := by
  cases operator with
  | equal | strictEqual | notEqual | strictNotEqual => exact of_run_equality answers ended
  | not =>
      obtain ⟨_, _, _, asked, rfl⟩ := (Logic.run_negation_eq_ok_iff _).mp ended
      exact (answers _ _ _ asked).not
  | truthy => exact of_run_truthy answers (truth rfl) ended
  | and | or => exact of_run_connective answers ended
  | conditional => exact of_run_conditional answers ended
  | ternary =>
      simp only [Operator.plan, Logic.ternary, Plan.run_bind_eq_ok_iff] at ended
      obtain ⟨_, _, ended⟩ := ended
      exact of_run_conditional answers ended
  | greater | greaterEqual | less | lessEqual => exact of_run_comparison answers ended
  | add => exact of_run_add answers (sum rfl) ended
  | subtract => exact of_run_subtract answers ended
  | multiply | divide => exact of_run_chain answers ended
  | max | min => exact of_run_extremum answers ended
  | cat =>
      obtain ⟨_, _, _, _, answered, rfl⟩ := (Strings.run_cat_eq_ok_iff _).mp ended
      exact .call .concat (of_answered answers answered)
  | var | missing | missingSome | modulo | substr | membership | map | filter | reduce | all
    | some | none | merge => simp [Operator.isElementary] at elementary

/--
A rule that all dialects write alike.  It is built of common operators, its texts need no
escaping, and lists stand in it only as arguments, as names of fields that may be missing
and as lists that are searched.
-/
inductive Rule.IsCommon (schema : Option Schema) : Rule → Prop
  | null : IsCommon schema .null
  | bool (value : Bool) : IsCommon schema (.bool value)
  | number (value : Number) : IsCommon schema (.number value)
  | string
      {value : String}
      (unescaped : IsUnescaped value) :
      IsCommon schema (.string value)
  /-- A variable by name, which may hold any character, perhaps with a default. -/
  | reference
      {arguments : Rule}
      {name : String}
      {rest : List Rule}
      (named : arguments.operands = .string name :: rest)
      (others : ∀ operand ∈ rest, IsCommon schema operand) :
      IsCommon schema (.operation Operator.var.name arguments)
  /-- A test for missing fields, whose operands are not compiled. -/
  | missing
      {operator : Operator}
      {arguments : Rule}
      (tests : operator = .missing ∨ operator = .missingSome)
      (inside : ∀ operand ∈ arguments.operands, ∀ name, operand.Names name →
        ∃ common : Operator, common.isCommon = true ∧ common.name = name) :
      IsCommon schema (.operation operator.name arguments)
  /-- A search in a written list. -/
  | search
      {needle : Rule}
      {items rest : List Rule}
      (searched : ∀ item ∈ items, IsCommon schema item)
      (others : ∀ operand ∈ needle :: rest, IsCommon schema operand) :
      IsCommon schema (.operation Operator.membership.name (.list (needle :: .list items :: rest)))
  /-- Any other operation, but no test for the truth of an array and no single plus. -/
  | operation
      {operator : Operator}
      {arguments : Rule}
      (elementary : operator.isElementary = true)
      (operands : ∀ operand ∈ arguments.operands, IsCommon schema operand)
      (truth : operator = .truthy → ∀ operand ∈ arguments.operands,
        Setting.type? ⟨schema, .row⟩ operand ≠ some .array)
      (sum : operator = .add → arguments.operands.length ≠ 1) :
      IsCommon schema (.operation operator.name arguments)

namespace Rule.IsCommon

variable {schema : Option Schema} {rule : Rule}

/-- A common rule names common operators only. -/
theorem exists_operator_of_names
    {name : String}
    (common : rule.IsCommon schema)
    (names : rule.Names name) :
    ∃ operator : Operator, operator.isCommon = true ∧ operator.name = name := by
  rw [names_iff] at names
  induction common with
  | null | bool | number | string => simp [children] at names
  | reference named others inductionHypothesis =>
      rcases names with ⟨_, ⟨⟩⟩ | ⟨child, member, nested⟩
      · exact ⟨.var, rfl, rfl⟩
      · rw [children, named] at member
        rw [names_iff] at nested
        rcases List.mem_cons.mp member with rfl | later
        · simp [children] at nested
        · exact inductionHypothesis child later nested
  | @missing operator _ tests inside =>
      rcases names with ⟨_, ⟨⟩⟩ | ⟨child, member, nested⟩
      · exact ⟨operator, by rcases tests with rfl | rfl <;> rfl, rfl⟩
      · exact inside child member name nested
  | @search needle items rest _ _ searched others =>
      rcases names with ⟨_, ⟨⟩⟩ | ⟨child, member, nested⟩
      · exact ⟨.membership, rfl, rfl⟩
      · rw [names_iff] at nested
        rcases List.mem_cons.mp member with rfl | member
        · exact others child List.mem_cons_self nested
        · rcases List.mem_cons.mp member with rfl | later
          · obtain ⟨_, ⟨⟩⟩ | ⟨item, inside, nested⟩ := nested
            exact searched item inside ((names_iff _ _).mp nested)
          · exact others child (List.mem_cons_of_mem _ later) nested
  | @operation operator _ elementary _ _ _ inductionHypothesis =>
      rcases names with ⟨_, ⟨⟩⟩ | ⟨child, member, nested⟩
      · exact ⟨operator, Operator.isCommon_of_isElementary elementary, rfl⟩
      · exact inductionHypothesis child member ((names_iff _ _).mp nested)

end Rule.IsCommon

section

variable {context : Context (Except Error)}

/-- An answer is neutral if whatever is selected compiles to neutral expressions. -/
theorem isNeutral_of_answer
    {operator : String}
    {arguments : Rule}
    {position : Position}
    {request : Request}
    {expression : Sql}
    (neutral : ∀ rule place inner,
      request.selection.pick? operator arguments position = some (rule, place) →
      compileAt context rule place request.scope request.hint = .ok inner → inner.IsNeutral)
    (answered :
      OperandCompiler.answer (operandsAt context operator arguments position) request =
        .ok expression) :
    expression.IsNeutral := by
  rcases of_answer_eq_ok answered with rfl | ⟨rule, place, picked, compiled⟩
  · exact .null
  · exact neutral rule place expression picked compiled

/-- What a common rule compiles to outside of iterations is neutral. -/
theorem Rule.IsCommon.isNeutral_of_compileAt
    (builtin : ∀ operator : Operator, context.custom operator.name = none)
    {rule : Rule}
    {position : Position}
    {hint : Option FieldType}
    {expression : Sql}
    (common : rule.IsCommon context.schema)
    (compiled : compileAt context rule position .row hint = .ok expression) :
    expression.IsNeutral := by
  -- Behind an operation stands the plan of its operator.
  have planned {operator : Operator} {arguments position hint expression} :=
    (compileAt_operator_eq_ok_iff (builtin operator) arguments position .row hint expression).mp
  induction common generalizing position hint expression with
  | null =>
      obtain rfl := Except.ok.inj compiled
      exact .null
  | bool value =>
      obtain rfl := Except.ok.inj compiled
      exact .bool value
  | number value =>
      obtain rfl := Except.ok.inj compiled
      exact .number _
  | string unescaped =>
      obtain rfl := Except.ok.inj compiled
      exact .ofText hint unescaped
  | @reference arguments name rest named others _ =>
      refine .of_run_var rfl (fun value member => ?_) (planned compiled).2
      have later : .string value ∈ rest := by simpa [Call.operands, named] using member
      cases others _ later with
      | string unescaped => exact unescaped
  | missing tests _ =>
      rcases tests with rfl | rfl
      · obtain ⟨_, resolved, rfl⟩ := Reference.of_run_missing (planned compiled).2
        exact .nullTests .or (.of_forall₂_resolves rfl resolved)
      · obtain ⟨_, least, _, _, _, resolved, _, rfl⟩ :=
          Reference.of_run_missingSome (planned compiled).2
        exact .fewerThan least (.of_forall₂_resolves rfl resolved)
  | @search needle items rest _ _ searched others =>
      have ended := (planned compiled).2
      refine .of_run_membership rfl (fun inner => isNeutral_of_answer ?_)
        (fun hint index inner => isNeutral_of_answer ?_) ended
      · rintro _ _ _ ⟨⟩ compiled
        exact others needle List.mem_cons_self compiled
      · intro item place _ picked compiled
        obtain ⟨item, found, same⟩ := Option.map_eq_some_iff.mp picked
        obtain ⟨rfl, _⟩ := Prod.mk.inj same
        exact searched item (List.mem_of_getElem? found) compiled
  | operation elementary _ truth sum inductionHypothesis =>
      have ended := (planned compiled).2
      refine .of_run_plan (fun hint index inner => isNeutral_of_answer ?_) elementary ?_ ?_ ended
      · intro operand place _ picked compiled
        obtain ⟨operand, found, same⟩ := Option.map_eq_some_iff.mp picked
        obtain ⟨rfl, _⟩ := Prod.mk.inj same
        exact inductionHypothesis operand (List.mem_of_getElem? found) compiled
      · exact truth
      · exact sum

theorem Rule.IsCommon.isNeutral_of_compile
    (builtin : ∀ operator : Operator, context.custom operator.name = none)
    {rule : Rule}
    {expression : Sql}
    (common : rule.IsCommon context.schema)
    (compiled : context.compile rule = .ok expression) :
    expression.IsNeutral := by
  cases rule with
  | operation operator arguments => exact common.isNeutral_of_compileAt builtin compiled
  | null | bool | number | string | list =>
      simp [Context.compile, throw, throwThe, MonadExceptOf.throw] at compiled

end

/--
A common rule has one outcome: all dialects give the same condition, letter by letter, or
refuse the rule with the same error.
-/
theorem condition_same_in_all_dialects
    (target : Target)
    (source : Source)
    (common : ∀ rule, target.context.readRule source = .ok rule → rule.IsCommon target.schema)
    (first second : Dialect) :
    (target.withDialect first).condition source =
      (target.withDialect second).condition source := by
  simp only [Target.condition_eq, Target.readRule_withDialect]
  cases read : target.context.readRule source with
  | error error => rfl
  | ok rule =>
      have neutral : ∀ name, rule.Names name →
          name ≠ Operator.reduce.name ∧ target.registry.has name = false := by
        intro name names
        obtain ⟨operator, isCommon, rfl⟩ := (common rule read).exists_operator_of_names names
        refine ⟨fun same => ?_, ?_⟩
        · exact Operator.ne_reduce_of_isCommon isCommon (Operator.name_injective same)
        · simp [Registry.has]
      change ((target.withDialect first).context.compile rule >>= _) =
        ((target.withDialect second).context.compile rule >>= _)
      rw [target.compile_withDialect_eq neutral first second]
      cases compiled : (target.withDialect second).context.compile rule with
      | error error => rfl
      | ok expression =>
          have written : expression.IsNeutral :=
            Rule.IsCommon.isNeutral_of_compile
              (target.withDialect second).custom_context_operator_name (common rule read) compiled
          exact congrArg Except.ok (written first second)

/-- Orders with a total, a state and a contact whose name holds a quote. -/
def dueSchema : Schema :=
  (Schema.ofFields
    [⟨"total", .number, []⟩, ⟨"state", .enum, ["open", "held"]⟩, ⟨"owner's", .string, []⟩]).toOption.getD
      .empty

/-- Orders that are due: they are not closed, large enough and have a contact. -/
def dueRule : Rule :=
  .operation "and" (.list
    [.operation "in" (.list
      [.operation "var" (.string "state"), .list [.string "open", .string "held"]]),
     .operation ">=" (.list
      [.operation "var" (.list [.string "total", .string "0"]),
       .operation "+" (.list
        [.string "12.50", .operation "-" (.operation "var" (.string "total"))])]),
     .operation "!!" (.operation "var" (.string "owner's")),
     .operation "!" (.operation "missing_some" (.list
      [.number (.integer 1), .list [.string "total", .string "owner's"]]))])

theorem isCommon_dueRule : dueRule.IsCommon (some dueSchema) := by
  have nothing : ∀ operand ∈ ([] : List Rule), operand.IsCommon (some dueSchema) :=
    List.forall_mem_nil _
  have read (name : String) : (Rule.operation "var" (.string name)).IsCommon (some dueSchema) :=
    @Rule.IsCommon.reference _ (.string name) name [] rfl nothing
  refine @Rule.IsCommon.operation _ .and _ rfl ?_ (by simp) (by simp)
  simp only [Rule.operands, List.forall_mem_cons]
  refine ⟨?_, ?_, ?_, ?_, nothing⟩
  · refine .search ?_ (List.forall_mem_singleton.mpr (read "state"))
    simp only [List.forall_mem_cons]
    exact ⟨.string (by decide), .string (by decide), nothing⟩
  · refine @Rule.IsCommon.operation _ .greaterEqual _ rfl ?_ (by simp) (by simp)
    simp only [Rule.operands, List.forall_mem_cons]
    refine ⟨@Rule.IsCommon.reference _ _ "total" [.string "0"] rfl ?_, ?_, nothing⟩
    · exact List.forall_mem_singleton.mpr (.string (by decide))
    · refine @Rule.IsCommon.operation _ .add _ rfl ?_ (by simp) (by simp [Rule.operands])
      simp only [Rule.operands, List.forall_mem_cons]
      refine ⟨.string (by decide), ?_, nothing⟩
      refine @Rule.IsCommon.operation _ .subtract _ rfl ?_ (by simp) (by simp)
      exact List.forall_mem_singleton.mpr (read "total")
  · refine @Rule.IsCommon.operation _ .truthy _ rfl ?_ (fun _ => ?_) (by simp)
    · exact List.forall_mem_singleton.mpr (read "owner's")
    · exact List.forall_mem_singleton.mpr (by decide)
  · refine @Rule.IsCommon.operation _ .not _ rfl ?_ (by simp) (by simp)
    refine List.forall_mem_singleton.mpr ?_
    refine @Rule.IsCommon.missing _ .missingSome _ (.inr rfl) fun operand member name names => ?_
    rw [← Rule.mem_operatorNames_iff] at names
    simp only [Rule.operands, List.mem_cons, List.not_mem_nil, or_false] at member
    rcases member with rfl | rfl <;> simp [Rule.operatorNames, Rule.operatorNamesOfAll] at names

/-- The quote in the name of the contact is written as it is everywhere. -/
theorem condition_same_for_dueRule :
    (((Target.ofDialect .bigQuery).withSchema (some dueSchema)).condition
      (.rule dueRule)).toOption = some
        ("(state IN ('open', 'held') AND COALESCE(total, 0) >= (12.5 + -total) AND " ++
          "(owner's IS NOT NULL AND owner's != '') AND " ++
          "NOT ((total IS NULL AND owner's IS NULL)))") ∧
    ∀ dialect,
      (((Target.ofDialect .bigQuery).withSchema (some dueSchema)).withDialect dialect).condition
          (.rule dueRule) =
        ((Target.ofDialect .bigQuery).withSchema (some dueSchema)).condition (.rule dueRule) := by
  refine ⟨by decide +kernel, fun dialect => ?_⟩
  apply condition_same_in_all_dialects
    ((Target.ofDialect .bigQuery).withSchema (some dueSchema)) _ _ dialect .bigQuery
  rintro _ ⟨⟩
  exact isCommon_dueRule

end RuleClause
