import RuleClause.Proofs.Accumulator
import RuleClause.Proofs.FoldAcceptance
import RuleClause.Proofs.Fragment.Element
import RuleClause.Proofs.Reading.Rows

/-!
# Aggregates compute what folds do

A reducer that adds a number per element to the running value, or keeps the greater or the
lesser of the two, is written as an aggregate where arrays are queried and as the body of a
fold where they are folded.  The number per element has the same text in both, and both have
the value of the left fold of the reducer over the elements, for any number of elements.
-/

namespace RuleClause

/-- The operator of the reducers that an aggregate stands for. -/
def Dialect.Aggregate.operator : Dialect.Aggregate → Operator
  | .sum => .add
  | .max => .max
  | .min => .min

/-- The extremes of two known numbers are the greater and the lesser of them. -/
structure Reading.Interpretation.OrdersPairs (interpretation : Reading.Interpretation) : Prop where
  greatest : ∀ left right : Int,
    interpretation.greatest [some left, some right] = some (max left right)
  least : ∀ left right : Int,
    interpretation.least [some left, some right] = some (min left right)

namespace Fragment

open Reading
open Dialect (Aggregate)

/-- A reducer of the running value and of a number per element. -/
structure Reducer where
  /-- How the two are combined. -/
  aggregate : Aggregate
  /-- The number per element. -/
  value : ElementTerm
  /-- Whether the running value comes before the number. -/
  runningFirst : Bool
  /-- How the name of the running value is written. -/
  writing : Writing

namespace Reducer

/-- Two things in the order of the running value and the number per element. -/
def ordered {α : Type} (reducer : Reducer) (running value : α) : List α :=
  if reducer.runningFirst then [running, value] else [value, running]

@[simp]
theorem map_ordered
    {α β : Type}
    (function : α → β)
    (reducer : Reducer)
    (running value : α) :
    (reducer.ordered running value).map function =
      reducer.ordered (function running) (function value) := by
  cases first : reducer.runningFirst <;> simp [ordered, first]

@[simp]
theorem length_ordered {α : Type} (reducer : Reducer) (running value : α) :
    (reducer.ordered running value).length = 2 := by
  cases first : reducer.runningFirst <;> simp [ordered, first]

/-- Which of the two is the number per element, counted from zero. -/
def valueIndex (reducer : Reducer) : Nat :=
  if reducer.runningFirst then 1 else 0

theorem getElem?_ordered_valueIndex {α : Type} (reducer : Reducer) (running value : α) :
    (reducer.ordered running value)[reducer.valueIndex]? = some value := by
  cases first : reducer.runningFirst <;> simp [ordered, valueIndex, first]

theorem forall_mem_ordered
    {α : Type}
    {holds : α → Prop}
    (reducer : Reducer)
    {running value : α}
    (holdsRunning : holds running)
    (holdsValue : holds value) :
    ∀ item ∈ reducer.ordered running value, holds item := by
  cases first : reducer.runningFirst <;> simp [ordered, first, holdsRunning, holdsValue]

/-- The rule that reads the running value. -/
def running (reducer : Reducer) : Rule :=
  .operation Operator.var.name (reducer.writing.arguments [.string "accumulator"])

/-- A reducer as a rule. -/
def toRule (reducer : Reducer) : Rule :=
  .operation reducer.aggregate.operator.name
    (.list (reducer.ordered reducer.running reducer.value.toRule))

/-- The reduction of an array from an initial number on. -/
def reduction (reducer : Reducer) (operand : Rule) (initial : Int) : Rule :=
  .operation Operator.reduce.name (.list [operand, reducer.toRule, .number (.integer initial)])

/-- The text of the body of a fold. -/
def body (reducer : Reducer) : String :=
  let terms := reducer.ordered "acc" reducer.value.text
  match reducer.aggregate with
  | .sum => Dialect.parenthesized (Dialect.between "+" terms)
  | .max => Dialect.call "GREATEST" terms
  | .min => Dialect.call "LEAST" terms

/-- The text of what a query selects. -/
def selected (reducer : Reducer) (initial : String) : String :=
  let aggregated := Dialect.call reducer.aggregate.function [reducer.value.text]
  match reducer.aggregate with
  | .sum => initial ++ " + " ++ Dialect.call "COALESCE" [aggregated, "0"]
  | .max => Dialect.call "GREATEST" [initial, Dialect.call "COALESCE" [aggregated, initial]]
  | .min => Dialect.call "LEAST" [initial, Dialect.call "COALESCE" [aggregated, initial]]

/-- The text of a reduction in a dialect, around the texts of the array and the initial number. -/
def text (reducer : Reducer) (dialect : Dialect) (source initial : String) : String :=
  let lambda := "(acc, elem) -> " ++ reducer.body
  match dialect with
  | .bigQuery | .spanner | .postgreSQL =>
      "(SELECT " ++ reducer.selected initial ++ " FROM UNNEST(" ++ source ++ ") AS elem)"
  | .duckDB => Dialect.call "list_reduce" [source, lambda, initial]
  | .clickHouse => Dialect.call "arrayFold" [lambda, source, initial]

/-! ## Recognising a reducer -/

theorem mentionsAccumulator_var
    {name : String}
    (other : Arrays.namesAccumulator name = false)
    (writing : Writing) :
    Arrays.mentionsAccumulator
      (.operation Operator.var.name (writing.arguments [.string name])) = false := by
  cases writing <;>
    simp [Arrays.mentionsAccumulator, Arrays.someMentionsAccumulator, Writing.arguments,
      Rule.variableName?, Rule.leadingText?, Operator.name, other]

/-- The number per element does not mention the running value. -/
theorem mentionsAccumulator_term (term : ElementTerm) :
    Arrays.mentionsAccumulator term.toRule = false := by
  induction term with
  | literal value => rfl
  | current writing => exact mentionsAccumulator_var (by decide) writing
  | member name writing =>
      refine mentionsAccumulator_var ?_ writing
      rw [← Bool.not_eq_true, Arrays.namesAccumulator_iff, splitName_member]
      change "current" ≠ "accumulator"
      decide
  | calculation operation first second rest inductionHypothesis =>
      -- a calculation is no variable itself, so that only its operands could mention it
      have unnamed : (Rule.operation operation.operator.name (.list (ElementTerm.toRules
          (first :: second :: rest)))).variableName? = none := by
        cases operation <;> rfl
      have unmentioned : Arrays.someMentionsAccumulator
          (ElementTerm.toRules (first :: second :: rest)) = false := by
        rw [Arrays.someMentionsAccumulator_eq_any, ElementTerm.toRules_eq_map, List.any_map,
          List.any_eq_false]
        exact fun term member => Bool.not_eq_true _ ▸ inductionHypothesis term member
      change (Option.any _ (Rule.operation _ (.list (ElementTerm.toRules
        (first :: second :: rest)))).variableName? || _) = false
      rw [unnamed]
      exact unmentioned

theorem mentionsAccumulator_of_isAccumulator
    {rule : Rule}
    (running : Arrays.isAccumulator rule = true) :
    Arrays.mentionsAccumulator rule = true := by
  obtain ⟨arguments, rest, rfl, _⟩ := Arrays.operands_of_isAccumulator running
  rw [Arrays.isAccumulator, beq_iff_eq] at running
  rw [Arrays.mentionsAccumulator, running]
  rfl

theorem aggregateOf?_toRule (reducer : Reducer) :
    Arrays.aggregateOf? reducer.toRule =
      some (reducer.aggregate, reducer.valueIndex) := by
  have named : Arrays.aggregate? reducer.aggregate.operator.name = some reducer.aggregate := by
    cases reducer.aggregate <;> rfl
  have running : Arrays.isAccumulator reducer.running = true := by
    rw [Reducer.running]
    cases reducer.writing <;> rfl
  have unmentioned := mentionsAccumulator_term reducer.value
  have other : Arrays.isAccumulator reducer.value.toRule = false := by
    rw [← Bool.not_eq_true]
    intro accumulator
    rw [mentionsAccumulator_of_isAccumulator accumulator] at unmentioned
    exact Bool.noConfusion unmentioned
  cases first : reducer.runningFirst <;>
    simp [toRule, ordered, valueIndex, Arrays.aggregateOf?, Arrays.valueIndex?, first, named,
      running, other, unmentioned]

/-! ## Compiling a reduction -/

/-- An aggregate as it is written in the body of a fold, with two terms. -/
def combined : Aggregate → List Sql → Sql
  | .sum, terms => .group .add terms
  | .max, terms => .call .greatest terms
  | .min, terms => .call .least terms

theorem run_plan_operator
    {answer : Request → Except Error Sql}
    {dialect : Dialect}
    {setting : Setting}
    {call : Call}
    {expressions : List Sql}
    (aggregate : Aggregate)
    (two : call.operands.length = 2)
    (asked : (Arithmetic.terms setting call).run answer = .ok expressions) :
    (aggregate.operator.plan dialect setting call).run answer =
      .ok (combined aggregate expressions) := by
  obtain ⟨first, second, operands⟩ := List.length_eq_two.mp two
  cases aggregate with
  | sum =>
      change (Arithmetic.add setting call).run answer = _
      rw [Arithmetic.add_eq_chain setting operands]
      exact (Arithmetic.run_chain_eq_ok_iff _ _).mpr ⟨by omega, expressions, asked, rfl⟩
  | max | min =>
      exact (Arithmetic.run_extremum_eq_ok_iff _ _).mpr ⟨by omega, expressions, asked, rfl⟩

/-- What combines the texts of the two terms is the body of a fold. -/
theorem render_combined
    {dialect : Dialect}
    {reducer : Reducer}
    {expressions : List Sql}
    (rendered : Sql.renderAll dialect expressions = reducer.ordered "acc" reducer.value.text) :
    (combined reducer.aggregate expressions).render dialect = reducer.body := by
  cases kind : reducer.aggregate <;>
    simp [combined, Sql.render, rendered, body, kind, Function.name, BinaryOp.symbol]

theorem folded_eq_text
    {dialect : Dialect}
    {functions : Dialect.LambdaForm}
    (form : dialect.forms.iteration = .lambda functions)
    (reducer : Reducer)
    (source initial : String) :
    functions.folded source reducer.body initial = reducer.text dialect source initial := by
  cases dialect with
  | bigQuery | spanner | postgreSQL => simp [Dialect.forms] at form
  | duckDB | clickHouse =>
      simp only [Dialect.forms, Dialect.IterationForm.lambda.injEq] at form
      subst form
      rfl

theorem aggregated_eq_text
    {dialect : Dialect}
    {naming : Dialect.NamingForm}
    (form : dialect.forms.iteration = .subquery naming)
    (reducer : Reducer)
    (source initial : String) :
    naming.aggregated reducer.aggregate source reducer.value.text initial =
      reducer.text dialect source initial := by
  have combined : Dialect.NamingForm.plain.aggregated reducer.aggregate source reducer.value.text
      initial = "(SELECT " ++ reducer.selected initial ++ " FROM " ++
        ("UNNEST(" ++ source ++ ") AS " ++ "elem") ++ ")" := by
    rw [selected]
    cases reducer.aggregate <;> rfl
  have query : "(SELECT " ++ reducer.selected initial ++ " FROM " ++
      ("UNNEST(" ++ source ++ ") AS " ++ "elem") ++ ")" =
        "(SELECT " ++ reducer.selected initial ++ " FROM UNNEST(" ++ source ++ ") AS elem)" := by
    rw [show " FROM UNNEST(" = " FROM " ++ "UNNEST(" from rfl,
      show ") AS elem)" = ") AS " ++ "elem" ++ ")" from rfl]
    simp only [String.append_assoc]
  cases dialect with
  | duckDB | clickHouse => simp [Dialect.forms] at form
  | bigQuery | spanner | postgreSQL =>
      simp only [Dialect.forms, Dialect.IterationForm.subquery.injEq] at form
      subst form
      exact combined.trans query

section

variable {context : Context (Except Error)}
  (builtin : ∀ operator : Operator, context.custom operator.name = none)
include builtin

theorem yields_running (reducer : Reducer) :
    context.Yields .reduction (spelled context reducer.running "acc") := by
  have refers : Reference.inReduction? "accumulator" = some (.bound .accumulator none) := rfl
  intro position hint fits
  obtain ⟨_, compiled, rfl⟩ :=
    yields_var_reduction builtin refers reducer.writing position hint fits
  exact ⟨_, compiled, rfl⟩

/-- Inside a reduction, a reducer yields the body of a fold. -/
theorem yields (reducer : Reducer) :
    context.Yields .reduction (spelled context reducer.toRule reducer.body) := by
  let terms := reducer.ordered (reducer.running, "acc") (reducer.value.toRule, reducer.value.text)
  have listed : (Rule.list (reducer.ordered reducer.running reducer.value.toRule)).operands =
      (terms.map fun term => spelled context term.1 term.2).map (·.rule) := by
    simp [terms, Rule.operands, spelled]
  have each : ∀ term ∈ terms, context.Yields .reduction (spelled context term.1 term.2) :=
    reducer.forall_mem_ordered (yields_running builtin reducer) (reducer.value.yields builtin)
  refine Context.yields_operation (builtin _) (some .number) listed
    (List.forall_mem_map.mpr each) ?_
  intro answer path expressions answered suit
  have two := reducer.length_ordered reducer.running reducer.value.toRule
  have length : expressions.length =
      (reducer.ordered reducer.running reducer.value.toRule).length := by
    simpa [terms] using suit.length_eq.symm
  refine ⟨combined reducer.aggregate expressions,
    run_plan_operator _ two (run_terms_inside (by simp) length answered), ?_⟩
  exact render_combined (by simpa [terms] using renderAll_of_spelled suit)

section

variable {operand : Rule} {position : Position} {initial : Int} (reducer : Reducer)

/-- How the requests of a reduction are met. -/
abbrev answered
    (context : Context (Except Error))
    (position : Position)
    (operand : Rule)
    (initial : Int) : Request → Except Error Sql :=
  OperandCompiler.answer (operandsAt context Operator.reduce.name
    (.list [operand, reducer.toRule, .number (.integer initial)]) position)

/-- Where the reducer as a whole is asked for, it is the body of a fold. -/
theorem exists_answered_body
    (fits : reducer.toRule.Fits (position.depth + 1) context.maxDepth) :
    ∃ body, reducer.answered context position operand initial ⟨.operand 1, .reduction, none⟩ =
        .ok body ∧
      body.render context.dialect = reducer.body := by
  obtain ⟨body, compiled, rendered⟩ := reducer.yields builtin
    (position.argument Operator.reduce.name (some 1)) none fits
  exact ⟨body, (answer_operand rfl _ _).trans compiled, rendered⟩

/-- Where the number per element is asked for, it has its text. -/
theorem exists_answered_value
    (fits : reducer.toRule.Fits (position.depth + 1) context.maxDepth) :
    ∃ value, reducer.answered context position operand initial
        ⟨.part 1 reducer.valueIndex, .reduction, some .number⟩ = .ok value ∧
      value.render context.dialect = reducer.value.text := by
  have found := reducer.getElem?_ordered_valueIndex reducer.running reducer.value.toRule
  obtain ⟨_, within⟩ := (Rule.Fits.operation_iff _ _).mp fits
  obtain ⟨value, compiled, rendered⟩ := reducer.value.yields builtin
    ((position.argument Operator.reduce.name (some 1)).part reducer.toRule reducer.valueIndex)
    (some .number) (within _ (List.mem_of_getElem? found))
  refine ⟨value, ?_, rendered⟩
  have picked : (Selection.part 1 reducer.valueIndex).pick? Operator.reduce.name
      (.list [operand, reducer.toRule, .number (.integer initial)]) position =
        some (reducer.value.toRule, (position.argument Operator.reduce.name (some 1)).part
          reducer.toRule reducer.valueIndex) := by
    change Option.map _ (reducer.ordered _ _)[reducer.valueIndex]? = _
    rw [found]
    rfl
  rw [answered, answer_operandsAt, picked]
  exact compiled

/-- A reduction whose array compiles does so in the form of the dialect. -/
theorem exists_compileAt_reduction
    {source : Sql}
    (hint : Option FieldType)
    (fits : (reducer.reduction operand initial).Fits position.depth context.maxDepth)
    (admitted : Setting.Admits ⟨context.schema, .row⟩ .array operand)
    (compiled : compileAt context operand (position.argument Operator.reduce.name (some 0)) .row
      none = .ok source) :
    ∃ expression,
      compileAt context (reducer.reduction operand initial) position .row hint = .ok expression ∧
        expression.render context.dialect =
          reducer.text context.dialect (source.render context.dialect)
            (Number.integer initial).text := by
  obtain ⟨bound, within⟩ := (Rule.Fits.operation_iff _ _).mp fits
  have fitsReducer := within reducer.toRule (by simp [Rule.operands])
  have askedArray : reducer.answered context position operand initial
      (Setting.operandRequest ⟨context.schema, .row⟩ none 0) = .ok source :=
    (answer_operand rfl _ _).trans compiled
  have askedFirst : reducer.answered context position operand initial
      (Setting.operandRequest ⟨context.schema, .row⟩ none 2) = .ok (.ofNumber (.integer initial)) :=
    (answer_operand rfl _ _).trans rfl
  simp only [reduction, compileAt_operator_eq_ok_iff (builtin .reduce)]
  cases form : context.dialect.forms.iteration with
  | lambda functions =>
      obtain ⟨body, asked, rendered⟩ := exists_answered_body builtin reducer fitsReducer
      refine ⟨_, ⟨bound, Arrays.run_reduce_of_lambda form rfl admitted askedArray askedFirst asked⟩,
        ?_⟩
      rw [Sql.render, rendered]
      exact folded_eq_text form reducer _ _
  | subquery naming =>
      obtain ⟨value, asked, rendered⟩ := exists_answered_value builtin reducer fitsReducer
      refine ⟨_, ⟨bound, Arrays.run_reduce_of_subquery form rfl reducer.aggregateOf?_toRule admitted
        askedArray askedFirst asked⟩, ?_⟩
      rw [Sql.render, rendered]
      exact aggregated_eq_text form reducer _ _

end

end

/-! ## The value of what a query selects -/

/-- The text of an integer reads as a constant. -/
theorem exists_spells_integer (value : Int) :
    ∃ expression, Spells 7 (Number.integer value).text expression ∧
      ∀ interpretation rows, expression.evalOver interpretation rows = some (.number value) := by
  rcases canonicalText_integer value with ⟨negative, text⟩ | ⟨natural, text⟩
  · obtain ⟨magnitude, rfl⟩ : ∃ magnitude : Nat, value = -magnitude := ⟨value.natAbs, by omega⟩
    rw [Int.natAbs_neg, Int.natAbs_natCast, Number.canonicalText] at text
    rw [text]
    exact ⟨_, .minusDigits magnitude, fun _ _ => rfl⟩
  · obtain ⟨magnitude, rfl⟩ : ∃ magnitude : Nat, value = magnitude := ⟨value.natAbs, by omega⟩
    rw [Int.natAbs_natCast, Number.canonicalText] at text
    rw [text]
    exact ⟨_, .digits magnitude, fun _ _ => rfl⟩

section

variable {interpretation : Interpretation} {rows : List Row}

theorem evalOver_extreme
    {left right : Expression}
    {first second : Int}
    (extreme : Extreme)
    (evaluatesLeft : left.evalOver interpretation rows = some (.number first))
    (evaluatesRight : right.evalOver interpretation rows = some (.number second)) :
    (Expression.call extreme.function.name [left, right]).evalOver interpretation rows =
      some (.ofNumber (extreme.apply interpretation [some first, some second])) := by
  have ordinary : Aggregate.ofFunction? extreme.function.name = none := by
    cases extreme <;> decide
  have other : extreme.function.name ≠ Function.coalesce.name := by
    cases extreme <;> decide
  simp only [Expression.evalOver, ordinary, Expression.evalAllOver, evaluatesLeft, evaluatesRight,
    if_neg other]
  exact invoke_extreme interpretation extreme [some first, some second]

/-- An initial number to which an aggregate is added, or nothing if there is none. -/
theorem evaluateOver_sum
    {aggregated initial : String}
    {expression first : Expression}
    {number : Option Int}
    {start : Int}
    (spells : Spells 1 aggregated expression)
    (spellsFirst : Spells 7 initial first)
    (evaluates : expression.evalOver interpretation rows = some (.ofNumber number))
    (evaluatesFirst : first.evalOver interpretation rows = some (.number start)) :
    evaluateOver interpretation rows
        (initial ++ " + " ++ Dialect.call Function.coalesce.name [aggregated, "0"]) =
      some (.number (start + number.getD 0)) := by
  have coalesced : Spells 6 (Dialect.call Function.coalesce.name [aggregated, "0"])
      (.call Function.coalesce.name [expression, .numeral 0]) :=
    .callPair (Denotes.isIdentifier_name _) spells .zero
  have whole : Spells 5 (initial ++ " + " ++ Dialect.call Function.coalesce.name [aggregated, "0"])
      (.binary .add first (.call Function.coalesce.name [expression, .numeral 0])) :=
    .add (spellsFirst.mono (by decide)) coalesced
  have known : (Expression.call Function.coalesce.name [expression, .numeral 0]).evalOver
      interpretation rows = some (.number (number.getD 0)) :=
    evalOver_coalesce evaluates rfl
  rw [evaluateOver, whole.read_eq]
  change ((first.evalOver interpretation rows).bind fun left =>
    ((Expression.call _ _).evalOver interpretation rows).bind fun right =>
      combine interpretation .add left right) = _
  rw [evaluatesFirst, known]
  rfl

/-- An initial number or an aggregate, whichever is the extreme of the two. -/
theorem evaluateOver_extreme
    {aggregated initial : String}
    {expression first : Expression}
    {number : Option Int}
    {start : Int}
    (extreme : Extreme)
    (spells : Spells 1 aggregated expression)
    (spellsFirst : Spells 1 initial first)
    (evaluates : expression.evalOver interpretation rows = some (.ofNumber number))
    (evaluatesFirst : first.evalOver interpretation rows = some (.number start)) :
    evaluateOver interpretation rows (Dialect.call extreme.function.name
        [initial, Dialect.call Function.coalesce.name [aggregated, initial]]) =
      some (.ofNumber (extreme.apply interpretation [some start, some (number.getD start)])) := by
  have coalesced : Spells 1 (Dialect.call Function.coalesce.name [aggregated, initial])
      (.call Function.coalesce.name [expression, first]) :=
    .callPair (Denotes.isIdentifier_name _) spells spellsFirst
  have whole : Spells 1 (Dialect.call extreme.function.name
      [initial, Dialect.call Function.coalesce.name [aggregated, initial]])
      (.call extreme.function.name [first, .call Function.coalesce.name [expression, first]]) :=
    .callPair (Denotes.isIdentifier_name _) spellsFirst coalesced
  rw [evaluateOver, whole.read_eq]
  exact evalOver_extreme extreme evaluatesFirst (evalOver_coalesce evaluates evaluatesFirst)

/-- What a query selects from rows is the left fold over the numbers of the rows. -/
theorem evaluateOver_selected
    {reducer : Reducer}
    {numbers : List Int}
    (readable : reducer.value.Readable)
    (orders : interpretation.OrdersPairs)
    (known : rows.map (reducer.value.value interpretation) = numbers.map some)
    (initial : Int) :
    evaluateOver interpretation rows (reducer.selected (Number.integer initial).text) =
      some (.number (numbers.foldl reducer.aggregate.step initial)) := by
  obtain ⟨first, spellsFirst, evaluatesFirst⟩ := exists_spells_integer initial
  obtain ⟨value, spellsValue, evaluatesValue⟩ :=
    (ElementTerm.denotes .bigQuery readable).exists_spells
  have spells : Spells 1 (Dialect.call reducer.aggregate.function [reducer.value.text])
      (.call reducer.aggregate.function [value]) :=
    .call (isIdentifier_function _) (spellsValue.mono (by decide))
  have evaluates := evalOver_aggregate reducer.aggregate (evaluatesValue interpretation) known
  have starts := evaluatesFirst interpretation rows
  rw [← Aggregate.total_collect, selected]
  -- each form is put around the same aggregate, of which only the text and the value matter
  generalize Dialect.call reducer.aggregate.function [reducer.value.text] = text at spells ⊢
  generalize reducer.aggregate.collect numbers = aggregated at evaluates ⊢
  cases reducer.aggregate with
  | sum => exact evaluateOver_sum spells spellsFirst evaluates starts
  | max =>
      refine (evaluateOver_extreme .greatest spells (spellsFirst.mono (by decide)) evaluates
        starts).trans ?_
      rw [Extreme.apply, orders.greatest]
      rfl
  | min =>
      refine (evaluateOver_extreme .least spells (spellsFirst.mono (by decide)) evaluates
        starts).trans ?_
      rw [Extreme.apply, orders.least]
      rfl

end

/-! ## The value of a fold -/

/-- The name of the running value is none of the names of an element. -/
theorem value_withRunning
    (interpretation : Interpretation)
    (running : Option Int)
    (row : Row)
    (term : ElementTerm) :
    term.value interpretation (withRunning running row) = term.value interpretation row := by
  induction term with
  | literal value => rfl
  | current writing => rfl
  | member name writing =>
      have other : ElementTerm.memberName name ≠ Dialect.accumulatorName := by
        intro same
        have characters := congrArg String.toList same
        simp [ElementTerm.memberName, Dialect.elementName, Dialect.accumulatorName] at characters
      simp only [ElementTerm.value, withRunning, if_neg other]
  | calculation operation first second rest inductionHypothesis =>
      simp only [List.mem_cons, forall_eq_or_imp] at inductionHypothesis
      obtain ⟨ofFirst, ofSecond, ofRest⟩ := inductionHypothesis
      simp only [ElementTerm.value, ElementTerm.values_eq_map, ofFirst, ofSecond,
        List.map_congr_left ofRest]

/-- What an aggregate makes of two numbers in the body of a fold; null is left to the database. -/
def paired (interpretation : Interpretation) : Aggregate → Option Int → Option Int → Option Int
  | .sum, left, right => Calculation.add.apply interpretation left right
  | .max, left, right => interpretation.greatest [left, right]
  | .min, left, right => interpretation.least [left, right]

theorem paired_of_known
    {interpretation : Interpretation}
    (orders : interpretation.OrdersPairs)
    (aggregate : Aggregate)
    (left right : Int) :
    paired interpretation aggregate (some left) (some right) =
      some (aggregate.step left right) := by
  cases aggregate with
  | sum => rfl
  | max => exact orders.greatest left right
  | min => exact orders.least left right

theorem denotes_combined
    {dialect : Dialect}
    {left right : Sql}
    {leftNumber rightNumber : Interpretation → Row → Option Int}
    (aggregate : Aggregate)
    (denotesLeft : Denotes dialect 7 left fun interpretation row =>
      .ofNumber (leftNumber interpretation row))
    (denotesRight : Denotes dialect 7 right fun interpretation row =>
      .ofNumber (rightNumber interpretation row)) :
    Denotes dialect 1 (combined aggregate [left, right]) fun interpretation row =>
      .ofNumber (paired interpretation aggregate (leftNumber interpretation row)
        (rightNumber interpretation row)) := by
  cases aggregate with
  | sum =>
      refine .group (denotesLeft.mono (by decide)) (.cons (denotesRight.mono (by decide)) .nil) ?_
      intro interpretation row
      exact foldlM_combine interpretation (combine_calculation interpretation .add) _ [_]
  | max =>
      refine .call denotesLeft (.cons denotesRight .nil) (by decide) fun interpretation row => ?_
      exact invoke_extreme interpretation .greatest [_, _]
  | min =>
      refine .call denotesLeft (.cons denotesRight .nil) (by decide) fun interpretation row => ?_
      exact invoke_extreme interpretation .least [_, _]

theorem step_comm (aggregate : Aggregate) (left right : Int) :
    aggregate.step left right = aggregate.step right left := by
  cases aggregate with
  | sum => exact Int.add_comm left right
  | max => exact Int.max_comm left right
  | min => exact Int.min_comm left right

/-- The body of a fold reads as what takes a known running value one step further. -/
theorem exists_spells_body
    {reducer : Reducer}
    (readable : reducer.value.Readable) :
    ∃ expression, Spells 1 reducer.body expression ∧
      ∀ interpretation, interpretation.OrdersPairs → ∀ row running number,
        row Dialect.accumulatorName = some running →
        reducer.value.value interpretation row = some number →
        expression.eval interpretation row =
          some (.number (reducer.aggregate.step running number)) := by
  have ofRunning : Denotes .bigQuery 7 (.fragment "acc") fun _ row =>
      .ofNumber (row Dialect.accumulatorName) :=
    (Denotes.column (show IsIdentifier Dialect.accumulatorName by decide)).of_render_eq
      (by simp only [Sql.render, Dialect.accumulatorName])
  have ofValue := ElementTerm.denotes .bigQuery readable
  have written : ∀ terms, terms = reducer.ordered (.fragment "acc") (.fragment reducer.value.text) →
      (combined reducer.aggregate terms).render .bigQuery = reducer.body := by
    rintro _ rfl
    refine render_combined ?_
    rw [Sql.renderAll_eq_map, map_ordered, Sql.render, Sql.render]
  cases first : reducer.runningFirst with
  | true =>
      obtain ⟨expression, spells, evaluates⟩ :=
        (denotes_combined reducer.aggregate ofRunning ofValue).exists_spells
      rw [written _ (by simp [ordered, first])] at spells
      refine ⟨expression, spells, ?_⟩
      intro interpretation orders row running number bound found
      rw [evaluates, bound, found, paired_of_known orders]
      rfl
  | false =>
      -- the number stands on the left of the running value, which a step does not mind
      obtain ⟨expression, spells, evaluates⟩ :=
        (denotes_combined reducer.aggregate ofValue ofRunning).exists_spells
      rw [written _ (by simp [ordered, first])] at spells
      refine ⟨expression, spells, ?_⟩
      intro interpretation orders row running number bound found
      rw [evaluates, bound, found, paired_of_known orders, step_comm]
      rfl

/-- What a fold over rows gives is the left fold over the numbers of the rows. -/
theorem evaluateFold_body
    {interpretation : Interpretation}
    {rows : List Row}
    {reducer : Reducer}
    {numbers : List Int}
    (readable : reducer.value.Readable)
    (orders : interpretation.OrdersPairs)
    (known : rows.map (reducer.value.value interpretation) = numbers.map some)
    (initial : Int) :
    evaluateFold interpretation rows reducer.body (Number.integer initial).text =
      some (.number (numbers.foldl reducer.aggregate.step initial)) := by
  obtain ⟨body, spells, evaluates⟩ := exists_spells_body readable
  obtain ⟨first, spellsFirst, evaluatesFirst⟩ := exists_spells_integer initial
  have started : evaluateOver interpretation [] (Number.integer initial).text =
      some (.number initial) := by
    rw [evaluateOver, spellsFirst.read_eq]
    exact evaluatesFirst interpretation []
  rw [evaluateFold, spells.read_eq, started]
  refine foldOver_eq_foldl (fun running number row found => ?_) known initial
  refine evaluates interpretation orders _ running number rfl ?_
  rw [value_withRunning, found]

end Reducer

/--
A reduction of this kind compiles for every dialect as soon as its array does.  The number per
element has one text, which is the same inside of an aggregate and inside of a fold, and which
reads as the number.  For any elements whose numbers are known, what the query selects and what
the fold gives have the same value: that of the left fold of the reducer from the initial number.
-/
theorem aggregate_eq_fold
    (target : Target)
    (reducer : Reducer)
    (operand : Rule)
    (initial : Int)
    (position : Position)
    (hint : Option FieldType)
    (source : Dialect → Sql)
    (fits : (reducer.reduction operand initial).Fits position.depth target.maxDepth)
    (admitted : Setting.Admits ⟨target.schema, .row⟩ .array operand)
    (compiled : ∀ dialect, compileAt (target.withDialect dialect).context operand
      (position.argument Operator.reduce.name (some 0)) .row none = .ok (source dialect)) :
    (∀ dialect, ∃ expression,
        compileAt (target.withDialect dialect).context (reducer.reduction operand initial) position
          .row hint = .ok expression ∧
        expression.render dialect =
          reducer.text dialect ((source dialect).render dialect) (Number.integer initial).text) ∧
      (reducer.value.Readable → ∀ interpretation : Interpretation, interpretation.OrdersPairs →
        (∀ row, evaluate interpretation row reducer.value.text =
          some (.ofNumber (reducer.value.value interpretation row))) ∧
        ∀ (rows : List Row) (numbers : List Int),
          rows.map (reducer.value.value interpretation) = numbers.map some →
          evaluateOver interpretation rows (reducer.selected (Number.integer initial).text) =
              some (.number (numbers.foldl reducer.aggregate.step initial)) ∧
            evaluateFold interpretation rows reducer.body (Number.integer initial).text =
              some (.number (numbers.foldl reducer.aggregate.step initial))) := by
  refine ⟨fun dialect => ?_, fun readable interpretation orders => ⟨fun row => ?_, ?_⟩⟩
  · have builtin := (target.withDialect dialect).custom_context_operator_name
    exact Reducer.exists_compileAt_reduction builtin reducer hint fits admitted (compiled dialect)
  · exact (ElementTerm.denotes .bigQuery readable).evaluate_eq interpretation row
  · intro rows numbers known
    exact ⟨Reducer.evaluateOver_selected readable orders known initial,
      Reducer.evaluateFold_body readable orders known initial⟩

/-- The greatest margin of some items over a price of three. -/
def greatestMargin : Reducer where
  aggregate := .max
  value := .calculation .subtract (.member "price" .bare) (.literal 3) []
  runningFirst := false
  writing := .bare

/-- A database whose extremes leave null out. -/
def lenient : Interpretation where
  divide _ _ := none
  greatest numbers := (numbers.filterMap id).max?
  least numbers := (numbers.filterMap id).min?

theorem aggregate_eq_fold_of_greatestMargin :
    (∀ dialect, compileAt ((Target.ofDialect .duckDB).withDialect dialect).context
        (.operation Operator.var.name (.string "items"))
        (Position.start.argument Operator.reduce.name (some 0)) .row none =
          .ok (.column "items")) ∧
      lenient.OrdersPairs ∧
      evaluateOver lenient [fun _ => some 4, fun _ => some 10]
        "GREATEST(-5, COALESCE(MAX((elem.price - 3)), -5))" = some (.number 7) ∧
      evaluateFold lenient [fun _ => some 4, fun _ => some 10]
        "GREATEST((elem.price - 3), acc)" "-5" = some (.number 7) := by
  have compiled : ∀ dialect, compileAt ((Target.ofDialect .duckDB).withDialect dialect).context
      (.operation Operator.var.name (.string "items"))
      (Position.start.argument Operator.reduce.name (some 0)) .row none =
        .ok (.column "items") := by
    intro dialect
    cases dialect <;> rfl
  have orders : lenient.OrdersPairs := ⟨fun _ _ => rfl, fun _ _ => rfl⟩
  have fits : (greatestMargin.reduction (.operation Operator.var.name (.string "items")) (-5)).Fits
      Position.start.depth (Target.ofDialect .duckDB).maxDepth := by
    simp [greatestMargin, Reducer.reduction, Reducer.toRule, Reducer.ordered, Reducer.running,
      ElementTerm.toRule, ElementTerm.toRules, Writing.arguments, Rule.operands, Position.start,
      Target.ofDialect, defaultMaxDepth]
  have agrees := aggregate_eq_fold (Target.ofDialect .duckDB) greatestMargin
    (.operation Operator.var.name (.string "items")) (-5) .start none (fun _ => .column "items")
    fits (Setting.admits_untyped _ _) compiled
  exact ⟨compiled, orders, (agrees.2 (by decide) lenient orders).2
    [fun _ => some 4, fun _ => some 10] [1, 7] rfl⟩

end Fragment
end RuleClause
