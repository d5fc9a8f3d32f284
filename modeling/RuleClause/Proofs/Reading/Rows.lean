import RuleClause.Proofs.Reading.Meaning

/-!
# Values over many rows

A query selects one value from many rows.  An aggregate makes one number of the numbers
that an expression has in the rows; null is left out, and what is made of nothing is null.
All else that is selected is computed from aggregates and constants.

A fold goes through the rows one after the other.  Its body is evaluated in each row, with
the running value under a name of its own, and gives the next running value.
-/

namespace RuleClause
namespace Dialect.Aggregate

/-- The function of an aggregate. -/
def function : Aggregate → String
  | .sum => "SUM"
  | .max => "MAX"
  | .min => "MIN"

/-- The aggregate that a function stands for. -/
def ofFunction? (function : String) : Option Aggregate :=
  [sum, max, min].find? (·.function == function)

@[simp]
theorem ofFunction?_function (aggregate : Aggregate) :
    ofFunction? aggregate.function = some aggregate := by
  cases aggregate <;> decide

/-- What an aggregate makes of some numbers; of none it makes null. -/
def collect : Aggregate → List Int → Option Int
  | .sum, [] => none
  | .sum, numbers => some (numbers.foldl (· + ·) 0)
  | .max, numbers => numbers.max?
  | .min, numbers => numbers.min?

/-- The next running value, in place of an aggregate. -/
def step : Aggregate → Int → Int → Int
  | .sum => (· + ·)
  | .max => Max.max
  | .min => Min.min

/-- An initial number together with what an aggregate has made of others. -/
def total (initial : Int) (aggregated : Option Int) : Aggregate → Int
  | .sum => initial + aggregated.getD 0
  | .max => Max.max initial (aggregated.getD initial)
  | .min => Min.min initial (aggregated.getD initial)

/-- Taking the numbers one by one comes to the same as taking all of them at once. -/
theorem total_collect (aggregate : Aggregate) (initial : Int) (numbers : List Int) :
    aggregate.total initial (aggregate.collect numbers) = numbers.foldl aggregate.step initial := by
  cases aggregate with
  | sum =>
      have shifted : numbers.foldl (· + ·) (initial + 0) =
          initial + numbers.foldl (· + ·) 0 :=
        List.foldl_assoc
      rw [Int.add_zero] at shifted
      rw [step, shifted]
      cases numbers <;> rfl
  | max => exact List.foldl_max.symm
  | min => exact List.foldl_min.symm

end Dialect.Aggregate

namespace Reading

open Dialect (Aggregate)

/-- The number that an aggregate makes of what an expression is in each row. -/
def aggregateOver
    (interpretation : Interpretation)
    (rows : List Row)
    (aggregate : Aggregate)
    (argument : Expression) : Option Value := do
  let numbers ← rows.mapM fun row => do (← argument.eval interpretation row).number?
  return .ofNumber (aggregate.collect (numbers.filterMap id))

/-- The first value that is not null. -/
def firstKnown (values : List Value) : Value :=
  (values.find? (· ≠ .null)).getD .null

/-- A row in which the running value of a fold stands under its name. -/
def withRunning (running : Option Int) (row : Row) : Row :=
  fun name => if name = Dialect.accumulatorName then running else row name

namespace Expression

mutual

/--
The value of an expression that is selected from rows.  A column has no value outside of an
aggregate, and choices are not looked into.
-/
def evalOver (interpretation : Interpretation) (rows : List Row) : Expression → Option Value
  | .null => some .null
  | .bool value => some (.truth value)
  | .numeral value => some (.number value)
  | .minus operand => do
      let value ← (← operand.evalOver interpretation rows).number?
      return .ofNumber (value.map fun number => -number)
  | .not operand => do
      let value ← (← operand.evalOver interpretation rows).truth?
      return .ofTruth (value.map fun truth => ! truth)
  | .test operand kind => do examine kind (← operand.evalOver interpretation rows)
  | .binary operator left right => do
      combine interpretation operator (← left.evalOver interpretation rows)
        (← right.evalOver interpretation rows)
  | .call function arguments =>
      match Aggregate.ofFunction? function with
      | some aggregate =>
          match arguments with
          | [argument] => aggregateOver interpretation rows aggregate argument
          | _ => none
      | none => do
          let values ← evalAllOver interpretation rows arguments
          if function = Function.coalesce.name then return firstKnown values
          else invoke interpretation function values
  | .column _ | .cases .. => none

/-- The values of expressions that are selected from rows, one by one. -/
def evalAllOver
    (interpretation : Interpretation)
    (rows : List Row) : List Expression → Option (List Value)
  | [] => some []
  | first :: rest => do
      return (← first.evalOver interpretation rows) :: (← evalAllOver interpretation rows rest)

end

/-- The running value after all rows, if it starts with the given one. -/
def foldOver
    (interpretation : Interpretation)
    (rows : List Row)
    (body : Expression)
    (running : Value) : Option Value :=
  rows.foldlM (fun running row => do
    body.eval interpretation (withRunning (← running.number?) row)) running

end Expression

/-- The value of what a text selects from rows. -/
def evaluateOver
    (interpretation : Interpretation)
    (rows : List Row)
    (text : String) : Option Value := do
  (← read text).evalOver interpretation rows

/-- The value of a fold over rows, by the texts of its body and of its initial value. -/
def evaluateFold
    (interpretation : Interpretation)
    (rows : List Row)
    (body initial : String) : Option Value := do
  (← read body).foldOver interpretation rows (← evaluateOver interpretation [] initial)

example :
    let interpretation : Interpretation := ⟨fun _ _ => none, fun _ => none, fun _ => none⟩
    let row (number : Int) : Row := fun _ => some number
    evaluateOver interpretation [row 3, row 4] "1 + COALESCE(SUM((a * 2)), 0)" =
        some (.number 15) ∧
      evaluateOver interpretation [] "1 + COALESCE(SUM((a * 2)), 0)" = some (.number 1) ∧
      evaluateFold interpretation [row 3, row 4] "(acc + (a * 2))" "1" = some (.number 15) := by
  decide

/-! ## Texts that read as an expression -/

/-- A text reads as an expression of a level. -/
def Spells (level : Nat) (text : String) (expression : Expression) : Prop :=
  ∃ tokens, tokenize text = some tokens ∧ Reads level tokens expression

/-- What denotes a value is the text of an expression with that value. -/
theorem Denotes.exists_spells
    {dialect : Dialect}
    {level : Nat}
    {sql : Sql}
    {meaning : Meaning}
    (denotes : Denotes dialect level sql meaning) :
    ∃ expression, Spells level (sql.render dialect) expression ∧
      ∀ interpretation row,
        expression.eval interpretation row = some (meaning interpretation row) := by
  obtain ⟨tokens, expression, tokenizes, reads, evaluates⟩ := denotes
  exact ⟨expression, ⟨tokens, tokenizes, reads⟩, evaluates⟩

namespace Spells

variable
  {level outer : Nat}
  {text left right function : String}
  {expression leftSide rightSide : Expression}

theorem mono {lower : Nat} (spells : Spells level text expression) (bound : lower ≤ level) :
    Spells lower text expression := by
  obtain ⟨tokens, tokenizes, reads⟩ := spells
  exact ⟨tokens, tokenizes, reads.mono bound⟩

theorem read_eq (spells : Spells level text expression) : read text = some expression := by
  obtain ⟨tokens, tokenizes, reads⟩ := spells
  have through := reads [] [] (by simp [Below]) ends_nil
  rw [List.append_nil] at through
  rw [read, tokenizes]
  exact through

theorem digits (value : Nat) :
    Spells level (String.ofList (Nat.toDigits 10 value)) (.numeral value) :=
  ⟨_, tokenize_toDigits value, .numeral value⟩

theorem minusDigits (value : Nat) :
    Spells 7 ("-" ++ String.ofList (Nat.toDigits 10 value)) (.minus (.numeral value)) := by
  refine ⟨_, tokenize_minus_append ?_ (tokenize_toDigits value), (Reads.numeral value).minus⟩
  intro character found
  have member : character ∈ Nat.toDigits 10 value :=
    List.mem_of_head? (by simpa using found)
  exact isWordCharacter_of_isDigit (Nat.isDigit_of_mem_toDigits (by decide) (by decide) member)

theorem zero : Spells level "0" (.numeral 0) :=
  ⟨_, (by decide : tokenize "0" = some [.numeral 0]), .numeral 0⟩

theorem add
    (first : Spells (precedence .add) left leftSide)
    (second : Spells (precedence .add + 1) right rightSide) :
    Spells (precedence .add) (left ++ " + " ++ right) (.binary .add leftSide rightSide) := by
  obtain ⟨leftTokens, tokenizesLeft, readsLeft⟩ := first
  obtain ⟨rightTokens, tokenizesRight, readsRight⟩ := second
  have separator : tokenize " + " = some [.operator .add] := by decide
  refine ⟨_, tokenize_between (by decide) (by decide) separator tokenizesLeft tokenizesRight, ?_⟩
  simpa [interleave] using readsLeft.chain (.cons readsRight .nil)

theorem call
    (identifier : IsIdentifier function)
    (spells : Spells 1 text expression) :
    Spells outer (Dialect.call function [text]) (.call function [expression]) := by
  obtain ⟨tokens, tokenizes, reads⟩ := spells
  exact ⟨_, Denotes.tokenize_call identifier (.cons tokenizes .nil),
    reads.call (by decide) .nil function⟩

theorem callPair
    (identifier : IsIdentifier function)
    (first : Spells 1 left leftSide)
    (second : Spells 1 right rightSide) :
    Spells outer (Dialect.call function [left, right]) (.call function [leftSide, rightSide]) := by
  obtain ⟨leftTokens, tokenizesLeft, readsLeft⟩ := first
  obtain ⟨rightTokens, tokenizesRight, readsRight⟩ := second
  exact ⟨_, Denotes.tokenize_call identifier (.cons tokenizesLeft (.cons tokenizesRight .nil)),
    readsLeft.call (by decide) (.cons readsRight .nil) function⟩

end Spells

/-! ## What is selected -/

theorem isIdentifier_function (aggregate : Aggregate) : IsIdentifier aggregate.function := by
  cases aggregate <;> decide

section

variable {interpretation : Interpretation} {rows : List Row}

/-- The values that are known in all rows are what an aggregate is made of. -/
theorem evalOver_aggregate
    {argument : Expression}
    {value : Row → Option Int}
    {numbers : List Int}
    (aggregate : Aggregate)
    (evaluates : ∀ row, argument.eval interpretation row = some (.ofNumber (value row)))
    (known : rows.map value = numbers.map some) :
    (Expression.call aggregate.function [argument]).evalOver interpretation rows =
      some (.ofNumber (aggregate.collect numbers)) := by
  have each : (rows.mapM fun row => do (← argument.eval interpretation row).number?) =
      some (rows.map value) := by
    simp only [evaluates, Option.bind_eq_bind, Option.bind_some, Value.number?_ofNumber]
    exact List.mapM_pure
  simp only [Expression.evalOver, Aggregate.ofFunction?_function, aggregateOver, each, known]
  simp

/-- Where each row takes the running value one step further, the rows take it through all steps. -/
theorem foldOver_eq_foldl
    {body : Expression}
    {value : Row → Option Int}
    {step : Int → Int → Int}
    {numbers : List Int}
    (stepped : ∀ running number row, value row = some number →
      body.eval interpretation (withRunning (some running) row) =
        some (.number (step running number)))
    (known : rows.map value = numbers.map some)
    (running : Int) :
    body.foldOver interpretation rows (.number running) =
      some (.number (numbers.foldl step running)) := by
  -- the rows are gone through from the first, so the running value changes along the way
  induction rows generalizing numbers running with
  | nil =>
      obtain rfl : numbers = [] := by simpa using known.symm
      rfl
  | cons row rest inductionHypothesis =>
      obtain ⟨number, others, rfl, found, remaining⟩ := List.map_eq_cons_iff.mp known.symm
      rw [List.foldl_cons, ← inductionHypothesis remaining.symm]
      change ((body.eval interpretation (withRunning (some running) row)).bind fun next =>
        body.foldOver interpretation rest next) = _
      rw [stepped running number row found.symm]
      rfl

theorem evalOver_coalesce
    {expression fallback : Expression}
    {number : Option Int}
    {other : Int}
    (first : expression.evalOver interpretation rows = some (.ofNumber number))
    (second : fallback.evalOver interpretation rows = some (.number other)) :
    (Expression.call Function.coalesce.name [expression, fallback]).evalOver interpretation rows =
      some (.number (number.getD other)) := by
  have ordinary : Aggregate.ofFunction? Function.coalesce.name = none := by decide
  simp only [Expression.evalOver, ordinary, Expression.evalAllOver, first, second]
  cases number <;> rfl

end

end Reading
end RuleClause
