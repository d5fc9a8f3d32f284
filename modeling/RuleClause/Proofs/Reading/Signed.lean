import RuleClause.Number.Basic
import RuleClause.Proofs.Reading.Rows

/-!
# Integers within 64 bits

An expression of constants has a value in signed 64-bit integers when every number on the way
to it fits: each constant, each sum and each difference.  A number that does not fit is not
wrapped; the expression has no value then.
-/

namespace RuleClause
namespace Number

theorem signedBound_eq : (signedBound : Int) = 9223372036854775808 :=
  rfl

theorem isSigned_iff (value : Int) :
    isSigned value = true ↔ -9223372036854775808 ≤ value ∧ value < 9223372036854775808 := by
  simp only [isSigned, Bool.and_eq_true, decide_eq_true_eq]
  rw [signedBound_eq]

/-- A whole number that fits a signed 64-bit integer. -/
def signed? (value : Int) : Option Int :=
  if isSigned value then some value else none

theorem signed?_of_isSigned {value : Int} (signed : isSigned value = true) :
    signed? value = some value :=
  if_pos signed

end Number

namespace Reading
namespace Expression

mutual

/-- The integer that an expression of constants stands for, if every number on the way fits. -/
def evalSigned : Expression → Option Int
  | .numeral value => Number.signed? value
  | .minus operand => do Number.signed? (-(← operand.evalSigned))
  | .binary .add left right => do Number.signed? ((← left.evalSigned) + (← right.evalSigned))
  | .binary .subtract left right => do
      Number.signed? ((← left.evalSigned) - (← right.evalSigned))
  | .call function arguments => do
      let values ← evalEachSigned arguments
      if function = Function.greatest.name then values.max?
      else if function = Function.least.name then values.min?
      else none
  | _ => none

/-- The integers that expressions stand for, one by one. -/
def evalEachSigned : List Expression → Option (List Int)
  | [] => some []
  | first :: rest => do return (← first.evalSigned) :: (← evalEachSigned rest)

end

section

variable {left right : Expression} {first second : Int}

theorem evalSigned_numeral {value : Nat} (signed : Number.isSigned value = true) :
    (numeral value).evalSigned = some (value : Int) :=
  Number.signed?_of_isSigned signed

theorem evalSigned_add
    (evaluatesLeft : left.evalSigned = some first)
    (evaluatesRight : right.evalSigned = some second)
    (signed : Number.isSigned (first + second) = true) :
    (binary .add left right).evalSigned = some (first + second) := by
  simp [evalSigned, evaluatesLeft, evaluatesRight, Number.signed?_of_isSigned signed]

theorem evalSigned_subtract
    (evaluatesLeft : left.evalSigned = some first)
    (evaluatesRight : right.evalSigned = some second)
    (signed : Number.isSigned (first - second) = true) :
    (binary .subtract left right).evalSigned = some (first - second) := by
  simp [evalSigned, evaluatesLeft, evaluatesRight, Number.signed?_of_isSigned signed]

theorem evalSigned_greatest
    (evaluatesLeft : left.evalSigned = some first)
    (evaluatesRight : right.evalSigned = some second) :
    (call Function.greatest.name [left, right]).evalSigned = some (max first second) := by
  simp [evalSigned, evalEachSigned, evaluatesLeft, evaluatesRight, List.max?]

theorem evalSigned_least
    (evaluatesLeft : left.evalSigned = some first)
    (evaluatesRight : right.evalSigned = some second) :
    (call Function.least.name [left, right]).evalSigned = some (min first second) := by
  have other : Function.least.name ≠ Function.greatest.name := by decide
  simp [evalSigned, evalEachSigned, evaluatesLeft, evaluatesRight, other, List.min?]

end

end Expression

/-- The signed 64-bit integer that a text of constants stands for. -/
def evaluateSigned (text : String) : Option Int := do
  (← read text).evalSigned

example :
    evaluateSigned "GREATEST(5 - 7 + 1, 1)" = some 1 ∧
      evaluateSigned "9223372036854775807 + 1 - 1" = none := by
  decide

/-! ## Expressions that are written as constants -/

namespace Spells

variable
  {dialect : Dialect}
  {level outer : Nat}
  {left right : Sql}
  {leftSide rightSide : Expression}

theorem natural (value : Nat) :
    Spells level ((Sql.integer value).render dialect) (.numeral value) :=
  digits value

theorem binary
    (operator : BinaryOp)
    (first : Spells (precedence operator) (left.render dialect) leftSide)
    (second : Spells (precedence operator + 1) (right.render dialect) rightSide) :
    Spells (precedence operator) ((Sql.binary operator left right).render dialect)
      (.binary operator leftSide rightSide) := by
  obtain ⟨leftTokens, tokenizesLeft, readsLeft⟩ := first
  obtain ⟨rightTokens, tokenizesRight, readsRight⟩ := second
  refine ⟨_, ?_, readsLeft.chain (.cons readsRight .nil)⟩
  rw [Sql.render]
  exact tokenize_intercalate (Denotes.startsApart_symbol operator)
    (Denotes.endsApart_symbol operator) (Denotes.tokenize_symbol operator)
    (.cons tokenizesLeft (.cons tokenizesRight .nil))

theorem function
    (function : Function)
    (first : Spells 1 (left.render dialect) leftSide)
    (second : Spells 1 (right.render dialect) rightSide) :
    Spells outer ((Sql.call function [left, right]).render dialect)
      (.call function.name [leftSide, rightSide]) :=
  callPair (Denotes.isIdentifier_name function) first second

end Spells

theorem Spells.evaluateSigned_eq
    {level : Nat}
    {text : String}
    {expression : Expression}
    (spells : Spells level text expression) :
    evaluateSigned text = expression.evalSigned := by
  rw [evaluateSigned, spells.read_eq]
  rfl

/-- The text of an expression holds constants only, and they stand for an integer. -/
def Amounts (dialect : Dialect) (level : Nat) (sql : Sql) (value : Int) : Prop :=
  ∃ expression, Spells level (sql.render dialect) expression ∧ expression.evalSigned = some value

namespace Amounts

variable
  {dialect : Dialect}
  {level outer : Nat}
  {left right sql : Sql}
  {first second value : Int}

theorem evaluateSigned_eq (amounts : Amounts dialect level sql value) :
    evaluateSigned (sql.render dialect) = some value := by
  obtain ⟨_, spells, evaluates⟩ := amounts
  rw [spells.evaluateSigned_eq, evaluates]

theorem mono (amounts : Amounts dialect level sql value) (lower : outer ≤ level) :
    Amounts dialect outer sql value := by
  obtain ⟨expression, spells, evaluates⟩ := amounts
  exact ⟨expression, spells.mono lower, evaluates⟩

theorem integer (signed : Number.isSigned value = true) (natural : 0 ≤ value) :
    Amounts dialect level (.integer value) value := by
  obtain ⟨count, rfl⟩ := Int.eq_ofNat_of_zero_le natural
  exact ⟨_, .natural count, Expression.evalSigned_numeral signed⟩

theorem add
    (amountsLeft : Amounts dialect 5 left first)
    (amountsRight : Amounts dialect 6 right second)
    (signed : Number.isSigned (first + second) = true) :
    Amounts dialect 5 (.binary .add left right) (first + second) := by
  obtain ⟨_, spellsLeft, evaluatesLeft⟩ := amountsLeft
  obtain ⟨_, spellsRight, evaluatesRight⟩ := amountsRight
  exact ⟨_, .binary .add spellsLeft spellsRight,
    Expression.evalSigned_add evaluatesLeft evaluatesRight signed⟩

theorem subtract
    (amountsLeft : Amounts dialect 5 left first)
    (amountsRight : Amounts dialect 6 right second)
    (signed : Number.isSigned (first - second) = true) :
    Amounts dialect 5 (.binary .subtract left right) (first - second) := by
  obtain ⟨_, spellsLeft, evaluatesLeft⟩ := amountsLeft
  obtain ⟨_, spellsRight, evaluatesRight⟩ := amountsRight
  exact ⟨_, .binary .subtract spellsLeft spellsRight,
    Expression.evalSigned_subtract evaluatesLeft evaluatesRight signed⟩

theorem greatest
    (amountsLeft : Amounts dialect 1 left first)
    (amountsRight : Amounts dialect 1 right second) :
    Amounts dialect outer (.call .greatest [left, right]) (max first second) := by
  obtain ⟨_, spellsLeft, evaluatesLeft⟩ := amountsLeft
  obtain ⟨_, spellsRight, evaluatesRight⟩ := amountsRight
  exact ⟨_, .function .greatest spellsLeft spellsRight,
    Expression.evalSigned_greatest evaluatesLeft evaluatesRight⟩

theorem least
    (amountsLeft : Amounts dialect 1 left first)
    (amountsRight : Amounts dialect 1 right second) :
    Amounts dialect outer (.call .least [left, right]) (min first second) := by
  obtain ⟨_, spellsLeft, evaluatesLeft⟩ := amountsLeft
  obtain ⟨_, spellsRight, evaluatesRight⟩ := amountsRight
  exact ⟨_, .function .least spellsLeft spellsRight,
    Expression.evalSigned_least evaluatesLeft evaluatesRight⟩

end Amounts

end Reading
end RuleClause
