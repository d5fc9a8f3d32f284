import RuleClause.Target

/-!
# Compilations that check their sums

Where items are counted from one, the number of an item is a sum, and the sum may not
fit a word.  A compilation then goes on with what fits.  One that checks its sums stops
instead, and ends with neither a condition nor an error.
-/

namespace RuleClause

/-- Computations that may fail, or stop without an outcome. -/
abbrev Checked (α : Type) : Type :=
  ExceptT Error Option α

/-- A sum that does not fit a word stops a checked computation. -/
instance : MonadOverflow Checked := ⟨.mk none⟩

/-- The same compilation with checked sums. -/
def Context.checked (context : Context (Except Error)) : Context Checked where
  dialect := context.dialect
  schema := context.schema
  maxDepth := context.maxDepth
  custom name := (context.custom name).map fun handler arguments =>
    .mk (some (handler arguments))

/-- The condition that a rule stands for, unless a sum does not fit a word on the way to it. -/
def Target.checkedCondition
    (target : Target)
    (source : Source) : Option (Except Error String) :=
  (target.context.checked.condition source).run

end RuleClause
