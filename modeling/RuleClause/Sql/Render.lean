import RuleClause.Sql.Basic

/-!
# Writing expressions

The text of an expression in a dialect.  Forms that dialects write differently
go through the dialect's templates.
-/

namespace RuleClause
namespace Sql

/-- The spelling of a truth value. -/
def truthText (value : Bool) : String :=
  if value then "TRUE" else "FALSE"

/-- The spelling of a bound name, or of a member of what it stands for. -/
def boundText (binding : Binding) : Option String → String
  | none => binding.name
  | some member => binding.name ++ "." ++ member

mutual

/-- The text of an expression. -/
def render (dialect : Dialect) : Sql → String
  | .null => "NULL"
  | .bool value => truthText value
  | .number text => text
  | .string value => dialect.quote value
  | .column name => name
  | .bound binding member => boundText binding member
  | .elementItem index => dialect.arrayItem Dialect.elementName index
  | .fragment text => text
  | .array items => dialect.arrayLiteral (renderAll dialect items)
  | .test operand check => operand.render dialect ++ " " ++ check.keywords
  | .not operand => "NOT " ++ Dialect.parenthesized (operand.render dialect)
  | .minus operand => "-" ++ operand.render dialect
  | .minusGroup operand => "-" ++ Dialect.parenthesized (operand.render dialect)
  | .binary operator left right =>
      Dialect.between operator.symbol [left.render dialect, right.render dialect]
  | .group operator terms =>
      Dialect.parenthesized (Dialect.between operator.symbol (renderAll dialect terms))
  | .call function arguments => Dialect.call function.name (renderAll dialect arguments)
  | .numericCast operand => dialect.numericCast (operand.render dialect)
  | .cases branches otherwise =>
      "CASE" ++ renderBranches dialect branches ++ " ELSE " ++
        otherwise.render dialect ++ " END"
  | .remainder terms => dialect.remainder (renderAll dialect terms)
  | .textLength operand => dialect.textLength (operand.render dialect)
  | .arrayLength operand => dialect.arrayLength (operand.render dialect)
  | .substring operand start none =>
      dialect.substring (operand.render dialect) (start.render dialect) none
  | .substring operand start (some length) =>
      dialect.substring (operand.render dialect) (start.render dialect)
        (some (length.render dialect))
  | .oneOf value items =>
      value.render dialect ++ " IN " ++
        Dialect.parenthesized (Dialect.commas (renderAll dialect items))
  | .contains haystack needle =>
      dialect.contains (haystack.render dialect) (needle.render dialect)
  | .arrayContains source value =>
      dialect.arrayContains (source.render dialect) (value.render dialect)
  | .arrayConcat arrays => dialect.arrayConcat (renderAll dialect arrays)
  | .mapped source body => dialect.mapped (source.render dialect) (body.render dialect)
  | .filtered source condition =>
      dialect.filtered (source.render dialect) (condition.render dialect)
  | .folded functions source body initial =>
      functions.folded (source.render dialect) (body.render dialect)
        (initial.render dialect)
  | .aggregated naming aggregate source value initial =>
      naming.aggregated aggregate (source.render dialect) (value.render dialect)
        (initial.render dialect)
  | .quantified quantity source condition =>
      dialect.quantified quantity (source.render dialect) (condition.render dialect)

/-- The texts of expressions, one by one. -/
def renderAll (dialect : Dialect) : List Sql → List String
  | [] => []
  | first :: rest => first.render dialect :: renderAll dialect rest

/-- The text of the branches of a case expression, each after a space. -/
def renderBranches (dialect : Dialect) : List (Sql × Sql) → String
  | [] => ""
  | (condition, value) :: rest =>
      " WHEN " ++ condition.render dialect ++ " THEN " ++ value.render dialect ++
        renderBranches dialect rest

end

theorem renderAll_eq_map (dialect : Dialect) (expressions : List Sql) :
    renderAll dialect expressions = expressions.map (render dialect) := by
  induction expressions with
  | nil => rfl
  | cons first rest inductionHypothesis => simp [renderAll, inductionHypothesis]

end Sql
end RuleClause
