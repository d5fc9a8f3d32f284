import RuleClause.Rule.Basic
import RuleClause.Schema.FieldType
import RuleClause.Sql.Basic
import RuleClause.Text.Numeral

/-!
# Literals in SQL

A literal of a rule becomes a literal of SQL.  The type of the field that it
meets matters in one case only: a text that reads as a number is written as that
number where a number is wanted.
-/

namespace RuleClause

/-- The text of a number in a condition: integers as they are, the rest in canonical form. -/
def Number.canonicalText : Number → String
  | .integer value => (Number.integer value).text
  | .float value => Text.canonicalNumeral (Number.float value).text

namespace Sql

/-- A number. -/
def ofNumber (value : Number) : Sql :=
  .number value.canonicalText

/-- A text, for a field of the given type. -/
def ofText (type : Option FieldType) (value : String) : Sql :=
  if type.any FieldType.isNumeric && Text.isNumeral value then
    .number (Text.canonicalNumeral value)
  else
    .string value

/-- A literal, for a field of the given type; lists and operations are not literals. -/
def ofLiteral? (type : Option FieldType) : Rule → Option Sql
  | .null => some .null
  | .bool value => some (.bool value)
  | .number value => some (ofNumber value)
  | .string value => some (ofText type value)
  | .list _ | .operation .. => none

end Sql
end RuleClause
