import RuleClause.Manual.Topic
import RuleClause.Target

/-!
# Overviews

The list of the manual's topics, and the dialects side by side.
-/

namespace RuleClause
namespace Manual

/-- The line on a family of operators. -/
def familyLine (family : OperatorFamily) : String :=
  labelled 14 family.name (" ".intercalate (family.operators.map Operator.name))

/-- The overview of the manual. -/
def overview : String :=
  text
    (["JSONLOGIC2SQL DOCUMENTATION",
      "",
      "jsonlogic2sql compiles JSON Logic rules into SQL WHERE conditions for",
      "BigQuery, Spanner, PostgreSQL, DuckDB and ClickHouse.",
      "",
      "OPERATOR CATEGORIES",
      ""] ++
      OperatorFamily.list.map familyLine ++
      ["",
       "OTHER TOPICS",
       "",
       "  schema        Field types, type gating, literal coercion and enums",
       "  custom        Registering custom operators from Rust",
       "  errors        Error codes and paths",
       "",
       "Run 'jsonlogic2sql doc <category>' for detailed documentation.",
       "Run 'jsonlogic2sql dialects' to compare dialect renderings."])

/-- A variable. -/
def sampleVariable (name : String) : Rule :=
  .operation "var" (.string name)

/-- Rules that dialects write differently, under their labels. -/
def samples : List (String × Rule) :=
  [("substr",
    .operation "substr"
      (.list [sampleVariable "name", .number (.integer 1), .number (.integer 3)])),
   ("in (string)", .operation "in" (.list [.string "@", .string "a@b.c"])),
   ("in (array)", .operation "in" (.list [.string "vip", sampleVariable "tags"])),
   ("merge", .operation "merge" (.list [sampleVariable "a", sampleVariable "b"])),
   ("map",
    .operation "map"
      (.list [sampleVariable "items",
        .operation "*" (.list [sampleVariable "", .number (.integer 2)])])),
   ("some",
    .operation "some"
      (.list [sampleVariable "items",
        .operation ">" (.list [sampleVariable "", .number (.integer 10)])]))]

/-- The line on a rule in a dialect. -/
def sampleLine (dialect : Dialect) (sample : String × Rule) : String :=
  labelled 13 sample.1
    (match (Target.ofDialect dialect).condition (.rule sample.2) with
      | .ok condition => condition
      | .error error => "<" ++ error.text ++ ">")

/-- The lines on a dialect. -/
def dialectLines (dialect : Dialect) : List String :=
  ["", dialect.name.toUpper] ++ samples.map (sampleLine dialect)

/-- The dialects, and the same rules in each of them. -/
def dialects : String :=
  text
    (["SUPPORTED DIALECTS", ""] ++
      Dialect.all.map ("  " ++ ·.name) ++
      Dialect.all.flatMap dialectLines)

end Manual
end RuleClause
