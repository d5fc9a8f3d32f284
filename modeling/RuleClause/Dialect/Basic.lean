import RuleClause.Text.Letters

/-!
# Dialects of SQL

The dialects in which conditions can be written, and the names by which they may
be asked for.
-/

namespace RuleClause

/-- A dialect of SQL. -/
inductive Dialect where
  | bigQuery
  | spanner
  | postgreSQL
  | duckDB
  | clickHouse
deriving DecidableEq, Repr

namespace Dialect

/-- Every dialect, in the order in which they are listed. -/
def all : List Dialect :=
  [.bigQuery, .spanner, .postgreSQL, .duckDB, .clickHouse]

/-- The name of a dialect. -/
def name : Dialect → String
  | .bigQuery => "bigquery"
  | .spanner => "spanner"
  | .postgreSQL => "postgresql"
  | .duckDB => "duckdb"
  | .clickHouse => "clickhouse"

/-- The words by which a dialect is known, its name among them. -/
def words : Dialect → List String
  | .bigQuery => ["bigquery", "bq"]
  | .spanner => ["spanner"]
  | .postgreSQL => ["postgresql", "postgres", "pg"]
  | .duckDB => ["duckdb"]
  | .clickHouse => ["clickhouse", "ch"]

/-- Hyphens and underscores may divide the words of a name. -/
def isDivider (character : Char) : Bool :=
  character == '-' || character == '_'

/-- The word that a typed name stands for. -/
def word (name : String) : String :=
  String.ofList ((Text.lower name).toList.filter (! isDivider ·))

/-- The dialect with a name, whatever its case and its dividers. -/
def ofName? (name : String) : Option Dialect :=
  all.find? (·.words.contains (word name))

@[simp]
theorem mem_all (dialect : Dialect) : dialect ∈ all := by
  cases dialect <;> decide

@[simp]
theorem ofName?_name (dialect : Dialect) : ofName? dialect.name = some dialect := by
  cases dialect <;> decide

/-- The message for a name that no dialect has. -/
def unknownMessage (name : String) : String :=
  "unknown dialect '" ++ name ++ "' (expected one of: " ++
    ", ".intercalate (all.map Dialect.name) ++ ")"

end Dialect
end RuleClause
