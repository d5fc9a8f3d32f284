/-!
# The pages of the manual

Each page is a list of lines.
-/

namespace RuleClause
namespace Manual

/-- Variables and missing fields. -/
def dataPage : List String :=
  ["DATA ACCESS - var, missing, missing_some",
   "",
   "VAR",
   "  \x7b\"var\": \"field\"\x7d",
   "    A column reference. Dotted names are kept as written.",
   "",
   "    Example:",
   "      Rule: \x7b\"var\": \"user.age\"\x7d",
   "      SQL:  user.age",
   "",
   "  \x7b\"var\": [\"field\", default]\x7d",
   "    Falls back to a primitive default when the column is NULL.",
   "",
   "    Example:",
   "      Rule: \x7b\"var\": [\"status\", \"new\"]\x7d",
   "      SQL:  COALESCE(status, 'new')",
   "",
   "  Inside map, filter, all, some and none:",
   "    \x7b\"var\": \"\"\x7d        the current element (elem)",
   "    \x7b\"var\": \"price\"\x7d   a member of the element (elem.price)",
   "    \x7b\"var\": 0\x7d         element at a 0-based position",
   "",
   "  Inside reduce:",
   "    \x7b\"var\": \"current\"\x7d       the element",
   "    \x7b\"var\": \"accumulator\"\x7d   the running value",
   "",
   "    Constraints:",
   "      - Defaults must be null, a boolean, a number or a string",
   "      - With a schema, the field must be declared",
   "",
   "MISSING",
   "  \x7b\"missing\": [\"a\", \"b\"]\x7d",
   "    True when any listed field is NULL.",
   "",
   "    Example:",
   "      SQL: (a IS NULL OR b IS NULL)",
   "",
   "MISSING_SOME",
   "  \x7b\"missing_some\": [min, [\"a\", \"b\", \"c\"]]\x7d",
   "    True when fewer than min of the listed fields are present.",
   "",
   "    Examples:",
   "      [1, [\"a\", \"b\"]]       (a IS NULL AND b IS NULL)",
   "      [2, [\"a\", \"b\"]]       (a IS NULL OR b IS NULL)",
   "      [2, [\"a\", \"b\", \"c\"]]  (CASE WHEN a IS NOT NULL THEN 1 ELSE 0 END + ...) < 2"]

/-- Equality, truth and connectives. -/
def logicalPage : List String :=
  ["LOGICAL - ==, ===, !=, !==, !, !!, and, or, if, ?:",
   "",
   "EQUALITY",
   "  \x7b\"==\": [a, b]\x7d     a = b",
   "  \x7b\"===\": [a, b]\x7d    a = b",
   "  \x7b\"!=\": [a, b]\x7d     a != b",
   "  \x7b\"!==\": [a, b]\x7d    a <> b",
   "",
   "  Comparing with null produces a null test:",
   "    \x7b\"==\": [\x7b\"var\": \"x\"\x7d, null]\x7d    x IS NULL",
   "    \x7b\"!=\": [\x7b\"var\": \"x\"\x7d, null]\x7d    x IS NOT NULL",
   "",
   "NEGATION",
   "  \x7b\"!\": [x]\x7d    NOT (x)",
   "",
   "TRUTHINESS",
   "  \x7b\"!!\": [x]\x7d",
   "    Without a schema:",
   "      (x IS NOT NULL AND x != FALSE AND x != 0 AND x != '')",
   "    With a schema the check follows the field type, e.g. a boolean",
   "    field renders x IS TRUE. Literal operands fold to TRUE or FALSE.",
   "",
   "AND / OR",
   "  \x7b\"and\": [a, b, c]\x7d    (a AND b AND c)",
   "  \x7b\"or\": [a, b]\x7d        (a OR b)",
   "    A single operand is returned without parentheses.",
   "",
   "IF",
   "  \x7b\"if\": [c1, v1, c2, v2, else]\x7d",
   "    CASE WHEN c1 THEN v1 WHEN c2 THEN v2 ELSE else END",
   "    Without a trailing else value the result is ELSE NULL.",
   "",
   "  \x7b\"?:\": [c, a, b]\x7d",
   "    Ternary form of if; exactly three operands."]

/-- Comparisons. -/
def comparisonPage : List String :=
  ["COMPARISON - >, >=, <, <=",
   "",
   "  \x7b\">\": [a, b]\x7d          a > b",
   "  \x7b\"<\": [a, b, c]\x7d       (a < b AND b < c)",
   "",
   "    Constraints:",
   "      - At least two operands",
   "      - With a schema, array, object and boolean fields are rejected",
   "      - Numeric-looking strings compared with numeric fields are unquoted:",
   "          \x7b\">=\": [\x7b\"var\": \"amount\"\x7d, \"50000\"]\x7d    amount >= 50000"]

/-- Arithmetic. -/
def arithmeticPage : List String :=
  ["ARITHMETIC - +, -, *, /, %, max, min",
   "",
   "  \x7b\"+\": [a, b, c]\x7d    (a + b + c)",
   "  \x7b\"-\": [a, b]\x7d       (a - b)",
   "  \x7b\"*\": [a, b]\x7d       (a * b)",
   "  \x7b\"/\": [a, b]\x7d       (a / b)",
   "  \x7b\"%\": [a, b]\x7d       (a % b), MOD(a, b) on BigQuery and Spanner",
   "",
   "UNARY FORMS",
   "  \x7b\"+\": [\"3.14\"]\x7d              CAST('3.14' AS <numeric type>)",
   "  \x7b\"-\": [\x7b\"var\": \"x\"\x7d]\x7d        -x",
   "",
   "EXTREMES",
   "  \x7b\"max\": [a, b]\x7d    GREATEST(a, b)",
   "  \x7b\"min\": [a, b]\x7d    LEAST(a, b)",
   "",
   "    Constraints:",
   "      - With a schema, only integer and number fields are accepted"]

/-- Operators on texts. -/
def stringPage : List String :=
  ["STRING - cat, substr",
   "",
   "CAT",
   "  \x7b\"cat\": [\"Hello \", \x7b\"var\": \"name\"\x7d]\x7d",
   "    CONCAT('Hello ', name)",
   "",
   "SUBSTR",
   "  \x7b\"substr\": [s, start]\x7d",
   "  \x7b\"substr\": [s, start, length]\x7d",
   "    Start is 0-based and converted to SQL's 1-based positions.",
   "",
   "    Examples (PostgreSQL):",
   "      [\"abc\", 1]       SUBSTRING('abc' FROM 2)",
   "      [\"abc\", 0, 2]    SUBSTRING('abc' FROM 1 FOR 2)",
   "      [\"abc\", -2]      SUBSTRING('abc' FROM GREATEST(LENGTH('abc') - 2 + 1, 1))",
   "",
   "    A negative start counts from the end and never goes before the first",
   "    character. A negative length drops that many characters from the end."]

/-- Operators on arrays. -/
def arrayPage : List String :=
  ["ARRAY - in, map, filter, reduce, all, some, none, merge",
   "",
   "IN",
   "  \x7b\"in\": [\x7b\"var\": \"status\"\x7d, [\"a\", \"b\"]]\x7d    status IN ('a', 'b')",
   "  \x7b\"in\": [\"@\", \x7b\"var\": \"email\"\x7d]\x7d            substring containment",
   "  \x7b\"in\": [\"x\", \x7b\"var\": \"tags\"\x7d]\x7d             array membership",
   "",
   "    With a schema the field type of the second operand decides between",
   "    membership and containment. An empty literal list renders FALSE.",
   "",
   "MAP / FILTER",
   "  \x7b\"map\": [\x7b\"var\": \"items\"\x7d, \x7b\"*\": [\x7b\"var\": \"\"\x7d, 2]\x7d]\x7d",
   "  \x7b\"filter\": [\x7b\"var\": \"items\"\x7d, \x7b\">\": [\x7b\"var\": \"\"\x7d, 0]\x7d]\x7d",
   "",
   "    BigQuery, Spanner, PostgreSQL:",
   "      ARRAY(SELECT (elem * 2) FROM UNNEST(items) AS elem)",
   "    DuckDB:",
   "      list_transform(items, elem -> (elem * 2))",
   "    ClickHouse:",
   "      arrayMap(elem -> (elem * 2), items)",
   "",
   "REDUCE",
   "  \x7b\"reduce\": [\x7b\"var\": \"items\"\x7d, \x7b\"+\": [\x7b\"var\": \"accumulator\"\x7d, \x7b\"var\": \"current\"\x7d]\x7d, 0]\x7d",
   "",
   "    DuckDB and ClickHouse fold with the full reducer. Other dialects",
   "    support +, max and min reducers combining the accumulator with a",
   "    per-element value:",
   "      (SELECT 0 + COALESCE(SUM(elem), 0) FROM UNNEST(items) AS elem)",
   "",
   "ALL / SOME / NONE",
   "  all    NOT EXISTS (SELECT 1 FROM UNNEST(arr) AS elem WHERE NOT (cond))",
   "  some   EXISTS (SELECT 1 FROM UNNEST(arr) AS elem WHERE cond)",
   "  none   NOT EXISTS (SELECT 1 FROM UNNEST(arr) AS elem WHERE cond)",
   "    ClickHouse uses arrayAll and arrayExists.",
   "",
   "MERGE",
   "  \x7b\"merge\": [\x7b\"var\": \"a\"\x7d, \x7b\"var\": \"b\"\x7d]\x7d",
   "    ARRAY_CONCAT(a, b), (a || b), list_concat(a, b) or arrayConcat(a, b)"]

/-- Schemas. -/
def schemaPage : List String :=
  ["SCHEMA - Field Types and Gating",
   "",
   "FORMAT",
   "  A JSON array of fields, or \x7b\"fields\": [...]\x7d:",
   "",
   "    [",
   "      \x7b\"name\": \"amount\", \"type\": \"integer\"\x7d,",
   "      \x7b\"name\": \"status\", \"type\": \"enum\", \"allowedValues\": [\"active\", \"pending\"]\x7d",
   "    ]",
   "",
   "  Types: string, integer, number, boolean, array, object, enum",
   "",
   "GATING",
   "  numeric operators     integer, number",
   "  string operators      string, enum, integer, number",
   "  ordering comparisons  string, enum, integer, number",
   "  array operators       array",
   "  equality              any type",
   "",
   "  Unknown fields fail with E201 before any type check.",
   "",
   "COERCION",
   "  Numeric-looking strings against numeric fields render unquoted;",
   "  against string fields they stay quoted.",
   "",
   "ENUMS",
   "  Literals compared with ==, !=, ===, !== or listed in \"in\" must be",
   "  allowed values. null is always accepted."]

/-- Custom operators. -/
def customPage : List String :=
  ["CUSTOM OPERATORS",
   "",
   "  Custom operators are registered on a Transpiler from Rust. Handlers",
   "  receive the operator name and the already-compiled SQL of each",
   "  argument; dialect-aware handlers also receive the dialect.",
   "",
   "    let transpiler = Transpiler::new(Dialect::PostgreSQL);",
   "    transpiler.register_operator_fn(\"toLower\", |_, args| \x7b",
   "        Ok(format!(\"LOWER(\x7b\x7d)\", args[0]))",
   "    \x7d)?;",
   "",
   "    \x7b\"==\": [\x7b\"toLower\": [\x7b\"var\": \"status\"\x7d]\x7d, \"active\"]\x7d",
   "      LOWER(status) = 'active'",
   "",
   "    Constraints:",
   "      - Names of built-in operators cannot be registered",
   "      - Handler failures are reported as E102 with the handler's error",
   "        as the cause"]

/-- Error codes and paths. -/
def errorsPage : List String :=
  ["ERRORS - Codes and Paths",
   "",
   "  Errors print as [CODE] at PATH: message",
   "",
   "PATHS",
   "  $ is the expression root. Each operator appends .op, followed by [i]",
   "  when it is element i of its parent's arguments:",
   "",
   "    \x7b\"and\": [\x7b\"unknown_op\": [1]\x7d]\x7d",
   "      [E100] at $.and.unknown_op[0]: unsupported operator 'unknown_op'",
   "",
   "STRUCTURAL",
   "  E001 invalid expression      E005 array not allowed",
   "  E002 empty array             E006 validation",
   "  E003 multiple keys           E007 invalid JSON",
   "  E004 primitive not allowed   E008 maximum depth exceeded",
   "",
   "OPERATOR",
   "  E100 unsupported operator    E102 custom operator failed",
   "  E101 operator requires array",
   "",
   "TYPE / SCHEMA",
   "  E200 type mismatch           E202 invalid field type",
   "  E201 field not in schema     E203 invalid enum value",
   "",
   "ARGUMENT",
   "  E300 insufficient arguments  E303 invalid argument type",
   "  E301 too many arguments      E304 invalid default value",
   "  E302 invalid argument"]

end Manual
end RuleClause
