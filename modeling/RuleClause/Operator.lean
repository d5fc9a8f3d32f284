/-!
# Built-in operators

The operators that every rule may use, by name and by family.
-/

namespace RuleClause

/-- A built-in operator. -/
inductive Operator where
  | var
  | missing
  | missingSome
  | equal
  | strictEqual
  | notEqual
  | strictNotEqual
  | not
  | truthy
  | and
  | or
  | conditional
  | ternary
  | greater
  | greaterEqual
  | less
  | lessEqual
  | add
  | subtract
  | multiply
  | divide
  | modulo
  | max
  | min
  | cat
  | substr
  | membership
  | map
  | filter
  | reduce
  | all
  | some
  | none
  | merge
deriving DecidableEq, Repr

/-- The families under which operators are described. -/
inductive OperatorFamily where
  | data
  | logical
  | comparison
  | arithmetic
  | string
  | array
deriving DecidableEq, Repr

namespace OperatorFamily

/-- Every family, in the order in which they are listed. -/
def list : List OperatorFamily :=
  [.data, .logical, .comparison, .arithmetic, .string, .array]

/-- The name of a family. -/
def name : OperatorFamily → String
  | .data => "data"
  | .logical => "logical"
  | .comparison => "comparison"
  | .arithmetic => "arithmetic"
  | .string => "string"
  | .array => "array"

end OperatorFamily

namespace Operator

/-- Every built-in operator, family by family. -/
def list : List Operator :=
  [.var, .missing, .missingSome, .equal, .strictEqual, .notEqual, .strictNotEqual,
   .not, .truthy, .and, .or, .conditional, .ternary, .greater, .greaterEqual, .less,
   .lessEqual, .add, .subtract, .multiply, .divide, .modulo, .max, .min, .cat,
   .substr, .membership, .map, .filter, .reduce, .all, .some, .none, .merge]

/-- The name of an operator in rules. -/
def name : Operator → String
  | .var => "var"
  | .missing => "missing"
  | .missingSome => "missing_some"
  | .equal => "=="
  | .strictEqual => "==="
  | .notEqual => "!="
  | .strictNotEqual => "!=="
  | .not => "!"
  | .truthy => "!!"
  | .and => "and"
  | .or => "or"
  | .conditional => "if"
  | .ternary => "?:"
  | .greater => ">"
  | .greaterEqual => ">="
  | .less => "<"
  | .lessEqual => "<="
  | .add => "+"
  | .subtract => "-"
  | .multiply => "*"
  | .divide => "/"
  | .modulo => "%"
  | .max => "max"
  | .min => "min"
  | .cat => "cat"
  | .substr => "substr"
  | .membership => "in"
  | .map => "map"
  | .filter => "filter"
  | .reduce => "reduce"
  | .all => "all"
  | .some => "some"
  | .none => "none"
  | .merge => "merge"

/-- The family of an operator. -/
def family : Operator → OperatorFamily
  | .var | .missing | .missingSome => .data
  | .equal | .strictEqual | .notEqual | .strictNotEqual | .not | .truthy | .and
  | .or | .conditional | .ternary => .logical
  | .greater | .greaterEqual | .less | .lessEqual => .comparison
  | .add | .subtract | .multiply | .divide | .modulo | .max | .min => .arithmetic
  | .cat | .substr => .string
  | .membership | .map | .filter | .reduce | .all | .some | .none | .merge => .array

/-- The operator with a name. -/
def ofName? (name : String) : Option Operator :=
  list.find? (·.name == name)

@[simp]
theorem mem_list (operator : Operator) : operator ∈ list := by
  cases operator <;> decide

@[simp]
theorem ofName?_name (operator : Operator) : ofName? operator.name = .some operator := by
  cases operator <;> decide

theorem ofName?_eq_some_iff (text : String) (operator : Operator) :
    ofName? text = .some operator ↔ operator.name = text := by
  constructor
  · intro found
    simpa using List.find?_some found
  · rintro rfl
    exact ofName?_name operator

theorem name_injective {first second : Operator} (same : first.name = second.name) :
    first = second := by
  have found := congrArg ofName? same
  simpa using found

/-- The name belongs to a built-in operator. -/
def isBuiltin (name : String) : Bool :=
  (ofName? name).isSome

end Operator

/-- The operators of a family, in the order in which they are listed. -/
def OperatorFamily.operators (family : OperatorFamily) : List Operator :=
  Operator.list.filter (·.family == family)

end RuleClause
