import RuleClause.Proofs.Reading.Expression
import RuleClause.Proofs.Reading.Token

/-!
# Reading SQL expressions

Operators bind by precedence, from the loosest to the tightest: `OR` 1, `AND` 2,
`NOT` 3, comparisons and tests 4, `+` and `-` 5, `*` and `/` 6, the minus sign 7.
Operators between two operands associate to the left.  Parentheses, calls and case
expressions delimit themselves.

The reader goes through the tokens once.  It keeps a stack of what is still open to
the left, and closes what binds at least as tightly as the next token.
-/

namespace RuleClause
namespace Reading

/-- How tightly an operator between two operands binds. -/
def precedence : BinaryOp → Nat
  | .or => 1
  | .and => 2
  | .equal | .notEqual | .unequal | .less | .lessEqual | .greater | .greaterEqual => 4
  | .add | .subtract => 5
  | .multiply | .divide => 6

/-- Something open to the left of the operand that is being read. -/
inductive Frame where
  | minus
  | not
  /-- An operator with its left operand. -/
  | left (operator : BinaryOp) (operand : Expression)
  | group
  /-- A call with the arguments before the current one. -/
  | argument (function : String) (before : List Expression)
  /-- A case expression in a condition, with the branches before it. -/
  | condition (branches : List (Expression × Expression))
  /-- A case expression in a value, with the branches before it and its condition. -/
  | value (branches : List (Expression × Expression)) (condition : Expression)
  /-- A case expression in its last value. -/
  | otherwise (branches : List (Expression × Expression))

namespace Frame

/-- How tightly what is open binds; what has a delimiter does not bind at all. -/
def level : Frame → Nat
  | .minus => 7
  | .not => 3
  | .left operator _ => precedence operator
  | _ => 0

/-- What is open, closed by its last operand. -/
def close : Frame → Expression → Expression
  | .minus, operand => .minus operand
  | .not, operand => .not operand
  | .left operator first, operand => .binary operator first operand
  | _, operand => operand

end Frame

/-- How far the reader has got. -/
inductive State where
  /-- An operand must follow. -/
  | awaiting (stack : List Frame)
  /-- A name stands last: a column, or the function of a call. -/
  | named (name : String) (stack : List Frame)
  /-- An operand stands last. -/
  | holding (operand : Expression) (stack : List Frame)
  /-- A test of an operand has started. -/
  | testing (operand : Expression) (negated : Bool) (stack : List Frame)
  /-- A case expression has started. -/
  | choosing (stack : List Frame)

/-- Closes what binds at least as tightly as a level. -/
def reduce (level : Nat) : Expression → List Frame → Expression × List Frame
  | operand, [] => (operand, [])
  | operand, frame :: stack =>
      if level ≤ frame.level then reduce level (frame.close operand) stack
      else (operand, frame :: stack)

/-- How much a token closes. -/
def Token.closes : Token → Nat
  | .operator symbol => precedence symbol
  | .keyword .is => 4
  | _ => 1

/-- Goes on after an operand, when all has been closed that the token closes. -/
def shift : Token → Expression → List Frame → Option State
  | .operator operator, operand, stack => some (.awaiting (.left operator operand :: stack))
  | .keyword .is, operand, stack => some (.testing operand false stack)
  | .closing, operand, .group :: stack => some (.holding operand stack)
  | .closing, operand, .argument function before :: stack =>
      some (.holding (.call function (before ++ [operand])) stack)
  | .comma, operand, .argument function before :: stack =>
      some (.awaiting (.argument function (before ++ [operand]) :: stack))
  | .keyword .then, operand, .condition branches :: stack =>
      some (.awaiting (.value branches operand :: stack))
  | .keyword .when, operand, .value branches condition :: stack =>
      some (.awaiting (.condition (branches ++ [(condition, operand)]) :: stack))
  | .keyword .else, operand, .value branches condition :: stack =>
      some (.awaiting (.otherwise (branches ++ [(condition, operand)]) :: stack))
  | .keyword .end, operand, .value branches condition :: stack =>
      some (.holding (.cases (branches ++ [(condition, operand)]) .null) stack)
  | .keyword .end, operand, .otherwise branches :: stack =>
      some (.holding (.cases branches operand) stack)
  | _, _, _ => none

/-- Goes on after an operand. -/
def follow (token : Token) (operand : Expression) (stack : List Frame) : Option State :=
  let (operand, stack) := reduce token.closes operand stack
  shift token operand stack

/-- Reads one token. -/
def step : State → Token → Option State
  | .awaiting stack, .numeral value => some (.holding (.numeral value) stack)
  | .awaiting stack, .name name => some (.named name stack)
  | .awaiting stack, .keyword .null => some (.holding .null stack)
  | .awaiting stack, .keyword .true => some (.holding (.bool true) stack)
  | .awaiting stack, .keyword .false => some (.holding (.bool false) stack)
  | .awaiting stack, .keyword .not => some (.awaiting (.not :: stack))
  | .awaiting stack, .operator .subtract => some (.awaiting (.minus :: stack))
  | .awaiting stack, .opening => some (.awaiting (.group :: stack))
  | .awaiting stack, .keyword .case => some (.choosing stack)
  | .named function stack, .opening => some (.awaiting (.argument function [] :: stack))
  | .named name stack, token => follow token (.column name) stack
  | .holding operand stack, token => follow token operand stack
  | .testing operand true stack, .keyword .null => some (.holding (.test operand .isNotNull) stack)
  | .testing operand false stack, .keyword .null => some (.holding (.test operand .isNull) stack)
  | .testing operand false stack, .keyword .true => some (.holding (.test operand .isTrue) stack)
  | .testing operand false stack, .keyword .not => some (.testing operand true stack)
  | .choosing stack, .keyword .when => some (.awaiting (.condition [] :: stack))
  | _, _ => none

/-- The expression that is closed by the end of the text. -/
def complete (operand : Expression) (stack : List Frame) : Option Expression :=
  match reduce 1 operand stack with
  | (expression, []) => some expression
  | _ => none

/-- The expression at the end of the text, if the text may end here. -/
def finish : State → Option Expression
  | .named name stack => complete (.column name) stack
  | .holding operand stack => complete operand stack
  | _ => none

/-- Reads the rest of the tokens. -/
def resume : State → List Token → Option Expression
  | state, [] => finish state
  | state, token :: rest => (step state token).bind (resume · rest)

/-- The expression that a text is read as. -/
def read (text : String) : Option Expression := do
  resume (.awaiting []) (← tokenize text)

example :
    read "NOT a = b OR -c < 1 AND d IS NULL" =
      some (.binary .or (.not (.binary .equal (.column "a") (.column "b")))
        (.binary .and (.binary .less (.minus (.column "c")) (.numeral 1))
          (.test (.column "d") .isNull))) := by
  rfl

/-- The value of a text for a row, if the text is an expression that has one. -/
def evaluate (interpretation : Interpretation) (row : Row) (text : String) : Option Value := do
  (← read text).eval interpretation row

end Reading
end RuleClause
