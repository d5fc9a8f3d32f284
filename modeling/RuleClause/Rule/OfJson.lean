import RuleClause.Error.Basic
import RuleClause.Rule.Basic

/-!
# Rules from JSON values

An object with exactly one key is an operation; every other object is refused.
Each operation and each list around a value is one level of nesting, except that
the list of an operation's arguments is no level of its own.  A value deeper than
the limit is refused before anything else about it is looked at.
-/

namespace RuleClause
namespace Rule

/-- Refuses a place that is deeper than the limit. -/
def checkDepth (limit : Nat) (position : Position) : Except Error Unit :=
  if limit < position.depth then
    .error ((Error.ofFault (.tooDeep limit)).foundAt position.valuePath)
  else
    .ok ()

mutual

/-- The rule that a JSON value at a position stands for. -/
def ofJsonAt (limit : Nat) : Json → Position → Except Error Rule
  | .null, position => do
      checkDepth limit position
      return .null
  | .bool value, position => do
      checkDepth limit position
      return .bool value
  | .number value, position => do
      checkDepth limit position
      return .number value
  | .string value, position => do
      checkDepth limit position
      return .string value
  | .array items, position => do
      checkDepth limit position
      return .list (← ofJsonItems limit items position.valuePath (position.depth + 1) 0)
  | .object [(operator, .array items)], position => do
      checkDepth limit position
      let path := position.operationPath operator
      return .operation operator
        (.list (← ofJsonItems limit items path (position.depth + 1) 0))
  | .object [(operator, argument)], position => do
      checkDepth limit position
      return .operation operator
        (← ofJsonAt limit argument (position.argument operator none))
  | .object members, position => do
      checkDepth limit position
      .error ((Error.ofFault (.keyCount members.length)).foundAt position.valuePath)

/-- The rules that the items of a list stand for, counted from an index. -/
def ofJsonItems
    (limit : Nat) : List Json → Path → Nat → Nat → Except Error (List Rule)
  | [], _, _, _ => .ok []
  | item :: rest, path, depth, index => do
      let item ← ofJsonAt limit item ⟨path, some index, depth⟩
      let rest ← ofJsonItems limit rest path depth (index + 1)
      return item :: rest

end

/-- The rule that a JSON value stands for, nested no deeper than the limit. -/
def ofJson (limit : Nat) (value : Json) : Except Error Rule :=
  ofJsonAt limit value .start

end Rule
end RuleClause
