import RuleClause.Number.Basic

/-!
# JSON values

Objects keep their members in the order in which they were written, repeated
keys included.  `merged` gives the view in which a repeated key counts once and
its last value stands.
-/

namespace RuleClause

/-- A JSON value. -/
inductive Json where
  | null
  | bool (value : Bool)
  | number (value : Number)
  | string (value : String)
  | array (items : List Json)
  | object (members : List (String × Json))
deriving Repr

namespace Json

/-- Some member has the key. -/
def hasKey (key : String) (members : List (String × Json)) : Bool :=
  members.any (·.1 == key)

/-- Keeps, of the members that share a key, the last. -/
def lastMembers : List (String × Json) → List (String × Json)
  | [] => []
  | (key, value) :: rest =>
      if hasKey key rest then lastMembers rest
      else (key, value) :: lastMembers rest

mutual

/-- Merges repeated keys at every level: the last value of a key stands. -/
def merged : Json → Json
  | .array items => .array (mergedItems items)
  | .object members => .object (lastMembers (mergedMembers members))
  | .null => .null
  | .bool value => .bool value
  | .number value => .number value
  | .string value => .string value

/-- Merges repeated keys in each item of an array. -/
def mergedItems : List Json → List Json
  | [] => []
  | item :: rest => item.merged :: mergedItems rest

/-- Merges repeated keys in the value of each member. -/
def mergedMembers : List (String × Json) → List (String × Json)
  | [] => []
  | (key, value) :: rest => (key, value.merged) :: mergedMembers rest

end

/-- The value of a member; the first one with the key. -/
def member? (key : String) : Json → Option Json
  | .object members => (members.find? (·.1 == key)).map (·.2)
  | _ => none

end Json
end RuleClause
