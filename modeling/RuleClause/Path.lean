/-!
# Places in a rule

A path names a place in a rule: the root, then the operators and the positions
that lead to it.  A position says where a rule stands while it is taken apart:
the path of what surrounds it, its index there, and how deep it is.
-/

namespace RuleClause

/-- A place in a rule. -/
inductive Path where
  /-- The place at which everything starts. -/
  | root (text : String)
  /-- The place under an operator's name. -/
  | member (parent : Path) (name : String)
  /-- The place of one item of a list. -/
  | item (parent : Path) (index : Nat)
deriving DecidableEq, Repr

namespace Path

/-- The root of every rule. -/
def start : Path := .root "$"

/-- The text of a path. -/
def text : Path → String
  | .root text => text
  | .member parent name => parent.text ++ "." ++ name
  | .item parent index => parent.text ++ "[" ++ Nat.repr index ++ "]"

/-- The item at an index, or the place itself if there is none. -/
def slot (parent : Path) : Option Nat → Path
  | some index => parent.item index
  | none => parent

end Path

/-- Where a rule stands in the rule around it. -/
structure Position where
  /-- The path of what surrounds the rule. -/
  parent : Path
  /-- The index among the items there, if they are listed. -/
  index : Option Nat
  /-- The number of levels around the rule. -/
  depth : Nat
deriving DecidableEq, Repr

namespace Position

/-- The position of a whole rule. -/
def start : Position := ⟨.start, none, 0⟩

/-- The place of a value. -/
def valuePath (position : Position) : Path :=
  position.parent.slot position.index

/-- The place of an operation: its operator stands before the index. -/
def operationPath (position : Position) (operator : String) : Path :=
  (position.parent.member operator).slot position.index

/-- The position of an argument of the operation that stands here. -/
def argument (position : Position) (operator : String) (index : Option Nat) : Position :=
  ⟨position.operationPath operator, index, position.depth + 1⟩

end Position
end RuleClause
