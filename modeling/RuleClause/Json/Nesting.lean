/-!
# How deep the brackets of a text go

Deep nesting is refused before a text is read as JSON.  The scan looks at
brackets outside of strings only, and it makes sense of any text, well-formed or
not: a closing bracket without an opening one counts for nothing.
-/

namespace RuleClause
namespace Json

/-- Where the scan is with respect to strings. -/
inductive Quoting where
  /-- Outside of any string. -/
  | outside
  /-- Inside a string. -/
  | inside
  /-- Inside a string, right after a backslash. -/
  | escaped
deriving DecidableEq, Repr

/-- Whether the brackets ever nest deeper than the limit, from a place at the given depth. -/
def bracketsExceedFrom (limit : Nat) : Quoting → Nat → List Char → Bool
  | _, _, [] => false
  | .escaped, depth, _ :: rest => bracketsExceedFrom limit .inside depth rest
  | .inside, depth, character :: rest =>
      if character = '\\' then bracketsExceedFrom limit .escaped depth rest
      else if character = '"' then bracketsExceedFrom limit .outside depth rest
      else bracketsExceedFrom limit .inside depth rest
  | .outside, depth, character :: rest =>
      if character = '"' then bracketsExceedFrom limit .inside depth rest
      else if character = '[' ∨ character = '\x7b' then
        if limit < depth + 1 then true
        else bracketsExceedFrom limit .outside (depth + 1) rest
      else if character = ']' ∨ character = '\x7d' then
        bracketsExceedFrom limit .outside (depth - 1) rest
      else bracketsExceedFrom limit .outside depth rest

/-- Whether the brackets of a text nest deeper than the limit. -/
def bracketsExceed (limit : Nat) (text : String) : Bool :=
  bracketsExceedFrom limit .outside 0 text.toList

end Json
end RuleClause
