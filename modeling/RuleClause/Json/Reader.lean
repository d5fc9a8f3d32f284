import RuleClause.Json.Basic
import RuleClause.Json.Token

/-!
# Reading JSON text

The reader takes up one token after the other.  It keeps the containers that are
open around the current place, innermost first, so that nesting costs no depth
of recursion and no text is too deep for it.
-/

namespace RuleClause
namespace Json

/-- A container that is open around the current place, without the value under way. -/
inductive Frame where
  /-- An array; the items so far, last first. -/
  | array (items : List Json)
  /-- An object inside a member; the members so far, last first, and the key. -/
  | member (members : List (String × Json)) (key : String)
deriving Repr

/-- What the reader expects next. -/
inductive Reader where
  /-- A value; the end of the array instead, if it is still empty. -/
  | atValue (frames : List Frame) (closable : Bool)
  /-- A key; the end of the object instead, if it is still empty. -/
  | atKey (members : List (String × Json)) (frames : List Frame) (closable : Bool)
  /-- The colon after a key. -/
  | atColon (members : List (String × Json)) (key : String) (frames : List Frame)
  /-- What may follow a complete value. -/
  | afterValue (value : Json) (frames : List Frame)
deriving Repr

namespace Reader

/-- Nothing read so far. -/
def start : Reader := .atValue [] false

/-- Takes up a token where a value is expected. -/
def beginValue?
    (frames : List Frame)
    (closable : Bool) : Token → Option Reader
  | .null => some (.afterValue .null frames)
  | .bool value => some (.afterValue (.bool value) frames)
  | .number value => some (.afterValue (.number value) frames)
  | .string value => some (.afterValue (.string value) frames)
  | .openArray => some (.atValue (.array [] :: frames) true)
  | .openObject => some (.atKey [] frames true)
  | .closeArray =>
      match frames with
      | .array items :: frames =>
          if closable then some (.afterValue (.array items.reverse) frames) else none
      | _ => none
  | _ => none

/-- Takes up a token after a complete value. -/
def continue? (value : Json) : List Frame → Token → Option Reader
  | .array items :: frames, .comma =>
      some (.atValue (.array (value :: items) :: frames) false)
  | .array items :: frames, .closeArray =>
      some (.afterValue (.array (value :: items).reverse) frames)
  | .member members key :: frames, .comma =>
      some (.atKey ((key, value) :: members) frames false)
  | .member members key :: frames, .closeObject =>
      some (.afterValue (.object ((key, value) :: members).reverse) frames)
  | _, _ => none

/-- Takes up one token. -/
def step? : Reader → Token → Option Reader
  | .atValue frames closable, token => beginValue? frames closable token
  | .atKey members frames _, .string key => some (.atColon members key frames)
  | .atKey members frames closable, .closeObject =>
      if closable then some (.afterValue (.object members.reverse) frames) else none
  | .atColon members key frames, .colon =>
      some (.atValue (.member members key :: frames) false)
  | .afterValue value frames, token => continue? value frames token
  | _, _ => none

/-- Takes up tokens from left to right. -/
def run? (reader : Reader) : List Token → Option Reader
  | [] => some reader
  | token :: rest => (reader.step? token).bind (run? · rest)

/-- The value, if it is complete and nothing is open around it. -/
def result? : Reader → Option Json
  | .afterValue value [] => some value
  | _ => none

end Reader

/-- The value that the tokens spell. -/
def ofTokens? (tokens : List Token) : Option Json :=
  (Reader.start.run? tokens).bind Reader.result?

/-- Reads a JSON text; `none` if it is malformed or holds a number out of range. -/
def parse? (text : String) : Option Json :=
  (tokens? text.toList).bind ofTokens?

end Json
end RuleClause
