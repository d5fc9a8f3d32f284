import RuleClause.Json.Basic

/-!
# Compact JSON text

The compact text of a value has no spaces.  Strings escape the quote, the
backslash and the control characters, and nothing else.
-/

namespace RuleClause
namespace Json

/-- The two hexadecimal digits of a control character. -/
def controlDigits (character : Char) : List Char :=
  [Nat.digitChar (character.toNat / 16), Nat.digitChar (character.toNat % 16)]

/-- A character as it stands between quotes. -/
def escaped (character : Char) : List Char :=
  if character = '"' then ['\\', '"']
  else if character = '\\' then ['\\', '\\']
  else if character = '\n' then ['\\', 'n']
  else if character = '\r' then ['\\', 'r']
  else if character = '\t' then ['\\', 't']
  else if character.toNat = 0x08 then ['\\', 'b']
  else if character.toNat = 0x0C then ['\\', 'f']
  else if character.toNat < 0x20 then ['\\', 'u', '0', '0'] ++ controlDigits character
  else [character]

/-- A text between quotes. -/
def quoted (text : String) : List Char :=
  '"' :: text.toList.flatMap escaped ++ ['"']

mutual

/-- The compact text of a value. -/
def compact : Json → List Char
  | .null => "null".toList
  | .bool value => (if value then "true" else "false").toList
  | .number value => value.text.toList
  | .string value => quoted value
  | .array items => '[' :: compactItems items ++ [']']
  | .object members => '\x7b' :: compactMembers members ++ ['\x7d']

/-- The items of an array, divided by commas. -/
def compactItems : List Json → List Char
  | [] => []
  | [item] => item.compact
  | item :: rest => item.compact ++ ',' :: compactItems rest

/-- The members of an object, divided by commas. -/
def compactMembers : List (String × Json) → List Char
  | [] => []
  | [(key, value)] => quoted key ++ ':' :: value.compact
  | (key, value) :: rest =>
      quoted key ++ ':' :: value.compact ++ ',' :: compactMembers rest

end

/-- The compact text of a value, as a string. -/
def print (value : Json) : String :=
  String.ofList value.compact

end Json
end RuleClause
