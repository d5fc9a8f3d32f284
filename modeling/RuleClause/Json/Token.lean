import RuleClause.Number.Reader

/-!
# Tokens of JSON text

The scanner takes up one character after the other.  Between tokens it is at
rest; inside a string, a number or a word it collects characters until the token
ends.  Only the space, the tab and the two line ends may separate tokens.
-/

namespace RuleClause
namespace Json

/-- The smallest units of JSON text. -/
inductive Token where
  | openArray
  | closeArray
  | openObject
  | closeObject
  | comma
  | colon
  | null
  | bool (value : Bool)
  | number (value : Number)
  | string (value : String)
deriving DecidableEq, Repr

/-- What a string is in the middle of. -/
inductive Escape where
  /-- An ordinary character comes next. -/
  | none
  /-- A backslash has been read. -/
  | backslash
  /-- Some of the four digits of a code unit have been read. -/
  | unit (digitsLeft : Nat) (value : Nat)
deriving DecidableEq, Repr

/--
A string under way: the characters collected, last first, and a leading half of
a surrogate pair that waits for its other half.
-/
structure OpenString where
  /-- The characters so far, last first. -/
  collected : List Char
  /-- The first half of a surrogate pair, if one has been read. -/
  pending : Option Nat
  /-- The escape sequence under way. -/
  escape : Escape
deriving DecidableEq, Repr

/-- What the scanner is in the middle of. -/
inductive Mode where
  /-- Between two tokens. -/
  | rest
  /-- Inside a string. -/
  | string (text : OpenString)
  /-- Inside a number; its characters, last first. -/
  | number (collected : List Char)
  /-- Inside a word; its letters, last first. -/
  | word (collected : List Char)
deriving DecidableEq, Repr

/-- The state of the scanner: the tokens so far, last first, and the token under way. -/
structure Scanner where
  /-- The complete tokens, last first. -/
  tokens : List Token
  /-- The token under way. -/
  mode : Mode
deriving DecidableEq, Repr

/-- The characters that may separate tokens. -/
def isSpace (character : Char) : Bool :=
  character == ' ' || character == '\t' || character == '\n' || character == '\r'

/-- The characters that numbers are made of. -/
def isNumberPart (character : Char) : Bool :=
  character.isDigit || ['-', '+', '.', 'e', 'E'].contains character

/-- The value of a hexadecimal digit. -/
def hexValue? (character : Char) : Option Nat :=
  if character.isDigit then some (character.toNat - '0'.toNat)
  else if 'a' ≤ character ∧ character ≤ 'f' then some (character.toNat - 'a'.toNat + 10)
  else if 'A' ≤ character ∧ character ≤ 'F' then some (character.toNat - 'A'.toNat + 10)
  else none

/-- The character that a backslash and a letter stand for. -/
def escapedCharacter? : Char → Option Char
  | '"' => some '"'
  | '\\' => some '\\'
  | '/' => some '/'
  | 'b' => some (Char.ofNat 0x08)
  | 'f' => some (Char.ofNat 0x0C)
  | 'n' => some '\n'
  | 'r' => some '\r'
  | 't' => some '\t'
  | _ => none

/-- The first half of a surrogate pair. -/
def isLeadingSurrogate (unit : Nat) : Bool :=
  0xD800 ≤ unit && unit < 0xDC00

/-- The second half of a surrogate pair. -/
def isTrailingSurrogate (unit : Nat) : Bool :=
  0xDC00 ≤ unit && unit < 0xE000

namespace OpenString

/-- A string of which only the opening quote has been read. -/
def start : OpenString := ⟨[], none, .none⟩

/-- Takes up a finished code unit; surrogates come in pairs only. -/
def addUnit? (text : OpenString) (unit : Nat) : Option OpenString :=
  match text.pending with
  | some leading =>
      if isTrailingSurrogate unit then
        let point := 0x10000 + (leading - 0xD800) * 0x400 + (unit - 0xDC00)
        some ⟨Char.ofNat point :: text.collected, none, .none⟩
      else none
  | none =>
      if isLeadingSurrogate unit then some ⟨text.collected, some unit, .none⟩
      else if isTrailingSurrogate unit then none
      else some ⟨Char.ofNat unit :: text.collected, none, .none⟩

/-- Takes up a character other than the closing quote. -/
def step? (text : OpenString) (character : Char) : Option OpenString :=
  match text.escape with
  | .none =>
      if character = '\\' then some { text with escape := .backslash }
      else if text.pending.isSome ∨ character.toNat < 0x20 then none
      else some { text with collected := character :: text.collected }
  | .backslash =>
      if character = 'u' then some { text with escape := .unit 4 0 }
      else if text.pending.isSome then none
      else
        (escapedCharacter? character).map fun escaped =>
          ⟨escaped :: text.collected, none, .none⟩
  | .unit digitsLeft value =>
      (hexValue? character).bind fun digit =>
        let value := value * 16 + digit
        if digitsLeft ≤ 1 then { text with escape := .none }.addUnit? value
        else some { text with escape := .unit (digitsLeft - 1) value }

/-- The quote ends the string unless an escape sequence or a pair is under way. -/
def isEnd (text : OpenString) (character : Char) : Bool :=
  character == '"' && text.escape == .none && text.pending.isNone

/-- The text of a complete string. -/
def text (openString : OpenString) : String :=
  String.ofList openString.collected.reverse

end OpenString

/-- The token that a word stands for. -/
def wordToken? (letters : List Char) : Option Token :=
  if letters = ['t', 'r', 'u', 'e'] then some (.bool true)
  else if letters = ['f', 'a', 'l', 's', 'e'] then some (.bool false)
  else if letters = ['n', 'u', 'l', 'l'] then some .null
  else none

/-- The token that a character stands for by itself. -/
def mark? : Char → Option Token
  | '[' => some .openArray
  | ']' => some .closeArray
  | '\x7b' => some .openObject
  | '\x7d' => some .closeObject
  | ',' => some .comma
  | ':' => some .colon
  | _ => none

namespace Scanner

/-- Nothing read so far. -/
def start : Scanner := ⟨[], .rest⟩

/-- Adds a complete token. -/
def add (scanner : Scanner) (token : Token) : Scanner :=
  ⟨token :: scanner.tokens, .rest⟩

/-- Takes up a character between tokens. -/
def begin? (scanner : Scanner) (character : Char) : Option Scanner :=
  if isSpace character then some { scanner with mode := .rest }
  else if character = '"' then some { scanner with mode := .string .start }
  else if character.isDigit ∨ character = '-' then
    some { scanner with mode := .number [character] }
  else if character.isAlpha then some { scanner with mode := .word [character] }
  else (mark? character).map scanner.add

/-- Ends a number or a word at its last character. -/
def settle? (scanner : Scanner) : Option Scanner :=
  match scanner.mode with
  | .rest => some scanner
  | .string _ => none
  | .number collected =>
      (Number.ofChars? collected.reverse).map fun value => scanner.add (.number value)
  | .word collected => (wordToken? collected.reverse).map scanner.add

/-- Takes up one character. -/
def step? (scanner : Scanner) (character : Char) : Option Scanner :=
  match scanner.mode with
  | .rest => scanner.begin? character
  | .string text =>
      if text.isEnd character then some (scanner.add (.string text.text))
      else (text.step? character).map fun text => { scanner with mode := .string text }
  | .number collected =>
      if isNumberPart character then
        some { scanner with mode := .number (character :: collected) }
      else scanner.settle?.bind (·.begin? character)
  | .word collected =>
      if character.isAlpha then
        some { scanner with mode := .word (character :: collected) }
      else scanner.settle?.bind (·.begin? character)

/-- Takes up characters from left to right. -/
def run? (scanner : Scanner) : List Char → Option Scanner
  | [] => some scanner
  | character :: rest => (scanner.step? character).bind (run? · rest)

end Scanner

/-- The tokens of a text, or `none` if some part of it is no token. -/
def tokens? (characters : List Char) : Option (List Token) :=
  ((Scanner.start.run? characters).bind Scanner.settle?).map (·.tokens.reverse)

end Json
end RuleClause
