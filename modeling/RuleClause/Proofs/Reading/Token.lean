import RuleClause.Sql.Basic
import Mathlib.Data.List.SplitBy

/-!
# Tokens of SQL expressions

A text falls apart into runs of characters that belong together: the characters of
a word, those of a comparison, or those that start a comment.  Every other character
stands alone.  Words are keywords in any case, numerals when they are made of digits,
and names otherwise.  Comments and quoted texts have no tokens.
-/

namespace RuleClause
namespace Reading

/-- A word with a meaning of its own, other than an operator. -/
inductive Keyword where
  | null
  | true
  | false
  | not
  | is
  | case
  | when
  | then
  | else
  | end
deriving DecidableEq, Repr

/-- A token of an expression. -/
inductive Token where
  | numeral (value : Nat)
  | name (text : String)
  | keyword (word : Keyword)
  | operator (operator : BinaryOp)
  | opening
  | closing
  | comma
deriving DecidableEq, Repr

/-- Words are made of letters, digits, underscores and the dots of qualified names. -/
def isWordCharacter (character : Char) : Bool :=
  character.isAlphanum || character == '_' || character == '.' || 128 ≤ character.toNat

/-- Comparisons are made of these characters. -/
def isRelationCharacter (character : Char) : Bool :=
  character == '<' || character == '=' || character == '>' || character == '!'

/-- Two neighbours belong to one token. -/
def joins (first second : Char) : Bool :=
  (isWordCharacter first && isWordCharacter second) ||
    (isRelationCharacter first && isRelationCharacter second) ||
    (first == '-' && second == '-') || (first == '/' && second == '*')

/-- The tokens that are written as symbols. -/
def symbolTokens : List (String × Token) :=
  [("(", .opening), (")", .closing), (",", .comma), ("=", .operator .equal),
   ("!=", .operator .notEqual), ("<>", .operator .unequal), ("<", .operator .less),
   ("<=", .operator .lessEqual), (">", .operator .greater), (">=", .operator .greaterEqual),
   ("+", .operator .add), ("-", .operator .subtract), ("*", .operator .multiply),
   ("/", .operator .divide)]

/-- The tokens that are written as reserved words. -/
def wordTokens : List (String × Token) :=
  [("NULL", .keyword .null), ("TRUE", .keyword .true), ("FALSE", .keyword .false),
   ("NOT", .keyword .not), ("IS", .keyword .is), ("CASE", .keyword .case),
   ("WHEN", .keyword .when), ("THEN", .keyword .then), ("ELSE", .keyword .else),
   ("END", .keyword .end), ("AND", .operator .and), ("OR", .operator .or)]

/-- The token of a reserved word, whatever its case. -/
def reserved? (word : List Char) : Option Token :=
  wordTokens.lookup (String.ofList (word.map Char.toUpper))

/-- A word can be a name: it does not start with a digit. -/
def startsName (word : List Char) : Bool :=
  word.head?.any fun first => isWordCharacter first && ! first.isDigit

/-- The token of a word that is not reserved. -/
def ordinary? (word : List Char) : Option Token :=
  if startsName word then some (.name (String.ofList word))
  else if word.all Char.isDigit then some (.numeral (Nat.ofDigitChars 10 word 0))
  else none

/-- The token of a run of characters. -/
def Token.ofRun? (run : List Char) : Option Token :=
  ((symbolTokens.lookup (String.ofList run)).or (reserved? run)).or (ordinary? run)

/-- The tokens of a text; `none` if some run of characters is not a token. -/
def tokenize (text : String) : Option (List Token) :=
  ((text.toList.splitBy joins).filter (! ·.all Char.isWhitespace)).mapM Token.ofRun?

example :
    tokenize "(a <= 10 AND b)" =
      some [.opening, .name "a", .operator .lessEqual, .numeral 10, .operator .and,
        .name "b", .closing] := by
  decide

/-! ## Tokens piece by piece -/

/-- A character that joins no neighbour. -/
def isSolitary (character : Char) : Bool :=
  ! isWordCharacter character && ! isRelationCharacter character &&
    ! ['-', '/', '*'].contains character

theorem joins_eq_false_of_isSolitary_left
    {first : Char}
    (solitary : isSolitary first = true)
    (second : Char) :
    joins first second = false := by
  simp [isSolitary] at solitary
  simp [joins, solitary]

theorem joins_eq_false_of_isSolitary_right
    (first : Char)
    {second : Char}
    (solitary : isSolitary second = true) :
    joins first second = false := by
  simp [isSolitary] at solitary
  simp [joins, solitary]

/-- No token reaches into a text from the left. -/
def startsApart (text : String) : Bool :=
  text.toList.head?.any isSolitary

/-- No token reaches out of a text to the right. -/
def endsApart (text : String) : Bool :=
  text.toList.getLast?.any isSolitary

section

variable {first second : String} {firstTokens secondTokens : List Token}

/-- Two texts fall apart into tokens separately where no token reaches across. -/
theorem tokenize_append
    (tokenizesFirst : tokenize first = some firstTokens)
    (tokenizesSecond : tokenize second = some secondTokens)
    (apart : ∀ last ∈ first.toList.getLast?, ∀ next ∈ second.toList.head?,
      joins last next = false) :
    tokenize (first ++ second) = some (firstTokens ++ secondTokens) := by
  rw [tokenize, String.toList_append, List.splitBy_append apart, List.filter_append,
    List.mapM_append]
  rw [tokenize] at tokenizesFirst tokenizesSecond
  rw [tokenizesFirst, tokenizesSecond]
  rfl

theorem tokenize_append_of_endsApart
    (ends : endsApart first = true)
    (tokenizesFirst : tokenize first = some firstTokens)
    (tokenizesSecond : tokenize second = some secondTokens) :
    tokenize (first ++ second) = some (firstTokens ++ secondTokens) := by
  refine tokenize_append tokenizesFirst tokenizesSecond ?_
  intro last found next _
  refine joins_eq_false_of_isSolitary_left ?_ next
  simpa [endsApart, Option.mem_def.mp found] using ends

theorem tokenize_append_of_startsApart
    (starts : startsApart second = true)
    (tokenizesFirst : tokenize first = some firstTokens)
    (tokenizesSecond : tokenize second = some secondTokens) :
    tokenize (first ++ second) = some (firstTokens ++ secondTokens) := by
  refine tokenize_append tokenizesFirst tokenizesSecond ?_
  intro last _ next found
  refine joins_eq_false_of_isSolitary_right last ?_
  simpa [startsApart, Option.mem_def.mp found] using starts

end

theorem startsApart_append {first second : String} (starts : startsApart first = true) :
    startsApart (first ++ second) = true := by
  unfold startsApart at starts ⊢
  rw [String.toList_append, List.head?_append]
  cases found : first.toList.head? with
  | none => simp [found] at starts
  | some character => simpa [found] using starts

/-- Two texts with a separator between them fall apart at the separator. -/
theorem tokenize_between
    {separator left right : String}
    {tokens leftTokens rightTokens : List Token}
    (starts : startsApart separator = true)
    (ends : endsApart separator = true)
    (tokenizesSeparator : tokenize separator = some tokens)
    (tokenizesLeft : tokenize left = some leftTokens)
    (tokenizesRight : tokenize right = some rightTokens) :
    tokenize (left ++ separator ++ right) = some (leftTokens ++ tokens ++ rightTokens) := by
  rw [String.append_assoc, List.append_assoc]
  exact tokenize_append_of_startsApart (startsApart_append starts) tokenizesLeft
    (tokenize_append_of_endsApart ends tokenizesSeparator tokenizesRight)

/-- The tokens of pieces that are written with a separator between them. -/
def interleave (tokens : List Token) : List (List Token) → List Token
  | [] => []
  | piece :: rest => piece ++ rest.flatMap (tokens ++ ·)

/-- Texts with a separator between them fall apart at each separator. -/
theorem tokenize_intercalate
    {separator : String}
    {tokens : List Token}
    (starts : startsApart separator = true)
    (ends : endsApart separator = true)
    (tokenizesSeparator : tokenize separator = some tokens)
    {texts : List String}
    {pieces : List (List Token)}
    (tokenizes : List.Forall₂ (fun text piece => tokenize text = some piece) texts pieces) :
    tokenize (separator.intercalate texts) = some (interleave tokens pieces) := by
  induction tokenizes with
  | nil => rfl
  | cons head tail inductionHypothesis =>
      cases tail with
      | nil => simpa [interleave] using head
      | cons second rest =>
          rw [String.intercalate_cons_cons]
          simpa [interleave] using
            tokenize_between starts ends tokenizesSeparator head inductionHypothesis

theorem tokenize_parenthesized
    {text : String}
    {tokens : List Token}
    (tokenizes : tokenize text = some tokens) :
    tokenize (Dialect.parenthesized text) = some (.opening :: tokens ++ [.closing]) :=
  tokenize_append_of_startsApart (by decide)
    (tokenize_append_of_endsApart (by decide) (show _ = some [.opening] by decide) tokenizes)
    (by decide)

/-! ## Words -/

/-- A name that reads as such: a word of its own that is not reserved. -/
structure IsIdentifier (text : String) : Prop where
  word : ∀ character ∈ text.toList, isWordCharacter character = true
  starts : startsName text.toList = true
  unreserved : reserved? text.toList = none

instance (text : String) : Decidable (IsIdentifier text) :=
  decidable_of_iff
    (text.toList.all isWordCharacter = true ∧
      startsName text.toList = true ∧ reserved? text.toList = none)
    ⟨fun ⟨word, starts, unreserved⟩ => ⟨List.all_eq_true.mp word, starts, unreserved⟩,
     fun identifier =>
      ⟨List.all_eq_true.mpr identifier.word, identifier.starts, identifier.unreserved⟩⟩

section

variable {word : List Char}

theorem joins_of_isWordCharacter
    {first second : Char}
    (wordFirst : isWordCharacter first = true)
    (wordSecond : isWordCharacter second = true) :
    joins first second = true := by
  simp [joins, wordFirst, wordSecond]

theorem isWhitespace_of_isWordCharacter
    {character : Char}
    (word : isWordCharacter character = true) :
    character.isWhitespace = false := by
  rw [Bool.eq_false_iff]
  intro blank
  simp only [Char.isWhitespace, Bool.or_eq_true, decide_eq_true_eq] at blank
  rcases blank with ((rfl | rfl) | rfl) | rfl <;> simp [isWordCharacter] at word

/-- A word is one run of characters. -/
theorem tokenize_word
    (filled : word ≠ [])
    (each : ∀ character ∈ word, isWordCharacter character = true) :
    tokenize (String.ofList word) = (Token.ofRun? word).map ([·]) := by
  have chain : word.IsChain fun first second => joins first second = true :=
    (List.pairwise_of_forall_mem_list fun first memberFirst second memberSecond =>
      joins_of_isWordCharacter (each first memberFirst) (each second memberSecond)).isChain
  have visible : word.all Char.isWhitespace = false := by
    obtain ⟨first, rest, rfl⟩ := List.exists_cons_of_ne_nil filled
    simp [isWhitespace_of_isWordCharacter (each first List.mem_cons_self)]
  rw [tokenize, String.toList_ofList, List.splitBy_of_isChain filled chain]
  simp only [List.filter_cons, visible, Bool.not_false, if_true, List.filter_nil,
    List.mapM_cons, List.mapM_nil]
  cases Token.ofRun? word <;> rfl

/-- A word made of some characters is not listed if each entry holds other characters. -/
theorem lookup_eq_none_of_all
    {allowed : Char → Bool}
    {table : List (String × Token)}
    (each : ∀ character ∈ word, allowed character = true)
    (others : ∀ entry ∈ table, entry.1.toList.all allowed = false) :
    table.lookup (String.ofList word) = none := by
  rw [List.lookup_eq_none_iff]
  intro entry listed
  rw [bne_iff_ne]
  intro same
  have alien := others entry listed
  rw [← same, String.toList_ofList, List.all_eq_true.mpr each] at alien
  exact Bool.noConfusion alien

/-- No word is written as a symbol. -/
theorem lookup_symbolTokens_of_word
    (each : ∀ character ∈ word, isWordCharacter character = true) :
    symbolTokens.lookup (String.ofList word) = none :=
  lookup_eq_none_of_all each (by decide)

theorem tokenize_of_isIdentifier {text : String} (identifier : IsIdentifier text) :
    tokenize text = some [.name text] := by
  have filled : text.toList ≠ [] := by
    intro empty
    have starts := identifier.starts
    simp [startsName, empty] at starts
  have tokenized := tokenize_word filled identifier.word
  rw [String.ofList_toList] at tokenized
  rw [tokenized, Token.ofRun?, lookup_symbolTokens_of_word identifier.word,
    identifier.unreserved, ordinary?, if_pos identifier.starts, String.ofList_toList]
  rfl

theorem toUpper_of_isDigit {character : Char} (digit : character.isDigit = true) :
    character.toUpper = character := by
  simp only [Char.isDigit, Bool.and_eq_true, decide_eq_true_eq] at digit
  have small : ¬ ('a'.val ≤ character.val ∧ character.val ≤ 'z'.val) := by
    rintro ⟨least, _⟩
    exact absurd (UInt32.le_trans least digit.2) (by decide)
  exact dif_neg small

/-- Digits are no reserved word. -/
theorem reserved?_of_digits (each : ∀ character ∈ word, character.isDigit = true) :
    reserved? word = none := by
  have unchanged : word.map Char.toUpper = word.map id :=
    List.map_congr_left fun character member => toUpper_of_isDigit (each character member)
  rw [reserved?, unchanged, List.map_id]
  exact lookup_eq_none_of_all each (by decide)

theorem isWordCharacter_of_isDigit {character : Char} (digit : character.isDigit = true) :
    isWordCharacter character = true := by
  simp [isWordCharacter, Char.isAlphanum, digit]

/-- Digits read as the number that they stand for. -/
theorem tokenize_toDigits (number : Nat) :
    tokenize (String.ofList (Nat.toDigits 10 number)) = some [.numeral number] := by
  have each : ∀ character ∈ Nat.toDigits 10 number, character.isDigit = true :=
    fun _ member => Nat.isDigit_of_mem_toDigits (by decide) (by decide) member
  have word : ∀ character ∈ Nat.toDigits 10 number, isWordCharacter character = true :=
    fun character member => isWordCharacter_of_isDigit (each character member)
  have unnamed : startsName (Nat.toDigits 10 number) = false := by
    obtain ⟨first, rest, digits⟩ :=
      List.exists_cons_of_ne_nil (show Nat.toDigits 10 number ≠ [] from Nat.toDigits_ne_nil)
    have digit := each first (by simp [digits])
    simp [startsName, digits, digit]
  rw [tokenize_word Nat.toDigits_ne_nil word, Token.ofRun?, lookup_symbolTokens_of_word word,
    reserved?_of_digits each, ordinary?, unnamed, List.all_eq_true.mpr each,
    Nat.ofDigitChars_ten_toDigits]
  rfl

/-- A word after a minus sign is a token of its own. -/
theorem tokenize_minus_append
    {text : String}
    {tokens : List Token}
    (word : ∀ character ∈ text.toList.head?, isWordCharacter character = true)
    (tokenizes : tokenize text = some tokens) :
    tokenize ("-" ++ text) = some (.operator .subtract :: tokens) := by
  refine tokenize_append (show _ = some [.operator .subtract] by decide) tokenizes ?_
  intro last found next starts
  obtain rfl : '-' = last := by simpa using found
  have letter := word next starts
  have other : next ≠ '-' := by
    rintro rfl
    simp [isWordCharacter] at letter
  simp [joins, isWordCharacter, isRelationCharacter, other]

end

end Reading
end RuleClause
