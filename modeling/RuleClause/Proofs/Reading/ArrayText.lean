import RuleClause.Proofs.Lexical.Fragment
import RuleClause.Proofs.Numeral.Spelling
import RuleClause.Proofs.Reading.Token

/-!
# Reading SQL arrays

An array is a column, a list of literals in brackets, or a join of arrays.  A dialect joins
arrays by a function of any number of them, by a function of two, or by an operator inside
parentheses; every join puts its arrays one after the other.

The reader goes through the tokens of a text once.  For each join that is still open it keeps
the arrays before the current one.
-/

namespace List

/-- What is related through something in the middle is so item by item. -/
theorem Forall₂.exists_middle
    {α β γ : Type}
    {first : α → β → Prop}
    {second : β → γ → Prop}
    {left : List α}
    {right : List γ}
    (related : Forall₂ (fun start finish => ∃ middle, first start middle ∧ second middle finish)
      left right) :
    ∃ middle, Forall₂ first left middle ∧ Forall₂ second middle right := by
  induction related with
  | nil => exact ⟨[], .nil, .nil⟩
  | cons head _ inductionHypothesis =>
      obtain ⟨item, holdsFirst, holdsSecond⟩ := head
      obtain ⟨middle, restFirst, restSecond⟩ := inductionHypothesis
      exact ⟨item :: middle, .cons holdsFirst restFirst, .cons holdsSecond restSecond⟩

end List

namespace RuleClause
namespace ArrayText

open Dialect (ArrayForm ConcatForm Forms QuoteForm)
open Reading (IsIdentifier isWordCharacter)

/-- A value that an array can hold; numbers are told apart by their texts. -/
inductive Scalar where
  | null
  | bool (value : Bool)
  | number (text : String)
  | string (value : String)
deriving DecidableEq, Repr

/-- The array in each column. -/
abbrev Row : Type :=
  String → List Scalar

/-! ## Tokens -/

/-- A token of an array. -/
inductive Token where
  | word (text : String)
  | literal (value : String)
  | operator (symbol : String)
  | openBracket
  | closeBracket
  | openParenthesis
  | closeParenthesis
  | comma
deriving DecidableEq, Repr

/-- Names, keywords and numbers are words; a sign belongs to the number behind it. -/
def isWordPart (character : Char) : Bool :=
  isWordCharacter character || character == '+' || character == '-'

/-- A text is one word. -/
def isWord (text : String) : Bool :=
  ! text.toList.isEmpty && text.toList.all isWordPart

theorem isWord_iff (text : String) :
    isWord text = true ↔
      text.toList ≠ [] ∧ ∀ character ∈ text.toList, isWordPart character = true := by
  simp [isWord]

/-- Two neighbours belong to one token. -/
def joins : Lexeme → Lexeme → Bool
  | .symbol first, .symbol second =>
      (isWordPart first && isWordPart second) || (first == '|' && second == '|')
  | _, _ => false

/-- A lexeme is a blank between tokens. -/
def isBlank : Lexeme → Bool
  | .symbol character => character.isWhitespace
  | .literal _ => false

/-- The character of a lexeme outside of literals. -/
def character? : Lexeme → Option Char
  | .symbol character => some character
  | .literal _ => none

/-- The token of characters outside of literals. -/
def Token.ofChars? (characters : List Char) : Option Token :=
  if characters.all isWordPart then some (.word (String.ofList characters))
  else
    match characters with
    | ['['] => some .openBracket
    | [']'] => some .closeBracket
    | ['('] => some .openParenthesis
    | [')'] => some .closeParenthesis
    | [','] => some .comma
    | symbol => if symbol.all (· == '|') then some (.operator (String.ofList symbol)) else none

/-- The token of neighbours that belong together. -/
def Token.ofRun? : List Lexeme → Option Token
  | [.literal value] => some (.literal value)
  | run => ofChars? (run.filterMap character?)

/-- The tokens of lexemes; `none` if some of them make up no token. -/
def tokens? (lexemes : List Lexeme) : Option (List Token) :=
  ((lexemes.splitBy joins).filter (! ·.all isBlank)).mapM Token.ofRun?

/-! ## Values -/

/-- A word is a number: it has digits, and nothing but digits and the marks of numbers. -/
def isNumber (word : List Char) : Bool :=
  word.any Char.isDigit &&
    word.all fun character => character.isDigit || Text.numberMarks.contains character

/-- The item of an array that a token stands for. -/
def Token.item? : Token → Option Scalar
  | .literal value => some (.string value)
  | .word text =>
      if text = "NULL" then some .null
      else if text = "TRUE" then some (.bool true)
      else if text = "FALSE" then some (.bool false)
      else if isNumber text.toList then some (.number text)
      else none
  | _ => none

theorem Token.item?_of_isNumber {text : String} (number : isNumber text.toList = true) :
    (Token.word text).item? = some (.number text) := by
  have other (word : String) (unlike : isNumber word.toList = false) : text ≠ word := by
    rintro rfl
    exact Bool.noConfusion (number.symm.trans unlike)
  simp [Token.item?, other "NULL" (by decide), other "TRUE" (by decide), other "FALSE" (by decide),
    number]

/-- The word in front of the brackets of an array, if the dialect has one. -/
def keyword? : ArrayForm → Option String
  | .brackets => none
  | .keyword => some "ARRAY"

/-- The function in front of the parentheses of a join, if the dialect has one. -/
def function? : ConcatForm → Option String
  | .variadic function | .binary function => some function
  | .between _ => none

/-- The token between the arrays of a join. -/
def separator : ConcatForm → Token
  | .variadic _ | .binary _ => .comma
  | .between symbol => .operator symbol

/-- Arrays one after the other, if so many can be joined at once. -/
def join? : ConcatForm → List (List Scalar) → Option (List Scalar)
  | .binary _, [first, second] => some (first ++ second)
  | .binary _, _ => none
  | _, arrays => some arrays.flatten

/-! ## The reader -/

/-- What stands last, and what may follow. -/
inductive Mode where
  /-- An array must follow. -/
  | awaiting
  /-- A word stands last: a column, or what brackets or parentheses must follow. -/
  | named (word : String)
  /-- Inside of brackets, an item must follow. -/
  | opened (items : List Scalar)
  /-- Inside of brackets, an item stands last. -/
  | listed (items : List Scalar)
  /-- An array stands last. -/
  | complete (value : List Scalar)
deriving DecidableEq, Repr

/-- How far the reader has got. -/
structure State where
  /-- The arrays before the current one in each open join, the innermost join first. -/
  stack : List (List (List Scalar))
  mode : Mode
deriving DecidableEq, Repr

/-- The array that stands last, if one does. -/
def Mode.array? (row : Row) : Mode → Option (List Scalar)
  | .complete value => some value
  | .named word => if IsIdentifier word then some (row word) else none
  | _ => none

/-- Opens brackets or parentheses, with a word in front or without one. -/
def begin?
    (forms : Forms)
    (stack : List (List (List Scalar)))
    (word : Option String) : Token → Option State
  | .openBracket => if keyword? forms.array = word then some ⟨stack, .opened []⟩ else none
  | .openParenthesis =>
      if function? forms.concat = word then some ⟨[] :: stack, .awaiting⟩ else none
  | _ => none

/-- Goes on after an array of a join. -/
def follow?
    (forms : Forms)
    (array : List Scalar) : List (List (List Scalar)) → Token → Option State
  | before :: stack, .closeParenthesis =>
      (join? forms.concat (before ++ [array])).map fun value => ⟨stack, .complete value⟩
  | before :: stack, token =>
      if token = separator forms.concat then some ⟨(before ++ [array]) :: stack, .awaiting⟩
      else none
  | [], _ => none

/-- Reads one token. -/
def step (forms : Forms) (row : Row) (state : State) (token : Token) : Option State :=
  match state.mode, token with
  | .awaiting, .word text => some ⟨state.stack, .named text⟩
  | .awaiting, token => begin? forms state.stack none token
  | .named word, token =>
      (begin? forms state.stack (some word) token).or
        (((Mode.named word).array? row).bind fun array => follow? forms array state.stack token)
  | .opened [], .closeBracket => some ⟨state.stack, .complete []⟩
  | .opened items, token => token.item?.map fun item => ⟨state.stack, .listed (items ++ [item])⟩
  | .listed items, .comma => some ⟨state.stack, .opened items⟩
  | .listed items, .closeBracket => some ⟨state.stack, .complete items⟩
  | .listed _, _ => none
  | .complete value, token => follow? forms value state.stack token

/-- The array that a text stands for, for the arrays in the columns of a row. -/
def evaluate (dialect : Dialect) (row : Row) (text : String) : Option (List Scalar) := do
  let lexemes ← Lexeme.scan dialect.forms.quote text
  let tokens ← tokens? lexemes
  let state ← tokens.foldlM (step dialect.forms row) ⟨[], .awaiting⟩
  if state.stack = [] then state.mode.array? row else none

example :
    evaluate .postgreSQL (fun _ => [.null]) "(ARRAY[1, 'a'] || tags || ARRAY[])" =
      some [.number "1", .string "a", .null] := by
  decide

/-! ## Texts and their tokens -/

/-- Tokens between an opener and a closer, with a word in front or without one. -/
def enclosed (word : Option String) (opener closer : Token) (tokens : List Token) : List Token :=
  word.toList.map .word ++ [opener] ++ tokens ++ [closer]

section

variable {first second : List Lexeme} {firstTokens secondTokens : List Token}

/-- Lexemes fall apart into tokens separately where no token reaches across. -/
theorem tokens?_append
    (tokenizesFirst : tokens? first = some firstTokens)
    (tokenizesSecond : tokens? second = some secondTokens)
    (apart : ∀ last ∈ first.getLast?, ∀ next ∈ second.head?, joins last next = false) :
    tokens? (first ++ second) = some (firstTokens ++ secondTokens) := by
  rw [tokens?, List.splitBy_append apart, List.filter_append, List.mapM_append]
  rw [tokens?] at tokenizesFirst tokenizesSecond
  rw [tokenizesFirst, tokenizesSecond]
  rfl

end

/-- A character that joins no neighbour. -/
def isSolitary (character : Char) : Bool :=
  ! isWordPart character && character != '|'

theorem joins_eq_false_of_isSolitary_left
    {character : Char}
    (solitary : isSolitary character = true)
    (lexeme : Lexeme) :
    joins (.symbol character) lexeme = false := by
  simp only [isSolitary, Bool.and_eq_true, Bool.not_eq_true', bne_iff_ne] at solitary
  cases lexeme <;> simp [joins, solitary]

theorem joins_eq_false_of_isSolitary_right
    (lexeme : Lexeme)
    {character : Char}
    (solitary : isSolitary character = true) :
    joins lexeme (.symbol character) = false := by
  simp only [isSolitary, Bool.and_eq_true, Bool.not_eq_true', bne_iff_ne] at solitary
  cases lexeme <;> simp [joins, solitary]

/-- A text can stand between others: it holds no quote, and no token reaches across its ends. -/
@[mk_iff separates_iff]
structure Separates (text : String) (tokens : List Token) : Prop where
  unquoted : text.toList.all (· != '\'') = true
  starts : text.toList.head?.any isSolitary = true
  ends : text.toList.getLast?.any isSolitary = true
  tokenizes : tokens? (text.toList.map .symbol) = some tokens

instance (text : String) (tokens : List Token) : Decidable (Separates text tokens) :=
  decidable_of_iff _ (separates_iff text tokens).symm

/-- A text falls apart into tokens, wherever no quote follows it. -/
def Spells (form : QuoteForm) (text : String) (tokens : List Token) : Prop :=
  ∃ lexemes, ReadsAs form text.toList lexemes ∧ tokens? lexemes = some tokens

namespace Spells

variable {form : QuoteForm} {text separator filling : String} {tokens between others : List Token}

theorem nil : Spells form "" [] :=
  ⟨[], fun rest _ => by simp, rfl⟩

/-- A separator and another text go on where a text ends. -/
theorem fill
    (spells : Spells form text tokens)
    (separates : Separates separator between)
    (spellsFilling : Spells form filling others) :
    Spells form (text ++ separator ++ filling) (tokens ++ between ++ others) := by
  obtain ⟨before, readsBefore, tokenizesBefore⟩ := spells
  obtain ⟨after, readsAfter, tokenizesAfter⟩ := spellsFilling
  obtain ⟨first, starts, solitaryFirst⟩ := (Option.any_eq_true _ _).mp separates.starts
  obtain ⟨last, ends, solitaryLast⟩ := (Option.any_eq_true _ _).mp separates.ends
  have unquoted : ∀ character ∈ separator.toList, character ≠ '\'' := by
    simpa using separates.unquoted
  refine ⟨before ++ separator.toList.map .symbol ++ after, ?_, ?_⟩
  · intro rest divided
    have apart : (separator.toList ++ (filling.toList ++ rest)).head? ≠ some '\'' := by
      simpa [List.head?_append, starts] using
        unquoted first (List.mem_of_mem_head? starts)
    rw [String.toList_append, String.toList_append, List.append_assoc, List.append_assoc,
      readsBefore _ apart, Lexeme.outside_append_of_unquoted form unquoted, readsAfter rest divided]
    simp [Function.comp_def]
  · refine tokens?_append (tokens?_append tokenizesBefore separates.tokenizes ?_)
      tokenizesAfter ?_
    · intro lexeme _ next starting
      obtain rfl : .symbol first = next := by simpa [List.head?_map, starts] using starting
      exact joins_eq_false_of_isSolitary_right lexeme solitaryFirst
    · intro previous ending lexeme _
      obtain rfl : .symbol last = previous := by
        simpa [List.getLast?_append, List.getLast?_map, ends] using ending
      exact joins_eq_false_of_isSolitary_left solitaryLast lexeme

/-- A separator ends a text. -/
theorem trail (spells : Spells form text tokens) (separates : Separates separator between) :
    Spells form (text ++ separator) (tokens ++ between) := by
  simpa using spells.fill separates nil

/-- Texts with a separator between them fall apart at each separator. -/
theorem intercalate
    {texts : List String}
    {pieces : List (List Token)}
    (separates : Separates separator between)
    (spell : List.Forall₂ (Spells form) texts pieces) :
    Spells form (separator.intercalate texts) (between.intercalate pieces) := by
  induction spell with
  | nil => exact nil
  | cons head tail inductionHypothesis =>
      cases tail with
      | nil => simpa using head
      | cons second rest =>
          rw [String.intercalate_cons_cons, List.intercalate_cons_cons]
          exact head.fill separates inductionHypothesis

/-- A quoted text is a literal. -/
theorem quote (dialect : Dialect) (value : String) :
    Spells dialect.forms.quote (dialect.quote value) [.literal value] := by
  refine ⟨[.literal value], ?_, rfl⟩
  intro rest divided
  exact Lexeme.outside_quote_append dialect value divided

theorem word (plain : isWord text = true) : Spells form text [.word text] := by
  obtain ⟨filled, each⟩ := (isWord_iff text).mp plain
  have unquoted : ∀ character ∈ text.toList, character ≠ '\'' := by
    rintro _ member rfl
    exact absurd (each _ member) (by decide)
  refine ⟨text.toList.map .symbol,
    fun rest _ => Lexeme.outside_append_of_unquoted form unquoted rest, ?_⟩
  -- Any two neighbours join, so that the whole text is one run.
  have chain : (text.toList.map Lexeme.symbol).IsChain fun first second =>
      joins first second = true := by
    refine (List.isChain_map _).mpr (List.Pairwise.isChain ?_)
    refine List.pairwise_of_forall_mem_list fun first memberFirst second memberSecond => ?_
    simp [joins, each first memberFirst, each second memberSecond]
  have visible : (text.toList.map Lexeme.symbol).all isBlank = false := by
    obtain ⟨first, rest, same⟩ := List.exists_cons_of_ne_nil filled
    have blank : first.isWhitespace = false := by
      rw [Bool.eq_false_iff]
      intro blank
      have part := each first (by simp [same])
      simp only [Char.isWhitespace, Bool.or_eq_true, decide_eq_true_eq] at blank
      rcases blank with ((rfl | rfl) | rfl) | rfl <;> exact absurd part (by decide)
    simp [same, isBlank, blank]
  have run : Token.ofRun? (text.toList.map Lexeme.symbol) = some (.word text) := by
    have plain : Token.ofRun? (text.toList.map Lexeme.symbol) =
        Token.ofChars? ((text.toList.map Lexeme.symbol).filterMap character?) := by
      obtain ⟨first, rest, same⟩ := List.exists_cons_of_ne_nil filled
      rw [same]
      rfl
    have characters : (text.toList.map Lexeme.symbol).filterMap character? = text.toList := by
      simp [List.filterMap_map, Function.comp_def, character?]
    rw [plain, characters]
    unfold Token.ofChars?
    rw [if_pos (List.all_eq_true.mpr each), String.ofList_toList]
  rw [tokens?, List.splitBy_of_isChain (by simpa using filled) chain]
  simp [visible, run]

/-- A text between an opener and a closer, with a word in front or without one. -/
theorem enclose
    {word : Option String}
    {before after : String}
    {opener closer : Token}
    (plain : word.all isWord = true)
    (opens : Separates before [opener])
    (closes : Separates after [closer])
    (spells : Spells form text tokens) :
    Spells form (word.getD "" ++ before ++ text ++ after) (enclosed word opener closer tokens) := by
  have front : Spells form (word.getD "") (word.toList.map .word) := by
    cases word with
    | none => exact nil
    | some name => exact .word plain
  exact (front.fill opens spells).trail closes

end Spells

/-! ## What the reader makes of tokens -/

/-- Tokens are read as an array, whatever joins are open. -/
def Reads (dialect : Dialect) (row : Row) (tokens : List Token) (value : List Scalar) : Prop :=
  ∀ stack, ∃ mode,
    tokens.foldlM (step dialect.forms row) ⟨stack, .awaiting⟩ = some ⟨stack, mode⟩ ∧
      mode.array? row = some value

variable {dialect : Dialect} {row : Row}

/-- After an array the reader goes on, whether the array is a column or not. -/
theorem step_of_array?
    {mode : Mode}
    {array : List Scalar}
    (holds : mode.array? row = some array)
    {token : Token}
    (goesOn : token = .closeParenthesis ∨ token = separator dialect.forms.concat)
    (stack : List (List (List Scalar))) :
    step dialect.forms row ⟨stack, mode⟩ token = follow? dialect.forms array stack token := by
  -- A word could also be the start of a join or of brackets, but not with this token behind it.
  have unopened (word : Option String) : begin? dialect.forms stack word token = none := by
    rcases goesOn with rfl | rfl
    · rfl
    · cases dialect.forms.concat <;> rfl
  cases mode with
  | complete value =>
      obtain rfl : value = array := by simpa [Mode.array?] using holds
      rfl
  | named word => simp [step, unopened, holds]
  | awaiting | opened | listed => simp [Mode.array?] at holds

theorem follow?_separator
    (array : List Scalar)
    (before : List (List Scalar))
    (stack : List (List (List Scalar))) :
    follow? dialect.forms array (before :: stack) (separator dialect.forms.concat) =
      some ⟨(before ++ [array]) :: stack, .awaiting⟩ := by
  cases concat : dialect.forms.concat <;> simp [follow?, concat, separator]

/-- A word in front of brackets or parentheses is read together with them. -/
theorem foldlM_begin
    {stack : List (List (List Scalar))}
    {word : Option String}
    {opener : Token}
    {state : State}
    (begins : begin? dialect.forms stack word opener = some state) :
    (word.toList.map Token.word ++ [opener]).foldlM (step dialect.forms row) ⟨stack, .awaiting⟩ =
      some state := by
  cases word with
  | none => cases opener <;> simp_all [begin?, step]
  | some name => simp [step, begins]

namespace Reads

theorem column {name : String} (identifier : IsIdentifier name) :
    Reads dialect row [.word name] (row name) :=
  fun stack => ⟨.named name, rfl, by simp [Mode.array?, identifier]⟩

/-- Items with commas between them are read one by one. -/
theorem foldlM_items
    {tokens : List Token}
    {items : List Scalar}
    (each : List.Forall₂ (fun token item => token.item? = some item) tokens items)
    (filled : tokens ≠ [])
    (before : List Scalar)
    (stack : List (List (List Scalar))) :
    (List.intercalate [.comma] (tokens.map ([·]))).foldlM (step dialect.forms row)
        ⟨stack, .opened before⟩ =
      some ⟨stack, .listed (before ++ items)⟩ := by
  have one {token : Token} {item : Scalar} (same : token.item? = some item)
      (before : List Scalar) :
      step dialect.forms row ⟨stack, .opened before⟩ token =
        some ⟨stack, .listed (before ++ [item])⟩ := by
    cases token <;> simp_all [step, Token.item?]
  induction each generalizing before with
  | nil => exact absurd rfl filled
  | cons head tail inductionHypothesis =>
      cases tail with
      | nil => simp [one head]
      | cons second rest =>
          have later := inductionHypothesis (by simp)
          have comma (items : List Scalar) :
              step dialect.forms row ⟨stack, .listed items⟩ .comma =
                some ⟨stack, .opened items⟩ := rfl
          simp only [List.map_cons] at later
          simp only [List.map_cons, List.intercalate_cons_cons, List.foldlM_append,
            List.foldlM_cons, List.foldlM_nil, Option.bind_eq_bind, Option.bind_some,
            Option.pure_def, one head, comma, later, List.append_assoc, List.singleton_append]

/-- Literals in brackets are read as the array of their values. -/
theorem items
    {tokens : List Token}
    {items : List Scalar}
    (each : List.Forall₂ (fun token item => token.item? = some item) tokens items) :
    Reads dialect row
      (enclosed (keyword? dialect.forms.array) .openBracket .closeBracket
        (List.intercalate [.comma] (tokens.map ([·]))))
      items := by
  intro stack
  refine ⟨.complete items, ?_, rfl⟩
  have begins : begin? dialect.forms stack (keyword? dialect.forms.array) .openBracket =
      some ⟨stack, .opened []⟩ := if_pos rfl
  rw [enclosed, List.append_assoc, List.foldlM_append, foldlM_begin begins]
  cases each with
  | nil => rfl
  | cons head tail =>
      rw [Option.bind_eq_bind, Option.bind_some, List.foldlM_append,
        foldlM_items (.cons head tail) (by simp)]
      rfl

/-- The arrays of a join are read one by one. -/
theorem foldlM_arrays
    {pieces : List (List Token)}
    {values : List (List Scalar)}
    (each : List.Forall₂ (Reads dialect row) pieces values)
    (filled : pieces ≠ [])
    (before : List (List Scalar))
    (stack : List (List (List Scalar))) :
    ∃ earlier last mode,
      (List.intercalate [separator dialect.forms.concat] pieces).foldlM (step dialect.forms row)
          ⟨before :: stack, .awaiting⟩ =
        some ⟨(before ++ earlier) :: stack, mode⟩ ∧
      mode.array? row = some last ∧ values = earlier ++ [last] := by
  -- The arrays that have been read pile up in the innermost join, which grows with each of them.
  induction each generalizing before with
  | nil => exact absurd rfl filled
  | @cons _ value _ _ head tail inductionHypothesis =>
      obtain ⟨mode, read, holds⟩ := head (before :: stack)
      cases tail with
      | nil => exact ⟨[], value, mode, by simpa using read, holds, rfl⟩
      | cons second rest =>
          obtain ⟨earlier, last, later, readLater, holdsLater, same⟩ :=
            inductionHypothesis (by simp) (before ++ [value])
          refine ⟨value :: earlier, last, later, ?_, holdsLater, by rw [same, List.cons_append]⟩
          simp only [List.intercalate_cons_cons, List.foldlM_append, read, List.foldlM_cons,
            Option.bind_eq_bind, Option.bind_some, step_of_array? holds (.inr rfl),
            follow?_separator, readLater, List.append_assoc, List.singleton_append]

/-- Joined arrays are read as their values one after the other. -/
theorem join
    {pieces : List (List Token)}
    {values : List (List Scalar)}
    {value : List Scalar}
    (each : List.Forall₂ (Reads dialect row) pieces values)
    (filled : pieces ≠ [])
    (joined : join? dialect.forms.concat values = some value) :
    Reads dialect row
      (enclosed (function? dialect.forms.concat) .openParenthesis .closeParenthesis
        (List.intercalate [separator dialect.forms.concat] pieces))
      value := by
  intro stack
  refine ⟨.complete value, ?_, rfl⟩
  have begins : begin? dialect.forms stack (function? dialect.forms.concat) .openParenthesis =
      some ⟨[] :: stack, .awaiting⟩ := if_pos rfl
  obtain ⟨earlier, last, mode, read, holds, rfl⟩ := foldlM_arrays each filled [] stack
  rw [enclosed, List.append_assoc, List.foldlM_append, foldlM_begin begins]
  simp only [List.foldlM_append, read, List.foldlM_cons, List.foldlM_nil, Option.bind_eq_bind,
    Option.bind_some, Option.pure_def, step_of_array? holds (.inl rfl), follow?,
    List.nil_append, joined, Option.map_some]

end Reads

/-! ## What texts denote -/

/-- A text stands for one item of an array. -/
def IsItem (dialect : Dialect) (text : String) (item : Scalar) : Prop :=
  ∃ token, Spells dialect.forms.quote text [token] ∧ token.item? = some item

/-- A text stands for an array. -/
def Denotes (dialect : Dialect) (row : Row) (text : String) (value : List Scalar) : Prop :=
  ∃ tokens, Spells dialect.forms.quote text tokens ∧ Reads dialect row tokens value

/-- The text between the arrays of a join. -/
def separatorText : ConcatForm → String
  | .variadic _ | .binary _ => ", "
  | .between symbol => " " ++ symbol ++ " "

/-- Arrays in the form of a join, if so many can be joined at once. -/
def joinText (form : ConcatForm) (arrays : List String) : String :=
  (function? form).getD "" ++ "(" ++ (separatorText form).intercalate arrays ++ ")"

theorem joinText_of_function?
    {form : ConcatForm}
    {function : String}
    (named : function? form = some function)
    (arrays : List String) :
    joinText form arrays = Dialect.call function arrays := by
  cases form <;> simp_all [joinText, function?, separatorText, Dialect.call,
    Dialect.parenthesized, Dialect.commas, String.append_assoc]

namespace Denotes

theorem evaluate_eq
    {text : String}
    {value : List Scalar}
    (denotes : Denotes dialect row text value) :
    evaluate dialect row text = some value := by
  obtain ⟨tokens, ⟨lexemes, read, tokenizes⟩, reads⟩ := denotes
  obtain ⟨mode, ends, holds⟩ := reads []
  have scanned : Lexeme.scan dialect.forms.quote text = some lexemes := by
    simpa [Lexeme.scan, Lexeme.outside] using read [] (by simp)
  simp [evaluate, scanned, tokenizes, ends, holds]

theorem column {name : String} (identifier : IsIdentifier name) :
    Denotes dialect row name (row name) := by
  refine ⟨[.word name], .word ((isWord_iff name).mpr ⟨?_, ?_⟩), .column identifier⟩
  · intro empty
    have starts := identifier.starts
    simp [Reading.startsName, empty] at starts
  · intro character member
    simp [isWordPart, identifier.word character member]

/-- A written array stands for its items. -/
theorem arrayLiteral
    {texts : List String}
    {items : List Scalar}
    (each : List.Forall₂ (IsItem dialect) texts items) :
    Denotes dialect row (dialect.arrayLiteral texts) items := by
  obtain ⟨tokens, spell, stand⟩ := each.exists_middle
  refine ⟨_, ?_, .items stand⟩
  have inner : Spells dialect.forms.quote (Dialect.commas texts)
      (List.intercalate [.comma] (tokens.map ([·]))) := by
    refine .intercalate (by decide) ?_
    rwa [List.forall₂_map_right_iff]
  have written : dialect.arrayLiteral texts =
      (keyword? dialect.forms.array).getD "" ++ "[" ++ Dialect.commas texts ++ "]" := by
    unfold Dialect.arrayLiteral
    cases dialect.forms.array with
    | brackets => simp [keyword?]
    | keyword => rfl
  rw [written]
  refine .enclose ?_ (by decide) (by decide) inner
  cases dialect.forms.array <;> decide

/-- Arrays in the form of a join stand for their values one after the other. -/
theorem join
    {texts : List String}
    {values : List (List Scalar)}
    {value : List Scalar}
    (denote : List.Forall₂ (Denotes dialect row) texts values)
    (filled : texts ≠ [])
    (joined : join? dialect.forms.concat values = some value) :
    Denotes dialect row (joinText dialect.forms.concat texts) value := by
  obtain ⟨pieces, spell, read⟩ := denote.exists_middle
  have present : pieces ≠ [] := by
    rintro rfl
    exact filled (List.forall₂_nil_right_iff.mp spell)
  refine ⟨_, ?_, .join read present joined⟩
  refine .enclose ?_ (by decide) (by decide) (.intercalate ?_ spell)
  · cases dialect <;> decide
  · cases dialect <;> decide

/-- A function of two arrays that is applied from the left joins any number of them. -/
theorem callFromLeft
    {function : String}
    (binary : dialect.forms.concat = .binary function)
    {texts : List String}
    {values : List (List Scalar)}
    (denote : List.Forall₂ (Denotes dialect row) texts values)
    {first : String}
    {value : List Scalar}
    (denotes : Denotes dialect row first value) :
    Denotes dialect row (Dialect.callFromLeft function (first :: texts))
      (value ++ values.flatten) := by
  simp only [Dialect.callFromLeft]
  induction denote generalizing first value with
  | nil => simpa using denotes
  | @cons second other _ _ head _ inductionHypothesis =>
      have pair : Denotes dialect row (Dialect.call function [first, second]) (value ++ other) := by
        have joined : join? dialect.forms.concat [value, other] = some (value ++ other) := by
          rw [binary]
          rfl
        have denotesPair := join (.cons denotes (.cons head .nil)) (by simp) joined
        rwa [binary, joinText_of_function? rfl] at denotesPair
      simpa using inductionHypothesis pair

/-- Arrays that a dialect joins stand for their values one after the other. -/
theorem arrayConcat
    {texts : List String}
    {values : List (List Scalar)}
    (denote : List.Forall₂ (Denotes dialect row) texts values)
    (filled : texts ≠ []) :
    Denotes dialect row (dialect.arrayConcat texts) values.flatten := by
  unfold Dialect.arrayConcat
  cases concat : dialect.forms.concat with
  | variadic function =>
      have joined := join denote filled (by rw [concat]; rfl)
      rwa [concat, joinText_of_function? rfl] at joined
  | between symbol =>
      have joined := join denote filled (by rw [concat]; rfl)
      rwa [concat] at joined
  | binary function =>
      cases denote with
      | nil => exact absurd rfl filled
      | cons head tail => exact callFromLeft concat tail head

end Denotes

end ArrayText
end RuleClause
