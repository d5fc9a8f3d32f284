import RuleClause.Proofs.Lexical.Literal
import Mathlib.Data.List.Chain

/-!
# Reading SQL text lexically

Written SQL is a sequence of characters and of text literals.  Which quotes end a
literal depends on how a dialect escapes them.  Outside of literals, brackets must
pair up, and no two neighbours may open a comment.
-/

namespace RuleClause

/-- A unit of written SQL: a character outside of literals, or a whole literal. -/
inductive Lexeme where
  /-- A character outside of literals. -/
  | symbol (character : Char)
  /-- A literal, by the text that it stands for. -/
  | literal (value : String)
deriving DecidableEq, Repr

namespace Lexeme

open Dialect (QuoteForm)

mutual

/-- Reads characters outside of literals. -/
def outside (form : QuoteForm) : List Char → Option (List Lexeme)
  | [] => some []
  | '\'' :: rest => inside form [] rest
  | character :: rest => (outside form rest).map (.symbol character :: ·)

/-- Reads characters inside of a literal, of which some are read, the last one first. -/
def inside (form : QuoteForm) (read : List Char) : List Char → Option (List Lexeme)
  | [] => none
  | '\'' :: rest =>
      match form, rest with
      | .doubled, '\'' :: rest => inside form ('\'' :: read) rest
      | _, rest => (outside form rest).map (.literal (String.ofList read.reverse) :: ·)
  | '\\' :: rest =>
      match form, rest with
      | .backslash, [] => none
      | .backslash, character :: rest => inside form (character :: read) rest
      | .doubled, rest => inside form ('\\' :: read) rest
  | character :: rest => inside form (character :: read) rest

end

/-- The lexemes of a text; `none` if it ends inside of a literal. -/
def scan (form : QuoteForm) (text : String) : Option (List Lexeme) :=
  outside form text.toList

/-- Takes away the innermost missing closer, if it is the given one. -/
def close (closer : Char) : List Char → Option (List Char)
  | innermost :: missing => if innermost = closer then some missing else none
  | [] => none

/-- The closers that are missing after a lexeme, innermost first; `none` if it closes nothing. -/
def nest (missing : List Char) : Lexeme → Option (List Char)
  | .symbol '(' => some (')' :: missing)
  | .symbol '[' => some (']' :: missing)
  | .symbol ')' => close ')' missing
  | .symbol ']' => close ']' missing
  | _ => some missing

/-- Parentheses and brackets are balanced and properly nested. -/
def Balanced (lexemes : List Lexeme) : Prop :=
  lexemes.foldlM nest [] = some []

/-- Two neighbours open a comment. -/
def opensComment : Lexeme → Lexeme → Bool
  | .symbol '-', .symbol '-' => true
  | .symbol '/', .symbol '*' => true
  | _, _ => false

/-- No comment is opened. -/
def Uncommented (lexemes : List Lexeme) : Prop :=
  lexemes.IsChain fun first second => opensComment first second = false

example :
    scan .doubled "x = 'it''s'" =
      some [.symbol 'x', .symbol ' ', .symbol '=', .symbol ' ', .literal "it's"] := by
  decide

/-! ## Reading piece by piece -/

theorem outside_cons_of_ne
    (form : QuoteForm)
    {character : Char}
    (plain : character ≠ '\'')
    (rest : List Char) :
    outside form (character :: rest) = (outside form rest).map (.symbol character :: ·) := by
  rw [outside]
  exact plain

/-- Characters other than quotes are read as they are, whatever follows them. -/
theorem outside_append_of_unquoted
    (form : QuoteForm)
    {text : List Char}
    (unquoted : ∀ character ∈ text, character ≠ '\'')
    (rest : List Char) :
    outside form (text ++ rest) = (outside form rest).map (text.map .symbol ++ ·) := by
  induction text with
  | nil => simp
  | cons character text inductionHypothesis =>
      rw [List.cons_append, outside_cons_of_ne form (unquoted character List.mem_cons_self),
        inductionHypothesis fun other member => unquoted other (List.mem_cons_of_mem _ member)]
      simp [Function.comp_def]

theorem inside_cons_of_ne
    (form : QuoteForm)
    {character : Char}
    (unquoted : character ≠ '\'')
    (plain : form = .backslash → character ≠ '\\')
    (read rest : List Char) :
    inside form read (character :: rest) = inside form (character :: read) rest := by
  by_cases escaped : character = '\\'
  · subst escaped
    cases form with
    | doubled => rfl
    | backslash => exact absurd rfl (plain rfl)
  · rw [inside]
    · exact unquoted
    · exact escaped

/--
The lexemes from a literal on, after some of its characters have been read, the last one
first, and its other characters have been found together with what is left of the text.
-/
def behind (form : QuoteForm) (read : List Char) (found : List Char × List Char) :
    Option (List Lexeme) :=
  (outside form found.2).map (.literal (String.ofList (read.reverse ++ found.1)) :: ·)

theorem bind_behind_cons
    (form : QuoteForm)
    (character : Char)
    (read : List Char)
    (found : Option (List Char × List Char)) :
    (found.map (Prod.map (character :: ·) id)).bind (behind form read) =
      found.bind (behind form (character :: read)) := by
  cases found with
  | none => rfl
  | some found => simp [behind]

/-- A literal is read as its form says, and the rest of the text outside of literals. -/
theorem inside_eq_bind_readBody (form : QuoteForm) (read characters : List Char) :
    inside form read characters = (form.readBody characters).bind (behind form read) := by
  induction form, characters using Dialect.QuoteForm.readBody.induct generalizing read with
  | case1 form => rfl
  | case2 rest inductionHypothesis =>
      rw [inside, inductionHypothesis, QuoteForm.readBody, bind_behind_cons]
  | case3 form rest single =>
      rw [inside, QuoteForm.readBody, Option.bind_some, behind, List.append_nil]
      · exact single
      · exact single
  | case4 => rfl
  | case5 character rest inductionHypothesis =>
      rw [inside, inductionHypothesis, QuoteForm.readBody, bind_behind_cons]
  | case6 form character rest _ unquoted last more inductionHypothesis =>
      have plain : form = .backslash → character ≠ '\\' := by
        rintro backslash rfl
        cases rest with
        | nil => exact last backslash rfl rfl
        | cons next rest => exact more next rest backslash rfl rfl
      rw [inside_cons_of_ne form unquoted plain, form.readBody_cons_of_ne unquoted plain,
        inductionHypothesis, bind_behind_cons]

/-- A quoted text is read as one literal in front of what is read behind it. -/
theorem outside_quote_append
    (dialect : Dialect)
    (value : String)
    {rest : List Char}
    (divided : rest.head? ≠ some '\'') :
    outside dialect.forms.quote ((dialect.quote value).toList ++ rest) =
      (outside dialect.forms.quote rest).map ([.literal value] ++ ·) := by
  have closed := (dialect.forms.quote.readBody_literal_eq_iff value.toList rest).mpr
    fun _ => divided
  rw [Dialect.toList_quote, List.append_assoc, List.cons_append, outside, List.singleton_append,
    inside_eq_bind_readBody, closed]
  simp [behind]

theorem close_append
    {closer : Char}
    {missing left : List Char}
    (closed : close closer missing = some left)
    (outer : List Char) :
    close closer (missing ++ outer) = some (left ++ outer) := by
  cases missing with
  | nil => simp [close] at closed
  | cons innermost missing =>
      simp only [close] at closed
      split at closed
      · rename_i same
        obtain rfl : missing = left := by simpa using closed
        simp [close, same]
      · simp at closed

/-- A lexeme touches only the closers that it needs. -/
theorem nest_append
    {lexeme : Lexeme}
    {missing left : List Char}
    (nested : nest missing lexeme = some left)
    (outer : List Char) :
    nest (missing ++ outer) lexeme = some (left ++ outer) := by
  unfold nest at nested ⊢
  split at nested
  · obtain rfl : ')' :: missing = left := by simpa using nested
    rfl
  · obtain rfl : ']' :: missing = left := by simpa using nested
    rfl
  · exact close_append nested outer
  · exact close_append nested outer
  · obtain rfl : missing = left := by simpa using nested
    rfl

/-- Lexemes touch only the closers that they need. -/
theorem foldlM_nest_append
    {lexemes : List Lexeme}
    {missing left : List Char}
    (nested : lexemes.foldlM nest missing = some left)
    (outer : List Char) :
    lexemes.foldlM nest (missing ++ outer) = some (left ++ outer) := by
  induction lexemes generalizing missing with
  | nil =>
      obtain rfl : missing = left := by simpa using nested
      rfl
  | cons lexeme lexemes inductionHypothesis =>
      simp only [List.foldlM_cons, Option.bind_eq_bind, Option.bind_eq_some_iff] at nested ⊢
      obtain ⟨middle, first, others⟩ := nested
      exact ⟨middle ++ outer, nest_append first outer, inductionHypothesis others⟩

end Lexeme
end RuleClause
