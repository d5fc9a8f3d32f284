import RuleClause.Dialect.Template

/-!
# Literals under two kinds of escapes

A lexer may take a backslash for an escape although quotes are written twice.  To such a
lexer, a literal in which only the quotes are escaped stands for its text exactly if no
backslash of the text is taken for an escape.  Otherwise the quote that should end the
literal may not, or one inside of the text may.

The argument counts.  In what is written for a text, quotes come in pairs, so that each
character of the text has the same weight there if a quote weighs half as much as another
character.  A lexer that reads an escape takes in more weight than it gives out as text.
-/

namespace RuleClause
namespace Literal

open Dialect (QuoteForm)

/-- Puts a piece of text in front of what is read after it. -/
def prepend (piece : List Char) (read : List Char × List Char) : List Char × List Char :=
  (piece ++ read.1, read.2)

/--
Reads a literal after its opening quote: its text, and what is left after its closing
quote.  A quote that is written twice stands for one.  A backslash escapes the character
after it, or stands for itself in front of a character that it does not escape.
-/
def readBody (escapes : Char → Option Char) : List Char → Option (List Char × List Char)
  | [] => none
  | '\'' :: '\'' :: rest => (readBody escapes rest).map (prepend ['\''])
  | '\'' :: rest => some ([], rest)
  | ['\\'] => none
  | '\\' :: character :: rest =>
      match escapes character with
      | some meant => (readBody escapes rest).map (prepend [meant])
      | none => (readBody escapes rest).map (prepend ['\\', character])
  | character :: rest => (readBody escapes rest).map (prepend [character])

/-- Reads a literal at the start of a text: what it stands for, and what is left. -/
def read (escapes : Char → Option Char) (text : String) : Option (String × String) :=
  match text.toList with
  | '\'' :: rest =>
      (readBody escapes rest).map fun found => (String.ofList found.1, String.ofList found.2)
  | _ => none

example : read some "'it''s \\\\' = x" = some ("it's \\", " = x") := by
  decide

/-! ## Weights -/

/-- A quote weighs half as much as any other character. -/
def weight : List Char → Nat
  | [] => 0
  | character :: rest => (if character = '\'' then 1 else 2) + weight rest

@[simp]
theorem weight_nil : weight [] = 0 :=
  rfl

@[simp]
theorem weight_cons (character : Char) (rest : List Char) :
    weight (character :: rest) = (if character = '\'' then 1 else 2) + weight rest :=
  rfl

/-- An escape is heavier than the character that it stands for. -/
theorem weight_escape_ge (character : Char) (rest : List Char) :
    3 + weight rest ≤ weight ('\\' :: character :: rest) := by
  rw [weight_cons, weight_cons, if_neg (by decide)]
  split <;> omega

/-- A text as it is written after the opening quote, in front of what follows the literal. -/
def written (text rest : List Char) : List Char :=
  text.flatMap QuoteForm.doubled.escape ++ '\'' :: rest

@[simp]
theorem written_quote (text rest : List Char) :
    written ('\'' :: text) rest = '\'' :: '\'' :: written text rest :=
  rfl

theorem written_of_ne {character : Char} (unquoted : character ≠ '\'') (text rest : List Char) :
    written (character :: text) rest = character :: written text rest := by
  simp [written, QuoteForm.escape, unquoted]

/-- Each character of a text has the same weight where it is written. -/
theorem weight_written (text rest : List Char) :
    weight (written text rest) = 2 * text.length + 1 + weight rest := by
  induction text with
  | nil => simp [written]
  | cons character text inductionHypothesis =>
      by_cases quote : character = '\''
      · subst quote
        rw [written_quote, weight_cons, weight_cons, if_pos rfl, inductionHypothesis,
          List.length_cons]
        omega
      · rw [written_of_ne quote, weight_cons, if_neg quote, inductionHypothesis, List.length_cons]
        omega

variable {escapes : Char → Option Char}

theorem map_prepend_eq_some_iff
    (read : Option (List Char × List Char))
    (piece value left : List Char) :
    read.map (prepend piece) = some (value, left) ↔
      ∃ inner, read = some (inner, left) ∧ piece ++ inner = value := by
  rw [Option.map_eq_some_iff]
  constructor
  · rintro ⟨⟨inner, remaining⟩, found, same⟩
    obtain ⟨rfl, rfl⟩ := Prod.mk.inj same
    exact ⟨inner, found, rfl⟩
  · rintro ⟨inner, found, rfl⟩
    exact ⟨(inner, left), found, rfl⟩

/-- A reader takes in at least the weight of the text that it gives out. -/
theorem weight_of_readBody
    (escapesQuote : escapes '\'' ≠ none)
    {characters value left : List Char}
    (reads : readBody escapes characters = some (value, left)) :
    2 * value.length + 1 + weight left ≤ weight characters := by
  induction characters using readBody.induct escapes generalizing value left with
  | case1 => simp [readBody] at reads
  | case2 rest inductionHypothesis =>
      rw [readBody, map_prepend_eq_some_iff] at reads
      obtain ⟨inner, read, rfl⟩ := reads
      have bound := inductionHypothesis read
      simp only [weight_cons, ↓reduceIte, List.length_append, List.length_singleton]
      omega
  | case3 rest single =>
      rw [readBody] at reads
      · cases reads
        simp
      · exact single
  | case4 => simp [readBody] at reads
  | case5 character rest meant escaped inductionHypothesis =>
      rw [readBody, escaped, map_prepend_eq_some_iff] at reads
      obtain ⟨inner, read, rfl⟩ := reads
      have bound := inductionHypothesis read
      have heavy := weight_escape_ge character rest
      rw [List.length_append, List.length_singleton]
      omega
  | case6 character rest kept inductionHypothesis =>
      have unquoted : character ≠ '\'' := by
        rintro rfl
        exact escapesQuote kept
      rw [readBody, kept, map_prepend_eq_some_iff] at reads
      obtain ⟨inner, read, rfl⟩ := reads
      have bound := inductionHypothesis read
      rw [weight_cons, weight_cons, if_neg (by decide), if_neg unquoted, List.length_append]
      simp only [List.length_cons, List.length_nil]
      omega
  | case7 character rest _ unquoted _ _ inductionHypothesis =>
      rw [readBody, map_prepend_eq_some_iff] at reads
      · obtain ⟨inner, read, rfl⟩ := reads
        have bound := inductionHypothesis read
        rw [weight_cons, if_neg unquoted, List.length_append, List.length_singleton]
        omega
      all_goals assumption

/-- A reader that reads an escape takes in more. -/
theorem weight_of_readBody_escape
    (escapesQuote : escapes '\'' ≠ none)
    {character : Char}
    (escaped : escapes character ≠ none)
    {rest value left : List Char}
    (reads : readBody escapes ('\\' :: character :: rest) = some (value, left)) :
    2 * value.length + 1 + weight left < weight ('\\' :: character :: rest) := by
  obtain ⟨meant, found⟩ := Option.ne_none_iff_exists'.mp escaped
  rw [readBody, found, map_prepend_eq_some_iff] at reads
  obtain ⟨inner, read, rfl⟩ := reads
  have bound := weight_of_readBody escapesQuote read
  have heavy := weight_escape_ge character rest
  simp only [List.length_append, List.length_singleton]
  omega

/-! ## Reading what is written -/

/-- Every backslash of a text stands in front of a character that it does not escape. -/
def Unescaped (escapes : Char → Option Char) (text : List Char) : Prop :=
  ∀ before after, text = before ++ '\\' :: after → ∃ next ∈ after.head?, escapes next = none

theorem unescaped_nil : Unescaped escapes [] := by
  simp [Unescaped]

theorem unescaped_cons_of_ne {character : Char} (plain : character ≠ '\\') (text : List Char) :
    Unescaped escapes (character :: text) ↔ Unescaped escapes text := by
  constructor
  · rintro unescaped before after rfl
    exact unescaped (character :: before) after rfl
  · intro unescaped before after split
    cases before with
    | nil => exact absurd (List.cons.inj split).1 plain
    | cons first before => exact unescaped before after (List.cons.inj split).2

theorem unescaped_backslash_iff (text : List Char) :
    Unescaped escapes ('\\' :: text) ↔
      (∃ next ∈ text.head?, escapes next = none) ∧ Unescaped escapes text := by
  constructor
  · intro unescaped
    refine ⟨unescaped [] text rfl, ?_⟩
    rintro before after rfl
    exact unescaped ('\\' :: before) after rfl
  · rintro ⟨kept, unescaped⟩ before after split
    cases before with
    | nil =>
        obtain rfl := (List.cons.inj split).2
        exact kept
    | cons first before => exact unescaped before after (List.cons.inj split).2

/-- A reader that finds an escape at once does not read back what was written. -/
theorem readBody_written_ne_of_escape
    (escapesQuote : escapes '\'' ≠ none)
    {character : Char}
    (escaped : escapes character ≠ none)
    {text rest more : List Char}
    (starts : written text rest = '\\' :: character :: more) :
    readBody escapes (written text rest) ≠ some (text, rest) := by
  intro reads
  have weighs := weight_written text rest
  rw [starts] at reads weighs
  have lost := weight_of_readBody_escape escapesQuote escaped reads
  omega

/-- What is written for a character is read first, so that the rest has to be read back. -/
theorem readBody_written_cons_iff
    {character : Char}
    (plain : character ≠ '\\')
    (text rest : List Char) :
    readBody escapes (written (character :: text) rest) = some (character :: text, rest) ↔
      readBody escapes (written text rest) = some (text, rest) := by
  by_cases quote : character = '\''
  · subst quote
    rw [written_quote, readBody, map_prepend_eq_some_iff]
    simp
  · rw [written_of_ne quote, readBody, map_prepend_eq_some_iff]
    · simp
    all_goals simp [quote, plain]

/-- The same for a backslash in front of a character that it does not escape. -/
theorem readBody_written_kept_iff
    (escapesQuote : escapes '\'' ≠ none)
    {next : Char}
    (kept : escapes next = none)
    (text rest : List Char) :
    readBody escapes (written ('\\' :: next :: text) rest) = some ('\\' :: next :: text, rest) ↔
      readBody escapes (written text rest) = some (text, rest) := by
  have unquoted : next ≠ '\'' := by
    rintro rfl
    exact escapesQuote kept
  rw [written_of_ne (by decide), written_of_ne unquoted, readBody, kept, map_prepend_eq_some_iff]
  simp

/-- A literal is read back exactly if no backslash of its text is taken for an escape. -/
theorem readBody_written_iff
    (escapesQuote : escapes '\'' ≠ none)
    (escapesBackslash : escapes '\\' ≠ none)
    {rest : List Char}
    (apart : rest.head? ≠ some '\'')
    (text : List Char) :
    readBody escapes (written text rest) = some (text, rest) ↔ Unescaped escapes text := by
  -- a backslash is read together with the character after it, so two may have to be passed
  induction length : text.length using Nat.strongRecOn generalizing text with
  | ind size inductionHypothesis =>
    subst length
    cases text with
    | nil =>
        have closed : readBody escapes (written [] rest) = some ([], rest) := by
          rw [written, List.flatMap_nil, List.nil_append, readBody]
          rintro others rfl
          exact apart rfl
        exact iff_of_true closed unescaped_nil
    | cons character text =>
        by_cases plain : character = '\\'
        · subst plain
          rw [unescaped_backslash_iff]
          cases text with
          | nil =>
              refine iff_of_false (readBody_written_ne_of_escape escapesQuote escapesQuote rfl) ?_
              simp
          | cons next text =>
              by_cases kept : escapes next = none
              · have ordinary : next ≠ '\\' := by
                  rintro rfl
                  exact escapesBackslash kept
                rw [readBody_written_kept_iff escapesQuote kept, unescaped_cons_of_ne ordinary,
                  inductionHypothesis _ (by simp only [List.length_cons]; omega) text rfl]
                simp [kept]
              · obtain ⟨more, starts⟩ : ∃ more,
                    written ('\\' :: next :: text) rest = '\\' :: next :: more := by
                  rw [written_of_ne (by decide)]
                  by_cases quote : next = '\''
                  · subst quote
                    exact ⟨_, rfl⟩
                  · exact ⟨_, by rw [written_of_ne quote]⟩
                refine iff_of_false (readBody_written_ne_of_escape escapesQuote kept starts) ?_
                simp [kept]
        · rw [readBody_written_cons_iff plain, unescaped_cons_of_ne plain,
            inductionHypothesis _ (by simp) text rfl]

theorem read_eq_some_iff
    {text : String}
    {body : List Char}
    (opened : text.toList = '\'' :: body)
    (value left : String) :
    read escapes text = some (value, left) ↔
      readBody escapes body = some (value.toList, left.toList) := by
  simp only [read, opened, Option.map_eq_some_iff, Prod.mk.injEq]
  constructor
  · rintro ⟨found, reads, rfl, rfl⟩
    simpa using reads
  · intro reads
    exact ⟨_, reads, by simp, by simp⟩

end Literal

/--
Where a backslash escapes quotes and backslashes, and perhaps other characters, and a
quote written twice stands for one, a literal of ClickHouse stands for its text, and ends
where it should, exactly if no backslash of the text is in front of a character that it
escapes, and none is at the end.
-/
theorem clickHouse_quote_reads_back_iff
    (escapes : Char → Option Char)
    (escapesQuote : escapes '\'' ≠ none)
    (escapesBackslash : escapes '\\' ≠ none)
    (text rest : String)
    (apart : rest.toList.head? ≠ some '\'') :
    Literal.read escapes (Dialect.clickHouse.quote text ++ rest) = some (text, rest) ↔
      Literal.Unescaped escapes text.toList := by
  have characters : (Dialect.clickHouse.quote text ++ rest).toList =
      '\'' :: Literal.written text.toList rest.toList := by
    simp [Dialect.quote, Dialect.forms, Literal.written]
  rw [Literal.read_eq_some_iff characters]
  exact Literal.readBody_written_iff escapesQuote escapesBackslash apart text.toList

/-- A backslash that escapes all but the percent sign. -/
def patternEscapes (character : Char) : Option Char :=
  if character = '%' then none else some character

theorem clickHouse_quote_reads_back_pattern :
    patternEscapes '\'' ≠ none ∧ patternEscapes '\\' ≠ none ∧
      ";".toList.head? ≠ some '\'' ∧
      Literal.read patternEscapes (Dialect.clickHouse.quote "it's 100\\%" ++ ";") =
        some ("it's 100\\%", ";") := by
  refine ⟨by decide, by decide, by decide, ?_⟩
  rw [clickHouse_quote_reads_back_iff patternEscapes (by decide) (by decide) _ _ (by decide)]
  change Literal.Unescaped patternEscapes ['i', 't', '\'', 's', ' ', '1', '0', '0', '\\', '%']
  simp [Literal.unescaped_cons_of_ne, Literal.unescaped_backslash_iff, Literal.unescaped_nil,
    patternEscapes]

/--
A backslash in front of a quote lets the rest of a text out of its literal, and one at the
end of a text keeps the literal from ending.
-/
theorem clickHouse_quote_lets_text_out :
    Dialect.clickHouse.quote "\\' OR 1=1 --" = "'\\'' OR 1=1 --'" ∧
      Literal.read some (Dialect.clickHouse.quote "\\' OR 1=1 --") =
        some ("'", " OR 1=1 --'") ∧
      Literal.read some (Dialect.clickHouse.quote "\\") = none := by
  decide

end RuleClause
