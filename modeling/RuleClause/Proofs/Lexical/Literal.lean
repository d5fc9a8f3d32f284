import RuleClause.Dialect.Template
import Mathlib.Data.List.Basic

/-!
# Literals read back

A literal ends at a quote, and the escapes of a dialect say which quotes belong to its
text.  Whatever the text is, a reader with the same escapes takes up the literal, stops
behind its closing quote and has found the text.  Only where quotes are written twice
does it matter what follows: a quote behind the literal would be taken for a part of it.
-/

namespace RuleClause
namespace Dialect
namespace QuoteForm

/-! ## Readers -/

/--
Reads a literal after its opening quote: its text, and what is left after its closing
quote.  Either a quote that is written twice stands for one, or a backslash lets the
character after it stand for itself.
-/
def readBody : QuoteForm → List Char → Option (List Char × List Char)
  | _, [] => none
  | .doubled, '\'' :: '\'' :: rest => (readBody .doubled rest).map (Prod.map ('\'' :: ·) id)
  | _, '\'' :: rest => some ([], rest)
  | .backslash, ['\\'] => none
  | .backslash, '\\' :: character :: rest =>
      (readBody .backslash rest).map (Prod.map (character :: ·) id)
  | form, character :: rest => (readBody form rest).map (Prod.map (character :: ·) id)

/-- Reads a literal at the start of a text: what it stands for, and what is left. -/
def read (form : QuoteForm) (text : String) : Option (String × String) :=
  match text.toList with
  | '\'' :: rest => (form.readBody rest).map (Prod.map String.ofList String.ofList)
  | _ => none

variable (form : QuoteForm)

/-- A character that is neither a quote nor escapes another stands for itself. -/
theorem readBody_cons_of_ne
    {character : Char}
    (unquoted : character ≠ '\'')
    (plain : form = .backslash → character ≠ '\\')
    (rest : List Char) :
    form.readBody (character :: rest) =
      (form.readBody rest).map (Prod.map (character :: ·) id) := by
  rw [readBody]
  all_goals simp_all

/-- An escaped character is read as the character, whatever follows. -/
theorem readBody_escape_append (character : Char) (rest : List Char) :
    form.readBody (form.escape character ++ rest) =
      (form.readBody rest).map (Prod.map (character :: ·) id) := by
  by_cases quote : character = '\''
  · subst quote
    cases form with
    | doubled => rfl
    | backslash => rfl
  · by_cases escaped : form = .backslash ∧ character = '\\'
    · obtain ⟨rfl, rfl⟩ := escaped
      rfl
    · have plain : form = .backslash → character ≠ '\\' := not_and.mp escaped
      have single : form.escape character = [character] := by
        cases form with
        | doubled => simp [escape, quote]
        | backslash => simp [escape, quote]
      rw [single, List.singleton_append, readBody_cons_of_ne form quote plain]

/-- So is an escaped text. -/
theorem readBody_flatMap_escape_append (text rest : List Char) :
    form.readBody (text.flatMap form.escape ++ rest) =
      (form.readBody rest).map (Prod.map (text ++ ·) id) := by
  induction text with
  | nil =>
      change form.readBody rest = (form.readBody rest).map id
      rw [Option.map_id_apply]
  | cons character text inductionHypothesis =>
      rw [List.flatMap_cons, List.append_assoc, readBody_escape_append, inductionHypothesis,
        Option.map_map]
      rfl

/-- A quote ends a literal unless it is written twice and has to be. -/
theorem readBody_quote_cons_eq_iff (rest : List Char) :
    form.readBody ('\'' :: rest) = some ([], rest) ↔
      (form = .doubled → rest.head? ≠ some '\'') := by
  cases form with
  | backslash => simp [readBody]
  | doubled =>
      cases rest with
      | nil => simp [readBody]
      | cons next rest =>
          by_cases quote : next = '\''
          · subst quote
            simp [readBody, Prod.map]
          · simp [readBody, quote]

theorem readBody_literal_eq_iff (text rest : List Char) :
    form.readBody (text.flatMap form.escape ++ '\'' :: rest) = some (text, rest) ↔
      (form = .doubled → rest.head? ≠ some '\'') := by
  rw [readBody_flatMap_escape_append, ← readBody_quote_cons_eq_iff, Option.map_eq_some_iff]
  constructor
  · rintro ⟨⟨value, left⟩, found, same⟩
    obtain ⟨joined, rfl⟩ := Prod.mk.inj same
    rw [found, List.append_right_eq_self.mp joined]
    rfl
  · intro ended
    exact ⟨_, ended, by simp⟩

theorem read_eq_some_iff
    {text : String}
    {body : List Char}
    (opened : text.toList = '\'' :: body)
    (value left : String) :
    form.read text = some (value, left) ↔
      form.readBody body = some (value.toList, left.toList) := by
  simp only [read, opened, Option.map_eq_some_iff]
  constructor
  · rintro ⟨⟨found, remaining⟩, reads, same⟩
    obtain ⟨rfl, rfl⟩ := Prod.mk.inj same
    simpa using reads
  · intro reads
    exact ⟨_, reads, by simp⟩

/-! ## Escapes as replacements -/

/-- Writes a replacement for every occurrence of a character. -/
def replaceAll (text : List Char) (replacement : Char × List Char) : List Char :=
  text.flatMap fun character => if character = replacement.1 then replacement.2 else [character]

/-- The replacements that escape a text, in their order. -/
def replacements : QuoteForm → List (Char × List Char)
  | .doubled => [('\'', ['\'', '\''])]
  | .backslash => [('\\', ['\\', '\\']), ('\'', ['\\', '\''])]

/--
To escape each character is to make one replacement after the other.  Backslashes come
first, so that those in front of quotes stay single.
-/
theorem flatMap_escape_eq_foldl_replaceAll (text : List Char) :
    text.flatMap form.escape = form.replacements.foldl replaceAll text := by
  cases form with
  | doubled =>
      refine List.flatMap_congr fun character _ => ?_
      by_cases quote : character = '\'' <;> simp [escape, quote]
  | backslash =>
      simp only [replacements, List.foldl_cons, List.foldl_nil, replaceAll, List.flatMap_assoc]
      refine List.flatMap_congr fun character _ => ?_
      by_cases backslash : character = '\\'
      · subst backslash
        rfl
      · by_cases quote : character = '\'' <;> simp [escape, backslash, quote]

end QuoteForm

theorem toList_quote (dialect : Dialect) (text : String) :
    (dialect.quote text).toList =
      '\'' :: text.toList.flatMap dialect.forms.quote.escape ++ ['\''] := by
  simp [quote]

/-- A literal is read back in front of every text that it can stand in front of. -/
theorem read_quote_append_iff (dialect : Dialect) (text rest : String) :
    dialect.forms.quote.read (dialect.quote text ++ rest) = some (text, rest) ↔
      (dialect.forms.quote = .doubled → rest.toList.head? ≠ some '\'') := by
  have opened : (dialect.quote text ++ rest).toList =
      '\'' :: (text.toList.flatMap dialect.forms.quote.escape ++ '\'' :: rest.toList) := by
    rw [String.toList_append, toList_quote]
    simp
  rw [QuoteForm.read_eq_some_iff _ opened, QuoteForm.readBody_literal_eq_iff]

/--
With the escapes of its dialect, a literal is read back as its text, up to its closing
quote and no further, whatever follows; only where quotes are written twice, no quote may
follow.  So different texts have different literals.  The literal is the text after the
replacements of the dialect, between quotes.
-/
theorem quote_reads_back_and_injective (dialect : Dialect) :
    (∀ text rest : String,
      dialect.forms.quote.read (dialect.quote text ++ rest) = some (text, rest) ↔
        (dialect.forms.quote = .doubled → rest.toList.head? ≠ some '\'')) ∧
      Function.Injective dialect.quote ∧
      ∀ text : String, (dialect.quote text).toList =
        '\'' :: dialect.forms.quote.replacements.foldl QuoteForm.replaceAll text.toList ++
          ['\''] := by
  refine ⟨dialect.read_quote_append_iff, ?_, ?_⟩
  · intro first second same
    have readFirst := (dialect.read_quote_append_iff first "").mpr (by simp)
    have readSecond := (dialect.read_quote_append_iff second "").mpr (by simp)
    rw [same, readSecond] at readFirst
    exact (Prod.mk.inj (Option.some.inj readFirst)).1.symm
  · intro text
    rw [toList_quote, QuoteForm.flatMap_escape_eq_foldl_replaceAll]

example :
    QuoteForm.doubled.read (postgreSQL.quote "it's \\" ++ " = x") = some ("it's \\", " = x") ∧
      QuoteForm.backslash.read (bigQuery.quote "\\'\\" ++ "'") = some ("\\'\\", "'") := by
  decide

end Dialect
end RuleClause
