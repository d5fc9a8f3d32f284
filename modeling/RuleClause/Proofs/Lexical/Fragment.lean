import RuleClause.Proofs.Lexical.Scan

/-!
# Sound fragments

A fragment of SQL is sound when it can be read by itself: it ends outside of
literals, its brackets pair up, it opens no comment, and its literals are among
the allowed ones.  Sound fragments stay sound when a template puts them together,
as long as there is a divider between any two of them.
-/

namespace RuleClause

open Lexeme
open Dialect (QuoteForm)

variable {form : QuoteForm} {allowed : String → Prop} {missing left : List Char}

/-- A text is read as some lexemes wherever no quote follows it. -/
def ReadsAs (form : QuoteForm) (text : List Char) (lexemes : List Lexeme) : Prop :=
  ∀ rest, rest.head? ≠ some '\'' →
    outside form (text ++ rest) = (outside form rest).map (lexemes ++ ·)

/-- A text is sound but for the closers that are missing at its end. -/
def LeavesOpen
    (form : QuoteForm)
    (allowed : String → Prop)
    (missing : List Char)
    (text : String) : Prop :=
  ∃ lexemes, ReadsAs form text.toList lexemes ∧
    lexemes.foldlM nest [] = some missing ∧
    Uncommented lexemes ∧
    ∀ value, .literal value ∈ lexemes → allowed value

/-- A text can be read by itself. -/
def Sound (form : QuoteForm) (allowed : String → Prop) (text : String) : Prop :=
  LeavesOpen form allowed [] text

/--
A text can stand between fragments: it holds no quote, opens no comment, not even
together with its neighbours, and changes the missing closers as stated.
-/
structure Divides (missing : List Char) (text : String) (left : List Char) : Prop where
  unquoted : ∀ character ∈ text.toList, character ≠ '\''
  nested : (text.toList.map Lexeme.symbol).foldlM nest missing = some left
  uncommented : (text.toList.map Lexeme.symbol).IsChain fun first second =>
    opensComment first second = false
  starts : ∃ character ∈ text.toList.head?, character ≠ '-' ∧ character ≠ '*'
  ends : ∃ character ∈ text.toList.getLast?, character ≠ '-' ∧ character ≠ '/'

instance (missing : List Char) (text : String) (left : List Char) :
    Decidable (Divides missing text left) :=
  decidable_of_iff
    (text.toList.all (· != '\'') = true ∧
      (text.toList.map Lexeme.symbol).foldlM nest missing = some left ∧
      ((text.toList.map Lexeme.symbol).IsChain fun first second =>
        opensComment first second = false) ∧
      text.toList.head?.any (fun first => first != '-' && first != '*') = true ∧
      text.toList.getLast?.any (fun last => last != '-' && last != '/') = true)
    ⟨fun ⟨unquoted, nested, uncommented, starts, ends⟩ =>
      ⟨by simpa using unquoted, nested, uncommented,
        by simpa [Option.any_eq_true] using starts, by simpa [Option.any_eq_true] using ends⟩,
     fun divides =>
      ⟨by simpa using divides.unquoted, divides.nested, divides.uncommented,
        by simpa [Option.any_eq_true] using divides.starts,
        by simpa [Option.any_eq_true] using divides.ends⟩⟩

example : Divides [')'] ") AS " [] := by
  decide

theorem Lexeme.opensComment_symbol_right
    (lexeme : Lexeme)
    {character : Char}
    (plain : character ≠ '-' ∧ character ≠ '*') :
    opensComment lexeme (.symbol character) = false := by
  unfold opensComment
  split <;> simp_all

theorem Lexeme.opensComment_symbol_left
    (lexeme : Lexeme)
    {character : Char}
    (plain : character ≠ '-' ∧ character ≠ '/') :
    opensComment (.symbol character) lexeme = false := by
  unfold opensComment
  split <;> simp_all

/-- A text that starts with a divider does not start with a quote. -/
theorem Divides.head?_append_ne
    {text : String}
    (divides : Divides missing text left)
    (rest : List Char) :
    (text.toList ++ rest).head? ≠ some '\'' := by
  obtain ⟨first, starts, _⟩ := divides.starts
  have unquoted := divides.unquoted first (List.mem_of_mem_head? starts)
  simpa [List.head?_append, Option.mem_def.mp starts] using unquoted

namespace LeavesOpen

/-- The empty text leaves nothing open. -/
theorem nil : LeavesOpen form allowed [] "" :=
  ⟨[], fun rest _ => by simp, rfl, .nil, by simp⟩

/-- A divider and a sound fragment go on where a text has left off. -/
theorem fill
    {text divider filling : String}
    (opened : LeavesOpen form allowed missing text)
    (divides : Divides missing divider left)
    (sound : Sound form allowed filling) :
    LeavesOpen form allowed left (text ++ divider ++ filling) := by
  obtain ⟨before, readsBefore, nestsBefore, chainBefore, allowedBefore⟩ := opened
  obtain ⟨after, readsAfter, nestsAfter, chainAfter, allowedAfter⟩ := sound
  refine ⟨before ++ divider.toList.map .symbol ++ after, ?_, ?_, ?_, ?_⟩
  · intro rest divided
    rw [String.toList_append, String.toList_append, List.append_assoc, List.append_assoc,
      readsBefore _ (divides.head?_append_ne _), outside_append_of_unquoted form divides.unquoted,
      readsAfter rest divided]
    simp [Function.comp_def]
  · have inner := foldlM_nest_append nestsAfter left
    simp only [List.nil_append] at inner
    simp [List.foldlM_append, nestsBefore, divides.nested, inner]
  · obtain ⟨first, starts, plainFirst⟩ := divides.starts
    obtain ⟨last, ends, plainLast⟩ := divides.ends
    have head : (divider.toList.map Lexeme.symbol).head? = some (.symbol first) := by
      simp [List.head?_map, Option.mem_def.mp starts]
    have final :
        (before ++ divider.toList.map Lexeme.symbol).getLast? = some (.symbol last) := by
      simp [List.getLast?_append, List.getLast?_map, Option.mem_def.mp ends]
    refine List.isChain_append.mpr ⟨List.isChain_append.mpr ⟨chainBefore, divides.uncommented, ?_⟩,
      chainAfter, ?_⟩
    · intro lexeme _ other starting
      obtain rfl : Lexeme.symbol first = other := by simpa [head] using starting
      exact opensComment_symbol_right lexeme plainFirst
    · intro other ending lexeme _
      obtain rfl : Lexeme.symbol last = other := by simpa [final] using ending
      exact opensComment_symbol_left lexeme plainLast
  · intro value member
    simp only [List.mem_append, List.mem_map, reduceCtorEq, and_false, exists_false,
      or_false] at member
    rcases member with earlier | later
    · exact allowedBefore value earlier
    · exact allowedAfter value later

/-- A divider ends a text. -/
theorem trail
    {text divider : String}
    (opened : LeavesOpen form allowed missing text)
    (divides : Divides missing divider left) :
    LeavesOpen form allowed left (text ++ divider) := by
  simpa using opened.fill divides nil

/-- A divider leads to a sound fragment. -/
theorem lead
    {divider filling : String}
    (divides : Divides [] divider left)
    (sound : Sound form allowed filling) :
    LeavesOpen form allowed left (divider ++ filling) := by
  simpa using nil.fill divides sound

end LeavesOpen

/-- A text holds neither quotes nor brackets, and opens no comment. -/
structure Inert (text : List Char) : Prop where
  plain : ∀ character ∈ text, character ∉ ['\'', '(', ')', '[', ']']
  uncommented : (text.map Lexeme.symbol).IsChain fun first second =>
    opensComment first second = false

instance (text : List Char) : Decidable (Inert text) :=
  decidable_of_iff
    (text.all (fun character => ! ['\'', '(', ')', '[', ']'].contains character) = true ∧
      (text.map Lexeme.symbol).IsChain fun first second => opensComment first second = false)
    ⟨fun ⟨plain, uncommented⟩ => ⟨by simpa using plain, uncommented⟩,
     fun inert => ⟨by simpa using inert.plain, inert.uncommented⟩⟩

theorem Inert.foldlM_nest
    {text : List Char}
    (plain : ∀ character ∈ text, character ∉ ['\'', '(', ')', '[', ']']) :
    (text.map Lexeme.symbol).foldlM nest missing = some missing := by
  induction text with
  | nil => rfl
  | cons character text inductionHypothesis =>
      have same : nest missing (.symbol character) = some missing := by
        have outer := plain character List.mem_cons_self
        unfold nest
        split <;> simp_all
      simp only [List.map_cons, List.foldlM_cons, same, Option.bind_eq_bind, Option.bind_some]
      exact inductionHypothesis fun other member => plain other (List.mem_cons_of_mem _ member)

/-- A minus sign may stand in front of an inert text that does not start with another one. -/
theorem Inert.minus
    {text : List Char}
    (inert : Inert text)
    (unsigned : text.head? ≠ some '-') :
    Inert ('-' :: text) where
  plain := by
    intro character member
    rcases List.mem_cons.mp member with rfl | later
    · decide
    · exact inert.plain character later
  uncommented := by
    refine List.isChain_cons.mpr ⟨?_, inert.uncommented⟩
    intro lexeme starting
    cases text with
    | nil => simp at starting
    | cons character text =>
        obtain rfl : Lexeme.symbol character = lexeme := by simpa using starting
        have different : character ≠ '-' := by simpa using unsigned
        unfold opensComment
        split <;> simp_all

namespace Sound

/-- A text without quotes and brackets is sound as long as it opens no comment. -/
theorem of_inert
    {text : String}
    (inert : Inert text.toList) :
    Sound form allowed text := by
  have unquoted : ∀ character ∈ text.toList, character ≠ '\'' := by
    rintro _ member rfl
    exact inert.plain _ member (by simp)
  exact ⟨text.toList.map .symbol,
    fun rest _ => outside_append_of_unquoted form unquoted rest,
    Inert.foldlM_nest inert.plain, inert.uncommented, by simp⟩

/-- A quoted text is sound when it is allowed. -/
theorem quote
    {dialect : Dialect}
    {value : String}
    (permitted : allowed value) :
    Sound dialect.forms.quote allowed (dialect.quote value) := by
  refine ⟨[.literal value], ?_, rfl, List.isChain_singleton _, by simpa using permitted⟩
  intro rest divided
  exact outside_quote_append dialect value divided

/-- A fragment in parentheses is sound. -/
theorem parenthesized
    {text : String}
    (sound : Sound form allowed text) :
    Sound form allowed (Dialect.parenthesized text) := by
  have opened : LeavesOpen form allowed [')'] ("(" ++ text) := .lead (by decide) sound
  exact opened.trail (by decide)

/-- Sound fragments with a divider between them are sound. -/
theorem intercalate
    {divider : String}
    {texts : List String}
    (divides : Divides [] divider [])
    (sound : ∀ text ∈ texts, Sound form allowed text) :
    Sound form allowed (divider.intercalate texts) := by
  induction texts with
  | nil => exact LeavesOpen.nil
  | cons text rest inductionHypothesis =>
      cases rest with
      | nil => simpa using sound text List.mem_cons_self
      | cons second rest =>
          rw [String.intercalate_cons_cons]
          have others := inductionHypothesis fun other member =>
            sound other (List.mem_cons_of_mem _ member)
          exact (sound text List.mem_cons_self).fill divides others

theorem commas
    {texts : List String}
    (sound : ∀ text ∈ texts, Sound form allowed text) :
    Sound form allowed (Dialect.commas texts) :=
  intercalate (by decide) sound

/-- A function with sound arguments is sound. -/
theorem call
    {function : String}
    {arguments : List String}
    (inert : Inert function.toList)
    (sound : ∀ argument ∈ arguments, Sound form allowed argument) :
    Sound form allowed (Dialect.call function arguments) := by
  have opened : LeavesOpen form allowed [')'] (function ++ "(" ++ Dialect.commas arguments) :=
    (of_inert inert).fill (by decide) (commas sound)
  have closed : Sound form allowed (function ++ "(" ++ Dialect.commas arguments ++ ")") :=
    opened.trail (by decide)
  rwa [Dialect.call, Dialect.parenthesized, ← String.append_assoc, ← String.append_assoc]

theorem callFromLeft
    {function : String}
    {arguments : List String}
    (inert : Inert function.toList)
    (sound : ∀ argument ∈ arguments, Sound form allowed argument) :
    Sound form allowed (Dialect.callFromLeft function arguments) := by
  cases arguments with
  | nil => exact LeavesOpen.nil
  | cons first rest =>
      have start := sound first List.mem_cons_self
      have others := fun other member => sound other (List.mem_cons_of_mem first member)
      clear sound
      simp only [Dialect.callFromLeft]
      -- The text so far stays sound as each further argument is taken in.
      induction rest generalizing first with
      | nil => exact start
      | cons second rest inductionHypothesis =>
          refine inductionHypothesis _ (call inert ?_) fun other member =>
            others other (List.mem_cons_of_mem _ member)
          simp [start, others second List.mem_cons_self]

end Sound

end RuleClause
