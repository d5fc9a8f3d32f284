import RuleClause.Json.Printer
import RuleClause.Proofs.Json.Brackets
import RuleClause.Proofs.Numeral.FloatText

/-!
# The scan of brackets on printed values

A printed value is made of words, numbers, strings, dividers and brackets that pair up.
The scan passes over each of these pieces and is at the same depth behind it as before.
What it has seen between is as high as the piece rises, and a value rises as high as it
nests.  Whatever stands in its strings and keys, the scan never takes for a bracket.
-/

namespace RuleClause
namespace Json

/--
Characters outside of strings rise to a height if the scan goes up by this height among
them, and is where it was before if it gets to their end.
-/
def Rises (characters : List Char) (height : Nat) : Prop :=
  ∀ limit depth, depth ≤ limit → ∀ rest,
    bracketsExceedFrom limit .outside depth (characters ++ rest) =
      (decide (limit < depth + height) || bracketsExceedFrom limit .outside depth rest)

/-! ## How pieces are put together -/

variable {characters first second : List Char} {height other : Nat}

/-- Characters that the scan passes over do not rise. -/
theorem rises_zero_of_skipped
    (skipped : ∀ limit depth, depth ≤ limit → ∀ rest,
      bracketsExceedFrom limit .outside depth (characters ++ rest) =
        bracketsExceedFrom limit .outside depth rest) :
    Rises characters 0 := by
  intro limit depth shallow rest
  have within : ¬ limit < depth + 0 := Nat.not_lt.mpr shallow
  rw [skipped limit depth shallow, decide_eq_false within, Bool.false_or]

theorem rises_nil : Rises [] 0 :=
  rises_zero_of_skipped fun _ _ _ _ => rfl

theorem Rises.append (risesFirst : Rises first height) (risesSecond : Rises second other) :
    Rises (first ++ second) (max height other) := by
  intro limit depth shallow rest
  rw [List.append_assoc, risesFirst limit depth shallow, risesSecond limit depth shallow,
    ← Bool.or_assoc, ← Bool.decide_or]
  congr 2
  apply propext
  omega

/-- Characters of a class without marks and quotes, such as those of words and numbers. -/
theorem rises_of_class
    {isMember : Char → Bool}
    (excluded : specialCharacters.any isMember = false)
    (each : ∀ character ∈ characters, isMember character = true) :
    Rises characters 0 := by
  refine rises_zero_of_skipped fun limit depth shallow rest => ?_
  induction characters with
  | nil => rfl
  | cons character characters inductionHypothesis =>
      obtain ⟨unmarked, unquoted⟩ := unmarked_of_class excluded (each character List.mem_cons_self)
      rw [List.cons_append, bracketsExceedFrom_outside unmarked unquoted]
      exact inductionHypothesis fun other member => each other (List.mem_cons_of_mem _ member)

/-- A comma or a colon. -/
theorem rises_divider
    {divider : Char}
    {token : Token}
    (marked : mark? divider = some token)
    (level : ∀ depth, token.after depth = depth) :
    Rises [divider] 0 := by
  intro limit depth shallow rest
  rw [List.singleton_append, bracketsExceedFrom_mark marked shallow, level, Nat.add_zero]

/-- A pair of brackets adds one level to what it encloses. -/
theorem Rises.enclosed
    {opener closer : Char}
    {opening closing : Token}
    (opens : mark? opener = some opening)
    (up : ∀ depth, opening.after depth = depth + 1)
    (closes : mark? closer = some closing)
    (down : ∀ depth, closing.after depth = depth - 1)
    (inner : Rises characters height) :
    Rises (opener :: characters ++ [closer]) (height + 1) := by
  intro limit depth shallow rest
  rw [List.append_assoc, List.cons_append, bracketsExceedFrom_mark opens shallow, up]
  by_cases deep : limit < depth + 1
  · rw [decide_eq_true deep, decide_eq_true (by omega : limit < depth + (height + 1)),
      Bool.true_or, Bool.true_or]
  · have still : depth + 1 ≤ limit := Nat.not_lt.mp deep
    rw [decide_eq_false deep, Bool.false_or, inner limit (depth + 1) still,
      List.singleton_append, bracketsExceedFrom_mark closes still, down, Nat.add_sub_cancel,
      decide_eq_false (Nat.not_lt.mpr shallow), Bool.false_or, Nat.add_assoc, Nat.add_comm 1]

theorem rises_comma : Rises [','] 0 :=
  rises_divider rfl fun _ => rfl

theorem rises_colon : Rises [':'] 0 :=
  rises_divider rfl fun _ => rfl

/-! ## Words, numbers and strings -/

theorem rises_word (letters : characters.all Char.isAlpha = true) : Rises characters 0 :=
  rises_of_class rfl (List.all_eq_true.mp letters)

theorem rises_number (value : Number) : Rises value.text.toList 0 := by
  have marks : Text.numberMarks.all isNumberPart = true := rfl
  obtain ⟨spelling, spelled, _, same⟩ := value.exists_spelling_text
  rw [same, String.toList_ofList]
  have each : ∀ character ∈ spelling.chars, isNumberPart character = true := by
    intro character member
    rcases spelled.digit_or_mark member with digit | mark
    · simp [isNumberPart, digit]
    · exact List.all_eq_true.mp marks character mark
  exact rises_of_class rfl each

/-- No hexadecimal digit ends a string or begins an escape. -/
theorem digitChar_inside :
    ∀ digit < 16, Nat.digitChar digit ≠ '\\' ∧ Nat.digitChar digit ≠ '"' := by
  decide

/-- The scan passes over a character as it stands between quotes, whatever character it is. -/
theorem bracketsExceedFrom_escaped
    (character : Char)
    (limit depth : Nat)
    (rest : List Char) :
    bracketsExceedFrom limit .inside depth (escaped character ++ rest) =
      bracketsExceedFrom limit .inside depth rest := by
  unfold escaped
  split_ifs with quote backslash
  -- whatever letter follows a backslash, the scan is inside the string again behind it
  any_goals rfl
  · obtain ⟨plainFirst, unquotedFirst⟩ := digitChar_inside (character.toNat / 16) (by omega)
    obtain ⟨plainSecond, unquotedSecond⟩ := digitChar_inside (character.toNat % 16) (by omega)
    change bracketsExceedFrom limit .inside depth (_ :: _ :: rest) = _
    rw [bracketsExceedFrom_inside plainFirst unquotedFirst,
      bracketsExceedFrom_inside plainSecond unquotedSecond]
  · exact bracketsExceedFrom_inside backslash quote limit depth rest

/-- The scan leaves a string at the quote behind its text, and at none inside of it. -/
theorem bracketsExceedFrom_quoted
    (text : List Char)
    (limit depth : Nat)
    (rest : List Char) :
    bracketsExceedFrom limit .inside depth (text.flatMap escaped ++ '"' :: rest) =
      bracketsExceedFrom limit .outside depth rest := by
  induction text with
  | nil => rfl
  | cons character text inductionHypothesis =>
      rw [List.flatMap_cons, List.append_assoc, bracketsExceedFrom_escaped, inductionHypothesis]

theorem rises_quoted (text : String) : Rises (quoted text) 0 := by
  refine rises_zero_of_skipped fun limit depth _ rest => ?_
  rw [quoted, List.append_assoc, List.singleton_append, List.cons_append]
  exact bracketsExceedFrom_quoted text.toList limit depth rest

/-! ## Values -/

theorem rises_compactItems
    (items : List Json)
    (each : ∀ item ∈ items, Rises item.compact item.nesting) :
    Rises (compactItems items) (itemsNesting items) := by
  induction items with
  | nil => exact rises_nil
  | cons item rest inductionHypothesis =>
      obtain ⟨risesItem, risesRest⟩ := List.forall_mem_cons.mp each
      cases rest with
      | nil => simpa [compactItems, itemsNesting] using risesItem
      | cons next rest =>
          have divided := risesItem.append (rises_comma.append (inductionHypothesis risesRest))
          simpa [compactItems, itemsNesting] using divided

theorem rises_compactMembers
    (members : List (String × Json))
    (each : ∀ member ∈ members, Rises member.2.compact member.2.nesting) :
    Rises (compactMembers members) (membersNesting members) := by
  induction members with
  | nil => exact rises_nil
  | cons member rest inductionHypothesis =>
      obtain ⟨key, value⟩ := member
      obtain ⟨risesValue, risesRest⟩ := List.forall_mem_cons.mp each
      have risesMember := (rises_quoted key).append (rises_colon.append risesValue)
      cases rest with
      | nil => simpa [compactMembers, membersNesting] using risesMember
      | cons next rest =>
          have divided := risesMember.append (rises_comma.append (inductionHypothesis risesRest))
          simpa [compactMembers, membersNesting] using divided

/-- The compact text of a value rises as high as the value nests. -/
theorem rises_compact (value : Json) : Rises value.compact value.nesting := by
  cases value with
  | null => exact rises_word rfl
  | bool value =>
      cases value with
      | true => exact rises_word rfl
      | false => exact rises_word rfl
  | number value => exact rises_number value
  | string value => exact rises_quoted value
  | array items =>
      have inner := rises_compactItems items fun item _ => rises_compact item
      rw [compact, nesting]
      exact inner.enclosed rfl (fun _ => rfl) rfl fun _ => rfl
  | object members =>
      have inner := rises_compactMembers members fun member _ => rises_compact member.2
      rw [compact, nesting]
      exact inner.enclosed rfl (fun _ => rfl) rfl fun _ => rfl
termination_by sizeOf value
decreasing_by
  · have smaller := List.sizeOf_lt_of_mem ‹item ∈ items›
    simp only [array.sizeOf_spec]
    omega
  · have smaller := List.sizeOf_lt_of_mem ‹member ∈ members›
    rw [Prod.mk.sizeOf_spec member.1 member.2] at smaller
    simp only [object.sizeOf_spec]
    omega

/--
The scan finds the compact text of a value too deep exactly if the value nests deeper than
the limit, whatever its strings and keys are.
-/
theorem bracketsExceed_print_iff (value : Json) (limit : Nat) :
    bracketsExceed limit value.print = true ↔ limit < value.nesting := by
  have scanned := rises_compact value limit 0 (Nat.zero_le limit) []
  rw [List.append_nil, Nat.zero_add, bracketsExceedFrom, Bool.or_false] at scanned
  rw [bracketsExceed, print, String.toList_ofList, scanned, decide_eq_true_iff]

end Json
end RuleClause
