import RuleClause.Json.Reader

/-!
# How deep values nest

Every array and every object is one level of nesting.  While tokens are read, the
number of brackets that are open is the number of levels around the current place, so
the most brackets that were ever open are the levels of the value that is read.
-/

namespace RuleClause
namespace Json

mutual

/-- The number of arrays and objects around the innermost part of a value. -/
def nesting : Json → Nat
  | .array items => itemsNesting items + 1
  | .object members => membersNesting members + 1
  | .null | .bool _ | .number _ | .string _ => 0

/-- The nesting of the deepest item. -/
def itemsNesting : List Json → Nat
  | [] => 0
  | item :: rest => max item.nesting (itemsNesting rest)

/-- The nesting of the deepest value of a member. -/
def membersNesting : List (String × Json) → Nat
  | [] => 0
  | (_, value) :: rest => max value.nesting (membersNesting rest)

end

theorem itemsNesting_append (first second : List Json) :
    itemsNesting (first ++ second) = max (itemsNesting first) (itemsNesting second) := by
  induction first with
  | nil => simp [itemsNesting]
  | cons item rest inductionHypothesis =>
      simp only [List.cons_append, itemsNesting, inductionHypothesis, Nat.max_assoc]

@[simp]
theorem itemsNesting_reverse (items : List Json) :
    itemsNesting items.reverse = itemsNesting items := by
  induction items with
  | nil => rfl
  | cons item rest inductionHypothesis =>
      rw [List.reverse_cons, itemsNesting_append, inductionHypothesis, Nat.max_comm]
      simp [itemsNesting]

theorem membersNesting_eq (members : List (String × Json)) :
    membersNesting members = itemsNesting (members.map (·.2)) := by
  induction members with
  | nil => rfl
  | cons member rest inductionHypothesis =>
      rw [membersNesting, inductionHypothesis, List.map_cons, itemsNesting]

@[simp]
theorem membersNesting_reverse (members : List (String × Json)) :
    membersNesting members.reverse = membersNesting members := by
  rw [membersNesting_eq, List.map_reverse, itemsNesting_reverse, membersNesting_eq]

/-! ## Brackets among tokens -/

/-- The number of open brackets after a token, from their number before it. -/
def Token.after (token : Token) (depth : Nat) : Nat :=
  match token with
  | .openArray | .openObject => depth + 1
  | .closeArray | .closeObject => depth - 1
  | .comma | .colon | .null | .bool _ | .number _ | .string _ => depth

/-- The number of open brackets after tokens that are given last first. -/
def openBrackets : List Token → Nat
  | [] => 0
  | token :: earlier => token.after (openBrackets earlier)

/-- The most brackets that were open at once among tokens that are given last first. -/
def mostBrackets : List Token → Nat
  | [] => 0
  | token :: earlier => max (mostBrackets earlier) (openBrackets (token :: earlier))

theorem openBrackets_le_mostBrackets (tokens : List Token) :
    openBrackets tokens ≤ mostBrackets tokens := by
  cases tokens with
  | nil => exact Nat.le_refl 0
  | cons token earlier => exact Nat.le_max_right _ _

/-! ## The reader -/

/-- The nesting of what a container holds so far. -/
def Frame.nesting : Frame → Nat
  | .array items => itemsNesting items
  | .member members _ => membersNesting members

/-- The most levels inside the containers that are open. -/
def framesPeak : List Frame → Nat
  | [] => 0
  | frame :: outer => max (framesPeak outer) (outer.length + 1 + frame.nesting)

namespace Reader

/-- The number of levels around the current place. -/
def depth : Reader → Nat
  | .atValue frames _ => frames.length
  | .atKey _ frames _ => frames.length + 1
  | .atColon _ _ frames => frames.length + 1
  | .afterValue _ frames => frames.length

/-- The most levels around anything that has been read. -/
def peak : Reader → Nat
  | .atValue frames _ => framesPeak frames
  | .atKey members frames _ => max (framesPeak frames) (frames.length + 1 + membersNesting members)
  | .atColon members _ frames => max (framesPeak frames) (frames.length + 1 + membersNesting members)
  | .afterValue value frames => max (framesPeak frames) (frames.length + value.nesting)

variable {reader next : Reader} {token : Token}

theorem length_le_framesPeak (frames : List Frame) : frames.length ≤ framesPeak frames := by
  cases frames with
  | nil => exact Nat.le_refl 0
  | cons frame outer =>
      rw [framesPeak, List.length_cons]
      omega

/-- A token where a value is expected opens a container, ends an empty array or is a value. -/
theorem of_beginValue?
    {frames : List Frame}
    {closable : Bool}
    (stepped : beginValue? frames closable token = some next) :
    next.depth = token.after frames.length ∧
      next.peak = max (framesPeak frames) next.depth := by
  have bound := length_le_framesPeak frames
  cases token with
  | null | bool | number | string =>
      cases stepped
      simp only [depth, peak, Token.after, nesting, Nat.add_zero, and_self]
  | openArray =>
      cases stepped
      simp only [depth, peak, Token.after, framesPeak, Frame.nesting, itemsNesting,
        List.length_cons, Nat.add_zero, and_self]
  | openObject =>
      cases stepped
      simp only [depth, peak, Token.after, membersNesting, Nat.add_zero, and_self]
  | closeArray =>
      simp only [beginValue?] at stepped
      split at stepped
      · split at stepped
        · cases stepped
          simp only [depth, peak, Token.after, framesPeak, Frame.nesting, nesting,
            itemsNesting_reverse, List.length_cons]
          omega
        · cases stepped
      · cases stepped
  | closeObject | comma | colon => cases stepped

/-- A token after a value goes on with the container around it, or ends it. -/
theorem of_continue?
    {value : Json}
    {frames : List Frame}
    (stepped : continue? value frames token = some next) :
    next.depth = token.after frames.length ∧
      next.peak = max (max (framesPeak frames) (frames.length + value.nesting)) next.depth := by
  unfold continue? at stepped
  split at stepped
  · cases stepped
    simp only [depth, peak, Token.after, framesPeak, Frame.nesting, itemsNesting,
      List.length_cons, true_and]
    omega
  · cases stepped
    simp only [depth, peak, Token.after, framesPeak, Frame.nesting, nesting, itemsNesting_reverse,
      itemsNesting, List.length_cons]
    omega
  · cases stepped
    simp only [depth, peak, Token.after, framesPeak, Frame.nesting, membersNesting,
      List.length_cons, true_and]
    omega
  · cases stepped
    simp only [depth, peak, Token.after, framesPeak, Frame.nesting, nesting,
      membersNesting_reverse, membersNesting, List.length_cons]
    omega
  · cases stepped

theorem of_step? (stepped : reader.step? token = some next) :
    next.depth = token.after reader.depth ∧ next.peak = max reader.peak next.depth := by
  unfold step? at stepped
  split at stepped
  · exact of_beginValue? stepped
  · cases stepped
    simp only [depth, peak, Token.after, true_and]
    omega
  · split at stepped
    · cases stepped
      simp only [depth, peak, Token.after, nesting, membersNesting_reverse]
      omega
    · cases stepped
  · cases stepped
    simp only [depth, peak, Token.after, framesPeak, Frame.nesting, List.length_cons, true_and]
    omega
  · exact of_continue? stepped
  · cases stepped

theorem run?_append (reader : Reader) (first second : List Token) :
    reader.run? (first ++ second) = (reader.run? first).bind (·.run? second) := by
  induction first generalizing reader with
  | nil => rfl
  | cons token rest inductionHypothesis =>
      simp only [List.cons_append, run?]
      cases reader.step? token with
      | none => rfl
      | some next => exact inductionHypothesis next

theorem run?_singleton (reader : Reader) (token : Token) :
    reader.run? [token] = reader.step? token := by
  rw [run?]
  cases reader.step? token <;> rfl

/-- After tokens, which are given last first, the reader has as many levels as brackets. -/
theorem of_run?
    {tokens : List Token}
    (ran : start.run? tokens.reverse = some next) :
    next.depth = openBrackets tokens ∧ next.peak = mostBrackets tokens := by
  induction tokens generalizing next with
  | nil =>
      cases ran
      exact ⟨rfl, rfl⟩
  | cons token earlier inductionHypothesis =>
      rw [List.reverse_cons, run?_append] at ran
      obtain ⟨middle, before, stepped⟩ := Option.bind_eq_some_iff.mp ran
      rw [run?_singleton] at stepped
      obtain ⟨depth, peak⟩ := inductionHypothesis before
      obtain ⟨nextDepth, nextPeak⟩ := of_step? stepped
      rw [mostBrackets, openBrackets, ← depth, ← peak, ← nextDepth]
      exact ⟨rfl, nextPeak⟩

end Reader

/-- The value that tokens spell nests as deep as their brackets. -/
theorem nesting_eq_mostBrackets
    {tokens : List Token}
    {value : Json}
    (read : ofTokens? tokens.reverse = some value) :
    value.nesting = mostBrackets tokens := by
  obtain ⟨reader, ran, ended⟩ := Option.bind_eq_some_iff.mp read
  have peak := (Reader.of_run? ran).2
  unfold Reader.result? at ended
  split at ended
  · cases ended
    simpa [Reader.peak, framesPeak] using peak
  · cases ended

end Json
end RuleClause
