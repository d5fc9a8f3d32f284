import RuleClause.Proofs.Json.Brackets
import RuleClause.Proofs.Rule.Conversion
import RuleClause.Proofs.Target

/-!
# Rules as text and as values

A text is refused for its brackets before it is read.  A value that is read as a rule
nests at most twice as deep as the levels of the rule, and once more for the outermost
ones; so the scan refuses no text that could be read.  Otherwise a text is handled as
the value that it spells, provided that no key is repeated.
-/

namespace RuleClause
namespace Json

/-! ## Nesting and levels -/

mutual

/-- Each level opens two brackets at most, and so does the innermost operation. -/
theorem nesting_le_levels (value : Json) : value.nesting ≤ 2 * (value.levels + 1) := by
  match value with
  | .null | .bool _ | .number _ | .string _ => exact Nat.zero_le _
  | .array items =>
      have inner := itemsNesting_le_levels items
      rw [nesting, levels]
      omega
  | .object members =>
      have inner := membersNesting_le_levels members
      rw [nesting, levels]
      omega
termination_by sizeOf value

theorem itemsNesting_le_levels (items : List Json) :
    itemsNesting items ≤ 2 * itemLevels items := by
  match items with
  | [] => exact Nat.zero_le _
  | item :: rest =>
      have first := nesting_le_levels item
      have others := itemsNesting_le_levels rest
      rw [itemsNesting, itemLevels]
      omega
termination_by sizeOf items

theorem membersNesting_le_levels (members : List (String × Json)) :
    membersNesting members ≤ 2 * memberLevels members + 1 := by
  match members with
  | [] => exact Nat.zero_le _
  | (key, value) :: rest =>
      have others := membersNesting_le_levels rest
      rw [membersNesting]
      by_cases listed : ∃ items, value = .array items
      · obtain ⟨items, rfl⟩ := listed
        have inner := itemsNesting_le_levels items
        rw [nesting, memberLevels]
        omega
      · have first := nesting_le_levels value
        rw [memberLevels]
        · omega
        · exact not_exists.mp listed
termination_by sizeOf members

end

/-! ## Repeated keys -/

mutual

/-- No object in a value has a key twice. -/
def hasDistinctKeys : Json → Bool
  | .array items => itemsHaveDistinctKeys items
  | .object members => (members.map (·.1)).Nodup && membersHaveDistinctKeys members
  | .null | .bool _ | .number _ | .string _ => true

/-- No object in an item has a key twice. -/
def itemsHaveDistinctKeys : List Json → Bool
  | [] => true
  | item :: rest => item.hasDistinctKeys && itemsHaveDistinctKeys rest

/-- No object in the value of a member has a key twice. -/
def membersHaveDistinctKeys : List (String × Json) → Bool
  | [] => true
  | (_, value) :: rest => value.hasDistinctKeys && membersHaveDistinctKeys rest

end

theorem lastMembers_eq_self
    {members : List (String × Json)}
    (distinct : (members.map (·.1)).Nodup) :
    lastMembers members = members := by
  induction members with
  | nil => rfl
  | cons member rest inductionHypothesis =>
      obtain ⟨key, value⟩ := member
      obtain ⟨fresh, others⟩ := List.nodup_cons.mp distinct
      have absent : ¬ hasKey key rest = true := by
        simpa [hasKey] using fresh
      rw [lastMembers, if_neg absent, inductionHypothesis others]

mutual

/-- Merging repeated keys changes nothing where no key is repeated. -/
theorem merged_eq_self (value : Json) (distinct : value.hasDistinctKeys = true) :
    value.merged = value := by
  match value with
  | .null | .bool _ | .number _ | .string _ => rfl
  | .array items =>
      rw [hasDistinctKeys] at distinct
      rw [merged, mergedItems_eq_self items distinct]
  | .object members =>
      rw [hasDistinctKeys, Bool.and_eq_true, decide_eq_true_iff] at distinct
      rw [merged, mergedMembers_eq_self members distinct.2, lastMembers_eq_self distinct.1]
termination_by sizeOf value

theorem mergedItems_eq_self
    (items : List Json)
    (distinct : itemsHaveDistinctKeys items = true) :
    mergedItems items = items := by
  match items with
  | [] => rfl
  | item :: rest =>
      rw [itemsHaveDistinctKeys, Bool.and_eq_true] at distinct
      rw [mergedItems, merged_eq_self item distinct.1, mergedItems_eq_self rest distinct.2]
termination_by sizeOf items

theorem mergedMembers_eq_self
    (members : List (String × Json))
    (distinct : membersHaveDistinctKeys members = true) :
    mergedMembers members = members := by
  match members with
  | [] => rfl
  | (key, value) :: rest =>
      rw [membersHaveDistinctKeys, Bool.and_eq_true] at distinct
      rw [mergedMembers, merged_eq_self value distinct.1, mergedMembers_eq_self rest distinct.2]
termination_by sizeOf members

end

/-- The scan refuses no text whose value is read as a rule. -/
theorem bracketsExceed_eq_false_of_ofJson
    {text : String}
    {value : Json}
    {limit : Nat}
    {rule : Rule}
    (spelled : parse? text = some value)
    (read : Rule.ofJson limit value = .ok rule) :
    bracketsExceed (2 * (limit + 1)) text = false := by
  obtain ⟨_, bound⟩ := (Rule.ofJsonAt_eq_ok_iff limit value .start rule).mp read
  have nested := value.nesting_le_levels
  simp only [Position.start] at bound
  rw [bracketsExceed_eq_of_parse? spelled, decide_eq_false]
  omega

end Json

namespace Target

variable {target : Target} {text : String} {value : Json}

theorem bracketLimit_context (target : Target) :
    target.context.bracketLimit = 2 * (target.maxDepth + 1) :=
  Nat.mul_comm _ _

/-- A text whose brackets do not nest too deep is handled as the value that it spells. -/
theorem condition_text_eq
    (spelled : Json.parse? text = some value)
    (distinct : value.hasDistinctKeys = true)
    (fits : Json.bracketsExceed (2 * (target.maxDepth + 1)) text = false) :
    target.condition (.text text) = target.condition (.json value) := by
  have read : target.context.readText text = .ok value := by
    rw [Context.readText, bracketLimit_context, fits, spelled]
    simp [value.merged_eq_self distinct]
  rw [condition_eq, condition_eq]
  simp only [Context.readRule, read]
  rfl

theorem exists_error_of_bracketsExceed
    (exceed : Json.bracketsExceed (2 * (target.maxDepth + 1)) text = true) :
    ∃ error, target.condition (.text text) = .error error := by
  refine ⟨.ofFault (.tooDeep target.maxDepth), ?_⟩
  have refused : target.context.readText text = .error (.ofFault (.tooDeep target.maxDepth)) := by
    rw [Context.readText, bracketLimit_context, exceed]
    rfl
  rw [condition_eq]
  simp only [Context.readRule, refused]
  rfl

theorem exists_ofJson_of_condition
    {sql : String}
    (ended : target.condition (.json value) = .ok sql) :
    ∃ rule, Rule.ofJson target.maxDepth value = .ok rule := by
  rw [condition_eq] at ended
  obtain ⟨rule, read, _⟩ := (bind_eq_ok_iff _ _ _).mp ended
  exact ⟨rule, read⟩

end Target

/--
Rules as text and as values.  A text without repeated keys gives the same conditions as
the value that it spells, and the same errors too unless the scan of its brackets
refuses it; and the scan refuses no text whose value is read as a rule.
-/
theorem condition_text_agrees_with_json
    (target : Target)
    (text : String)
    (value : Json)
    (spelled : Json.parse? text = some value)
    (distinct : value.hasDistinctKeys = true) :
    (∀ sql, target.condition (.text text) = .ok sql ↔ target.condition (.json value) = .ok sql) ∧
    (Json.bracketsExceed (2 * (target.maxDepth + 1)) text = false →
      target.condition (.text text) = target.condition (.json value)) ∧
    (∀ rule, Rule.ofJson target.maxDepth value = .ok rule →
      Json.bracketsExceed (2 * (target.maxDepth + 1)) text = false) := by
  refine ⟨?_, Target.condition_text_eq spelled distinct,
    fun rule => Json.bracketsExceed_eq_false_of_ofJson spelled⟩
  intro sql
  constructor
  · intro ended
    cases exceed : Json.bracketsExceed (2 * (target.maxDepth + 1)) text with
    | false => rw [← Target.condition_text_eq spelled distinct exceed, ended]
    | true =>
        obtain ⟨error, refused⟩ := Target.exists_error_of_bracketsExceed exceed
        rw [refused] at ended
        cases ended
  · intro ended
    obtain ⟨rule, read⟩ := Target.exists_ofJson_of_condition ended
    have fits := Json.bracketsExceed_eq_false_of_ofJson spelled read
    rw [Target.condition_text_eq spelled distinct fits, ended]

/-- A target with a custom operator, for rules of one level. -/
def noticeTarget : Target :=
  ⟨.postgreSQL, none, Registry.empty.insert "now" (.function "NOW") (by decide), 1⟩

/-- A text with four brackets open at once, and with brackets and quotes in a string. -/
def noticeText : String :=
  " \x7b \"or\" : [\n \x7b\"now\": []\x7d , \"]\x7d\\\"[\\u005b\" ] \x7d "

/-- The value that the text spells. -/
def noticeValue : Json :=
  .object [("or", .array [.object [("now", .array [])], .string "]\x7d\"[["])]

theorem condition_noticeText_agrees :
    Json.parse? noticeText = some noticeValue ∧
    noticeTarget.condition (.text noticeText) = .ok "(NOW() OR ']\x7d\"[[')" ∧
    Json.bracketsExceed 3 noticeText = true ∧
    Json.bracketsExceed 4 noticeText = false := by
  have scanned : Json.tokens? noticeText.toList = some
      [.openObject, .string "or", .colon, .openArray, .openObject, .string "now", .colon,
        .openArray, .closeArray, .closeObject, .comma, .string "]\x7d\"[[", .closeArray,
        .closeObject] := by decide +kernel
  have spelled : Json.parse? noticeText = some noticeValue := by
    rw [Json.parse?, scanned]
    rfl
  have compiled : noticeTarget.condition (.json noticeValue) = .ok "(NOW() OR ']\x7d\"[[')" := rfl
  obtain ⟨same, _, fits⟩ :=
    condition_text_agrees_with_json noticeTarget noticeText noticeValue spelled (by decide)
  exact ⟨spelled, (same _).mpr compiled, by decide, fits _ rfl⟩

end RuleClause
