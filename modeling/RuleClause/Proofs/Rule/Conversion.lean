import RuleClause.Proofs.Rule.Occurrence
import RuleClause.Rule.OfJson

/-!
# JSON values that are rules

A JSON value is read as a rule exactly if it is how the rule is written and if it has
no more levels than the limit.  The levels of a value are those that a reading counts:
the list of an operation's arguments is not one of its own.  They bound the trail to
everything that occurs in the rule.
-/

namespace RuleClause

theorem bind_eq_ok_iff
    {α β : Type}
    (reading : Except Error α)
    (next : α → Except Error β)
    (result : β) :
    (reading >>= next) = .ok result ↔ ∃ value, reading = .ok value ∧ next value = .ok result := by
  cases reading with
  | error error => simp [bind, Except.bind]
  | ok value => simp [bind, Except.bind]

namespace Json

mutual

/-- The number of levels inside a value. -/
def levels : Json → Nat
  | .array items => itemLevels items
  | .object members => memberLevels members
  | .null | .bool _ | .number _ | .string _ => 0

/-- The number of levels inside a list: one for the list, and those of its items. -/
def itemLevels : List Json → Nat
  | [] => 0
  | item :: rest => max (item.levels + 1) (itemLevels rest)

/-- The number of levels inside an object: arguments that are listed are one level. -/
def memberLevels : List (String × Json) → Nat
  | [] => 0
  | (_, .array items) :: rest => max (itemLevels items) (memberLevels rest)
  | (_, value) :: rest => max (value.levels + 1) (memberLevels rest)

end

theorem levels_lt_itemLevels {items : List Json} {item : Json} (member : item ∈ items) :
    item.levels < itemLevels items := by
  induction items with
  | nil => cases member
  | cons first rest inductionHypothesis =>
      rw [itemLevels]
      rcases List.mem_cons.mp member with rfl | later
      · omega
      · have deeper := inductionHypothesis later
        omega

/-- The members of an object are those of an operation with listed arguments or with a bare one. -/
theorem members_cases (members : List (String × Json)) :
    (∃ operator items, members = [(operator, .array items)]) ∨
      (∃ operator argument, members = [(operator, argument)] ∧ ∀ items, argument ≠ .array items) ∨
      members.length ≠ 1 := by
  match members with
  | [] => exact .inr (.inr (by simp))
  | _ :: _ :: _ => exact .inr (.inr (by simp))
  | [(operator, .array items)] => exact .inl ⟨operator, items, rfl⟩
  | [(operator, .null)] | [(operator, .bool _)] | [(operator, .number _)]
  | [(operator, .string _)] | [(operator, .object _)] =>
      exact .inr (.inl ⟨operator, _, rfl, nofun⟩)

@[simp]
theorem levels_call (operator : String) (items : List Json) :
    (object [(operator, array items)]).levels = itemLevels items := by
  simp [levels, memberLevels]

theorem levels_bare
    {argument : Json}
    (operator : String)
    (single : ∀ items, argument ≠ .array items) :
    (object [(operator, argument)]).levels = argument.levels + 1 := by
  cases argument with
  | array items => exact absurd rfl (single items)
  | null | bool | number | string | object => simp [levels, memberLevels]

end Json

namespace Rule

@[simp]
theorem toJsonItems_eq_map (rules : List Rule) : toJsonItems rules = rules.map toJson := by
  induction rules with
  | nil => rfl
  | cons rule rest inductionHypothesis => rw [toJsonItems, inductionHypothesis, List.map_cons]

theorem toJson_eq_array_iff (rule : Rule) (items : List Json) :
    rule.toJson = .array items ↔ ∃ rules, rule = .list rules ∧ rules.map toJson = items := by
  cases rule <;> simp [toJson]

theorem toJson_eq_object_iff (rule : Rule) (members : List (String × Json)) :
    rule.toJson = .object members ↔
      ∃ operator arguments, rule = .operation operator arguments ∧
        [(operator, arguments.toJson)] = members := by
  cases rule with
  | operation operator arguments =>
      constructor
      · intro written
        exact ⟨operator, arguments, rfl, Json.object.inj written⟩
      · rintro ⟨_, _, same, rfl⟩
        cases same
        rfl
  | null | bool | number | string | list => simp [toJson]

/-! ## Reading is the inverse of writing -/

theorem ofJsonAt_bare
    {argument : Json}
    (limit : Nat)
    (operator : String)
    (single : ∀ items, argument ≠ .array items)
    (position : Position) :
    ofJsonAt limit (.object [(operator, argument)]) position = do
      checkDepth limit position
      return .operation operator
        (← ofJsonAt limit argument (position.argument operator none)) := by
  rw [ofJsonAt]
  exact single

theorem ofJsonAt_keyCount
    {members : List (String × Json)}
    (limit : Nat)
    (count : members.length ≠ 1)
    (position : Position) :
    ofJsonAt limit (.object members) position =
      (checkDepth limit position >>= fun _ =>
        .error ((Error.ofFault (.keyCount members.length)).foundAt position.valuePath)) := by
  rw [ofJsonAt]
  · rintro operator items rfl
    exact count rfl
  · rintro operator argument rfl
    exact count rfl

theorem checkDepth_bind_eq_ok_iff
    {α : Type}
    (limit : Nat)
    (position : Position)
    (next : Except Error α)
    (result : α) :
    (checkDepth limit position >>= fun _ => next) = .ok result ↔
      position.depth ≤ limit ∧ next = .ok result := by
  unfold checkDepth
  split
  · simp only [bind, Except.bind, reduceCtorEq, false_iff]
    omega
  · simp only [bind, Except.bind, iff_and_self]
    omega

mutual

/-- A value is read as the rule that is written so, if its levels are within the limit. -/
theorem ofJsonAt_eq_ok_iff
    (limit : Nat)
    (value : Json)
    (position : Position)
    (rule : Rule) :
    ofJsonAt limit value position = .ok rule ↔
      rule.toJson = value ∧ position.depth + value.levels ≤ limit := by
  match value with
  | .null =>
      rw [ofJsonAt, checkDepth_bind_eq_ok_iff]
      cases rule <;> simp [toJson, Json.levels, pure, Except.pure]
  | .bool value =>
      rw [ofJsonAt, checkDepth_bind_eq_ok_iff]
      cases rule <;> simp [toJson, Json.levels, pure, Except.pure, eq_comm, and_comm]
  | .number value =>
      rw [ofJsonAt, checkDepth_bind_eq_ok_iff]
      cases rule <;> simp [toJson, Json.levels, pure, Except.pure, eq_comm, and_comm]
  | .string value =>
      rw [ofJsonAt, checkDepth_bind_eq_ok_iff]
      cases rule <;> simp [toJson, Json.levels, pure, Except.pure, eq_comm, and_comm]
  | .array items =>
      rw [ofJsonAt, checkDepth_bind_eq_ok_iff, bind_eq_ok_iff, toJson_eq_array_iff, Json.levels]
      constructor
      · rintro ⟨shallow, rules, read, ended⟩
        cases ended
        obtain ⟨written, bound⟩ := (ofJsonItems_eq_ok_iff shallow items _ _ rules).mp read
        exact ⟨⟨rules, rfl, written⟩, bound⟩
      · rintro ⟨⟨rules, rfl, written⟩, bound⟩
        have shallow : position.depth ≤ limit := by omega
        exact ⟨shallow, rules,
          (ofJsonItems_eq_ok_iff shallow items _ _ rules).mpr ⟨written, bound⟩, rfl⟩
  | .object members =>
      rw [toJson_eq_object_iff]
      obtain ⟨operator, items, rfl⟩ | ⟨operator, argument, rfl, single⟩ | count :=
        Json.members_cases members
      · rw [ofJsonAt, checkDepth_bind_eq_ok_iff, bind_eq_ok_iff, Json.levels_call]
        constructor
        · rintro ⟨shallow, rules, read, ended⟩
          cases ended
          obtain ⟨rfl, bound⟩ := (ofJsonItems_eq_ok_iff shallow items _ _ rules).mp read
          exact ⟨⟨operator, .list rules, rfl, by simp [toJson]⟩, bound⟩
        · rintro ⟨⟨name, arguments, rfl, same⟩, bound⟩
          obtain ⟨rfl, listed⟩ := Prod.mk.inj (List.singleton_inj.mp same)
          obtain ⟨rules, rfl, written⟩ := (toJson_eq_array_iff arguments items).mp listed
          have shallow : position.depth ≤ limit := by omega
          exact ⟨shallow, rules,
            (ofJsonItems_eq_ok_iff shallow items _ _ rules).mpr ⟨written, bound⟩, rfl⟩
      · rw [ofJsonAt_bare limit operator single, checkDepth_bind_eq_ok_iff, bind_eq_ok_iff,
          Json.levels_bare operator single]
        constructor
        · rintro ⟨_, arguments, read, ended⟩
          cases ended
          obtain ⟨rfl, bound⟩ := (ofJsonAt_eq_ok_iff limit argument _ arguments).mp read
          refine ⟨⟨operator, arguments, rfl, rfl⟩, ?_⟩
          simp only [Position.argument] at bound
          omega
        · rintro ⟨⟨name, arguments, rfl, same⟩, bound⟩
          obtain ⟨rfl, written⟩ := Prod.mk.inj (List.singleton_inj.mp same)
          refine ⟨by omega, arguments, ?_, rfl⟩
          apply (ofJsonAt_eq_ok_iff limit argument _ arguments).mpr
          refine ⟨written, ?_⟩
          simp only [Position.argument]
          omega
      · rw [ofJsonAt_keyCount limit count, checkDepth_bind_eq_ok_iff]
        constructor
        · rintro ⟨_, refused⟩
          cases refused
        · rintro ⟨⟨_, _, _, rfl⟩, _⟩
          exact absurd rfl count
termination_by sizeOf value

/-- The same for each item of a list, one level deeper than the list. -/
theorem ofJsonItems_eq_ok_iff
    {limit depth : Nat}
    (shallow : depth ≤ limit)
    (items : List Json)
    (path : Path)
    (index : Nat)
    (rules : List Rule) :
    ofJsonItems limit items path (depth + 1) index = .ok rules ↔
      rules.map toJson = items ∧ depth + Json.itemLevels items ≤ limit := by
  match items with
  | [] =>
      -- no item is looked at, so only the list itself is known to be within the limit
      rw [ofJsonItems, Json.itemLevels, List.map_eq_nil_iff]
      simp [shallow, eq_comm]
  | item :: rest =>
      rw [ofJsonItems, Json.itemLevels, List.map_eq_cons_iff, bind_eq_ok_iff]
      constructor
      · rintro ⟨rule, first, read⟩
        obtain ⟨others, remaining, ended⟩ := (bind_eq_ok_iff _ _ _).mp read
        cases ended
        obtain ⟨written, bound⟩ := (ofJsonAt_eq_ok_iff limit item _ rule).mp first
        obtain ⟨rewritten, within⟩ :=
          (ofJsonItems_eq_ok_iff shallow rest path (index + 1) others).mp remaining
        refine ⟨⟨rule, others, rfl, written, rewritten⟩, ?_⟩
        simp only at bound
        omega
      · rintro ⟨⟨rule, others, rfl, written, rewritten⟩, bound⟩
        refine ⟨rule, ?_, (bind_eq_ok_iff _ _ _).mpr ⟨others, ?_, rfl⟩⟩
        · apply (ofJsonAt_eq_ok_iff limit item _ rule).mpr
          refine ⟨written, ?_⟩
          simp only
          omega
        · apply (ofJsonItems_eq_ok_iff shallow rest path (index + 1) others).mpr
          exact ⟨rewritten, by omega⟩
termination_by sizeOf items

end

/-! ## Levels and trails -/

/-- What is directly inside a rule has fewer levels inside of it. -/
theorem levels_toJson_child_lt {rule child : Rule} (member : child ∈ rule.children) :
    child.toJson.levels < rule.toJson.levels := by
  cases rule with
  | list items =>
      rw [toJson, Json.levels, toJsonItems_eq_map]
      exact Json.levels_lt_itemLevels (List.mem_map_of_mem member)
  | operation operator arguments =>
      cases arguments with
      | list items =>
          rw [toJson, toJson, Json.levels_call, toJsonItems_eq_map]
          exact Json.levels_lt_itemLevels (List.mem_map_of_mem member)
      | null | bool | number | string | operation =>
          obtain rfl := List.mem_singleton.mp member
          simp [toJson, Json.levels, Json.memberLevels]
  | null | bool | number | string => simp [children] at member

/-- The trail to a rule inside another is no longer than there are levels. -/
theorem Occurs.length_add_levels_le
    {rule inner : Rule}
    {trail : List (Rule × Nat)}
    (occurs : rule.Occurs trail inner) :
    trail.length + inner.toJson.levels ≤ rule.toJson.levels := by
  induction occurs with
  | here => simp
  | inside _ found inductionHypothesis =>
      have deeper := levels_toJson_child_lt (List.mem_of_getElem? found)
      rw [List.length_cons]
      omega

end Rule
end RuleClause
