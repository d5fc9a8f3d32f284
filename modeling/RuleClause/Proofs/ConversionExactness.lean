import Mathlib.Data.Set.List
import RuleClause.Proofs.Rule.Conversion

/-!
# What the conversion of a JSON value accepts, and what it reports

A JSON value is a rule exactly if each object in it has one key, and it is read if it
also has no more levels than the limit.  Otherwise the reading reports one node of the
value: the first, in pre-order, that is too deep or that is an object with some other
number of keys.  Nothing after that node is looked at, and being too deep comes first.
-/

namespace RuleClause

/-- What a reading is refused with. -/
def refusal? {α : Type} : Except Error α → Option Error
  | .error error => some error
  | .ok _ => none

@[simp]
theorem refusal?_error {α : Type} (error : Error) :
    refusal? (.error error : Except Error α) = some error :=
  rfl

@[simp]
theorem refusal?_pure {α : Type} (value : α) : refusal? (pure value : Except Error α) = none :=
  rfl

theorem refusal?_eq_some_iff {α : Type} (reading : Except Error α) (error : Error) :
    refusal? reading = some error ↔ reading = .error error := by
  cases reading <;> simp [refusal?]

/-- A reading in two steps is refused by the first step, or else by the second. -/
theorem refusal?_bind
    {α β : Type}
    {reading : Except Error α}
    {next : α → Except Error β}
    {later : Option Error}
    (same : ∀ value, refusal? (next value) = later) :
    refusal? (reading >>= next) = (refusal? reading).or later := by
  cases reading with
  | error error => rfl
  | ok value => exact same value

namespace Json

/-- A value that is found inside another, directly or further in; the whole counts. -/
inductive Holds (whole : Json) : Json → Prop
  | here : Holds whole whole
  | item {items : List Json} {item : Json}
      (outer : Holds whole (.array items)) (member : item ∈ items) : Holds whole item
  | value {members : List (String × Json)} {key : String} {value : Json}
      (outer : Holds whole (.object members)) (member : (key, value) ∈ members) :
      Holds whole value

/-- Every object in a value has exactly one key. -/
def SingleKeyed (whole : Json) : Prop :=
  ∀ members, whole.Holds (.object members) → members.length = 1

/-- A value together with the place where it stands. -/
structure Node where
  /-- The value. -/
  value : Json
  /-- Where it stands. -/
  position : Position

/-- What is wrong with the keys of a value by itself. -/
def keyFault? : Json → Option Fault
  | .object members => if members.length = 1 then none else some (.keyCount members.length)
  | .null | .bool _ | .number _ | .string _ | .array _ => none

/-- What is wrong with a node by itself: it is too deep, or else its keys are miscounted. -/
def Node.fault? (limit : Nat) (node : Node) : Option Fault :=
  if limit < node.position.depth then some (.tooDeep limit) else node.value.keyFault?

/-- The error that reports what is wrong with a node, at the slot of the node. -/
def Node.report? (limit : Nat) (node : Node) : Option Error :=
  (node.fault? limit).map fun fault =>
    (Error.ofFault fault).foundAt node.position.valuePath

mutual

/--
The nodes of a value in pre-order: each comes before those inside it.  The list of an
operation's arguments is no node of its own.
-/
def nodes : Json → Position → List Node
  | .array items, position =>
      ⟨.array items, position⟩ :: itemNodes items position.valuePath (position.depth + 1) 0
  | .object members, position => ⟨.object members, position⟩ :: memberNodes members position
  | .null, position => [⟨.null, position⟩]
  | .bool value, position => [⟨.bool value, position⟩]
  | .number value, position => [⟨.number value, position⟩]
  | .string value, position => [⟨.string value, position⟩]

/-- The nodes of the items of a list, which are counted from an index. -/
def itemNodes : List Json → Path → Nat → Nat → List Node
  | [], _, _, _ => []
  | item :: rest, path, depth, index =>
      item.nodes ⟨path, some index, depth⟩ ++ itemNodes rest path depth (index + 1)

/-- The nodes of the arguments of an operation, listed or bare. -/
def memberNodes : List (String × Json) → Position → List Node
  | [], _ => []
  | (operator, .array items) :: rest, position =>
      itemNodes items (position.operationPath operator) (position.depth + 1) 0 ++
        memberNodes rest position
  | (operator, argument) :: rest, position =>
      argument.nodes (position.argument operator none) ++ memberNodes rest position

end

theorem nodes_call (operator : String) (items : List Json) (position : Position) :
    (object [(operator, array items)]).nodes position =
      ⟨object [(operator, array items)], position⟩ ::
        itemNodes items (position.operationPath operator) (position.depth + 1) 0 := by
  simp [nodes, memberNodes]

theorem nodes_bare
    {argument : Json}
    (operator : String)
    (single : ∀ items, argument ≠ .array items)
    (position : Position) :
    (object [(operator, argument)]).nodes position =
      ⟨object [(operator, argument)], position⟩ ::
        argument.nodes (position.argument operator none) := by
  cases argument with
  | array items => exact absurd rfl (single items)
  | null | bool | number | string | object => simp [nodes, memberNodes]

theorem Holds.trans
    {whole middle inner : Json}
    (outer : whole.Holds middle)
    (nested : middle.Holds inner) :
    whole.Holds inner := by
  induction nested with
  | here => exact outer
  | item _ member inductionHypothesis => exact .item inductionHypothesis member
  | value _ member inductionHypothesis => exact .value inductionHypothesis member

theorem SingleKeyed.of_holds
    {whole inner : Json}
    (single : whole.SingleKeyed)
    (nested : whole.Holds inner) :
    inner.SingleKeyed :=
  fun members found => single members (nested.trans found)

end Json

namespace Rule

/-! ## The values that are rules -/

theorem ofJson_eq_ok_iff (limit : Nat) (value : Json) (rule : Rule) :
    ofJson limit value = .ok rule ↔ rule.toJson = value ∧ value.levels ≤ limit := by
  rw [ofJson, ofJsonAt_eq_ok_iff, Position.start, Nat.zero_add]

/-- What is inside a written rule is a written rule. -/
theorem exists_toJson_eq_of_holds
    {rule : Rule}
    {inner : Json}
    (nested : rule.toJson.Holds inner) :
    ∃ part : Rule, part.toJson = inner := by
  induction nested with
  | here => exact ⟨rule, rfl⟩
  | item _ member inductionHypothesis =>
      obtain ⟨part, written⟩ := inductionHypothesis
      obtain ⟨rules, rfl, rfl⟩ := (toJson_eq_array_iff part _).mp written
      obtain ⟨item, _, same⟩ := List.mem_map.mp member
      exact ⟨item, same⟩
  | value _ member inductionHypothesis =>
      obtain ⟨part, written⟩ := inductionHypothesis
      obtain ⟨operator, arguments, rfl, rfl⟩ := (toJson_eq_object_iff part _).mp written
      obtain ⟨rfl, rfl⟩ := Prod.mk.inj (List.mem_singleton.mp member)
      exact ⟨arguments, rfl⟩

theorem singleKeyed_toJson (rule : Rule) : rule.toJson.SingleKeyed := by
  intro members nested
  obtain ⟨part, written⟩ := exists_toJson_eq_of_holds nested
  obtain ⟨operator, arguments, rfl, rfl⟩ := (toJson_eq_object_iff part members).mp written
  rfl

/-- A value whose objects have one key each is how some rule is written. -/
theorem exists_toJson_eq_of_singleKeyed (value : Json) (single : value.SingleKeyed) :
    ∃ rule : Rule, rule.toJson = value := by
  match value with
  | .null => exact ⟨.null, rfl⟩
  | .bool value => exact ⟨.bool value, rfl⟩
  | .number value => exact ⟨.number value, rfl⟩
  | .string value => exact ⟨.string value, rfl⟩
  | .array items =>
      have each : ∀ item ∈ items, ∃ rule : Rule, rule.toJson = item := by
        intro item member
        have smaller := List.sizeOf_lt_of_mem member
        exact exists_toJson_eq_of_singleKeyed item (single.of_holds (.item .here member))
      have listed : items ∈ Set.range (List.map toJson) := by
        rw [Set.range_list_map]
        exact each
      obtain ⟨rules, rfl⟩ := listed
      exact ⟨.list rules, by rw [toJson, toJsonItems_eq_map]⟩
  | .object [] | .object (_ :: _ :: _) => exact absurd (single _ .here) (by simp)
  | .object [(operator, argument)] =>
      obtain ⟨rule, written⟩ := exists_toJson_eq_of_singleKeyed argument
        (single.of_holds (.value .here (List.mem_singleton_self _)))
      exact ⟨.operation operator rule, by rw [toJson, written]⟩
termination_by sizeOf value

/-- A value is read if each of its objects has one key and its levels are within the limit. -/
theorem exists_ofJson_eq_ok_iff (limit : Nat) (value : Json) :
    (∃ rule, ofJson limit value = .ok rule) ↔ value.SingleKeyed ∧ value.levels ≤ limit := by
  simp only [ofJson_eq_ok_iff]
  constructor
  · rintro ⟨rule, rfl, bound⟩
    exact ⟨singleKeyed_toJson rule, bound⟩
  · rintro ⟨single, bound⟩
    obtain ⟨rule, written⟩ := exists_toJson_eq_of_singleKeyed value single
    exact ⟨rule, written, bound⟩

/-! ## The node that is reported -/

theorem refusal?_checkDepth (limit : Nat) (position : Position) :
    refusal? (checkDepth limit position) =
      if limit < position.depth then
        some ((Error.ofFault (.tooDeep limit)).foundAt position.valuePath)
      else none := by
  unfold checkDepth
  split <;> rfl

/-- The depth of a node is checked before its keys are counted. -/
theorem report?_eq (limit : Nat) (value : Json) (position : Position) :
    Json.Node.report? limit ⟨value, position⟩ =
      (refusal? (checkDepth limit position)).or
        (value.keyFault?.map fun fault => (Error.ofFault fault).foundAt position.valuePath) := by
  rw [refusal?_checkDepth, Json.Node.report?, Json.Node.fault?]
  split <;> rfl

theorem findSome?_report?_cons (limit : Nat) (node : Json.Node) (rest : List Json.Node) :
    (node :: rest).findSome? (Json.Node.report? limit) =
      (node.report? limit).or (rest.findSome? (Json.Node.report? limit)) := by
  rw [List.findSome?_cons]
  cases node.report? limit <;> rfl

-- Reading and listing recurse alike, so that each node is checked where it is listed.
mutual

/-- A reading is refused with what is reported of the first node that is reported at all. -/
theorem refusal?_ofJsonAt (limit : Nat) (value : Json) (position : Position) :
    refusal? (ofJsonAt limit value position) =
      (value.nodes position).findSome? (Json.Node.report? limit) := by
  match value with
  | .null | .bool _ | .number _ | .string _ =>
      rw [ofJsonAt, refusal?_bind fun _ => refusal?_pure _, Json.nodes, findSome?_report?_cons,
        report?_eq, Json.keyFault?, List.findSome?_nil, Option.map_none,
        Option.or_none, Option.or_none]
  | .array items =>
      rw [ofJsonAt, refusal?_bind fun _ => refusal?_bind fun _ => refusal?_pure _, Option.or_none,
        refusal?_ofJsonItems limit items, Json.nodes, findSome?_report?_cons,
        report?_eq, Json.keyFault?, Option.map_none, Option.or_none]
  | .object members =>
      obtain ⟨operator, items, rfl⟩ | ⟨operator, argument, rfl, bare⟩ | count :=
        Json.members_cases members
      · rw [ofJsonAt, refusal?_bind fun _ => refusal?_bind fun _ => refusal?_pure _,
          Option.or_none, refusal?_ofJsonItems limit items, Json.nodes_call,
          findSome?_report?_cons, report?_eq, Json.keyFault?, if_pos List.length_singleton,
          Option.map_none, Option.or_none]
      · rw [ofJsonAt_bare limit operator bare,
          refusal?_bind fun _ => refusal?_bind fun _ => refusal?_pure _, Option.or_none,
          refusal?_ofJsonAt limit argument, Json.nodes_bare operator bare,
          findSome?_report?_cons, report?_eq, Json.keyFault?, if_pos List.length_singleton,
          Option.map_none, Option.or_none]
      · -- the keys of the object are reported, whatever is inside
        rw [ofJsonAt_keyCount limit count, refusal?_bind fun _ => refusal?_error _, Json.nodes,
          findSome?_report?_cons, report?_eq, Json.keyFault?, if_neg count, Option.map_some,
          Option.or_assoc, Option.some_or]
termination_by sizeOf value

/-- The items of a list are read one after the other, up to the first that is refused. -/
theorem refusal?_ofJsonItems
    (limit : Nat)
    (items : List Json)
    (path : Path)
    (depth index : Nat) :
    refusal? (ofJsonItems limit items path depth index) =
      (Json.itemNodes items path depth index).findSome? (Json.Node.report? limit) := by
  match items with
  | [] => rw [ofJsonItems, Json.itemNodes, List.findSome?_nil]; rfl
  | item :: rest =>
      rw [ofJsonItems, refusal?_bind fun _ => refusal?_bind fun _ => refusal?_pure _,
        Option.or_none, refusal?_ofJsonAt limit item, refusal?_ofJsonItems limit rest,
        Json.itemNodes, List.findSome?_append]
termination_by sizeOf items

end

/-- What is wrong with a node has the code of its depth, or else that of its keys. -/
theorem code_text_of_fault?
    {limit : Nat}
    {node : Json.Node}
    {fault : Fault}
    (found : node.fault? limit = some fault) :
    fault.code.text = if limit < node.position.depth then "E008" else "E003" := by
  rw [Json.Node.fault?] at found
  by_cases deep : limit < node.position.depth
  · rw [if_pos deep] at found ⊢
    cases found
    rfl
  · rw [if_neg deep] at found ⊢
    obtain ⟨value, position⟩ := node
    cases value with
    | object members =>
        simp only [Json.keyFault?, Option.ite_none_left_eq_some, Option.some.injEq] at found
        obtain ⟨_, rfl⟩ := found
        rfl
    | null | bool | number | string | array => cases found

/-- A reading is refused with what is wrong with the first node that has something wrong. -/
theorem ofJson_eq_error_iff (limit : Nat) (value : Json) (error : Error) :
    ofJson limit value = .error error ↔
      ∃ before node after, value.nodes .start = before ++ node :: after ∧
        (∀ earlier ∈ before, earlier.fault? limit = none) ∧
        ∃ fault, node.fault? limit = some fault ∧
          error = (Error.ofFault fault).foundAt node.position.valuePath := by
  rw [← refusal?_eq_some_iff, ofJson, refusal?_ofJsonAt, List.findSome?_eq_some_iff]
  simp only [Json.Node.report?, Option.map_eq_some_iff, Option.map_eq_none_iff, @eq_comm _ error,
    and_comm]

/--
A value is read as the rule that is written so.  It is read at all exactly if every
object in it has one key and its levels are within the limit.  Otherwise the error is
that of the first node in pre-order with something wrong: its place is the slot of the
node, and its code tells whether the node is too deep or has too many keys or too few.
What a rule is written as is read as that rule again, within the limit.
-/
theorem ofJson_exact (limit : Nat) (value : Json) :
    (∀ rule, ofJson limit value = .ok rule ↔ rule.toJson = value ∧ value.levels ≤ limit) ∧
      ((∃ rule, ofJson limit value = .ok rule) ↔ value.SingleKeyed ∧ value.levels ≤ limit) ∧
      (∀ error, ofJson limit value = .error error ↔
        ∃ before node after, value.nodes .start = before ++ node :: after ∧
          (∀ earlier ∈ before, earlier.fault? limit = none) ∧
          ∃ fault, node.fault? limit = some fault ∧
            fault.code.text = (if limit < node.position.depth then "E008" else "E003") ∧
            error = (Error.ofFault fault).foundAt node.position.valuePath) ∧
      ∀ rule : Rule, ofJson limit rule.toJson = .ok rule ↔ rule.toJson.levels ≤ limit := by
  refine ⟨ofJson_eq_ok_iff limit value, exists_ofJson_eq_ok_iff limit value, ?_, ?_⟩
  · intro error
    rw [ofJson_eq_error_iff]
    constructor
    · rintro ⟨before, node, after, listed, sound, fault, found, reported⟩
      exact ⟨before, node, after, listed, sound, fault, found, code_text_of_fault? found, reported⟩
    · rintro ⟨before, node, after, listed, sound, fault, found, _, reported⟩
      exact ⟨before, node, after, listed, sound, fault, found, reported⟩
  · intro rule
    rw [ofJson_eq_ok_iff]
    exact and_iff_right rfl

end Rule
end RuleClause
