import RuleClause.Proofs.OperatorNames
import Mathlib.Data.Set.Card
import Mathlib.Data.String.Basic

/-!
# What registries hold after any history

Any number of registries are created, copied, changed and merged into each other.  What a
registry holds under a name follows from what has been done to it: the handler of the last
effective write of the name, unless the name was removed after that.  A merge writes every
name of the other registry, with the handlers that it holds at that moment, and a copy
starts with the history of what it was copied from.

Each kind of event has its effect on a single name; histories are followed event by event,
and collections of registries call by call.
-/

namespace RuleClause
namespace Registry

theorem objection?_eq_none_iff (name : String) :
    objection? name = none ↔ name ≠ "" ∧ Operator.isBuiltin name = false := by
  unfold objection?
  split
  · simp_all
  · split <;> simp_all

theorem objection?_of_register_eq_error
    {registry : Registry}
    {name : String}
    {handler : Handler}
    {error : RegistryError}
    (refused : registry.register name handler = .error error) :
    objection? name = some error := by
  unfold register at refused
  split at refused
  · rename_i objection
    rw [objection, Except.error.inj refused]
  · cases refused

/-- Registering writes the name unless something speaks against it. -/
theorem get?_apply_register
    (registry : Registry)
    (name other : String)
    (handler : Handler) :
    (registry.apply (.register name handler)).get? other =
      if other = name ∧ objection? name = none then some handler else registry.get? other := by
  rw [apply]
  split
  · rename_i registered
    obtain ⟨free, rfl⟩ := exists_of_register registered
    simp [free]
  · rename_i refused
    simp [objection?_of_register_eq_error refused]

/-! ## Ordered entries -/

/-- The names are in strictly ascending order. -/
def Ordered (registry : Registry) : Prop :=
  registry.names.Pairwise (· < ·)

theorem ordered_iff (registry : Registry) :
    registry.Ordered ↔ registry.entries.Pairwise fun first second => first.1 < second.1 := by
  rw [Ordered, names, List.pairwise_map]

theorem ordered_empty : empty.Ordered :=
  List.Pairwise.nil

theorem pairwise_insertEntry
    (name : String)
    (handler : Handler)
    {entries : List (String × Handler)}
    (ordered : entries.Pairwise fun first second => first.1 < second.1) :
    (insertEntry name handler entries).Pairwise fun first second => first.1 < second.1 := by
  induction entries with
  | nil => exact List.pairwise_singleton _ _
  | cons entry rest inductionHypothesis =>
      obtain ⟨other, otherHandler⟩ := entry
      obtain ⟨below, remaining⟩ := List.pairwise_cons.mp ordered
      rw [insertEntry]
      split
      · rename_i before
        refine List.pairwise_cons.mpr ⟨?_, ordered⟩
        rintro entry (_ | ⟨_, later⟩)
        · exact before
        · exact before.trans (below entry later)
      · split
        · rename_i same
          subst same
          exact List.pairwise_cons.mpr ⟨below, remaining⟩
        · rename_i notBefore different
          have after : other < name := lt_of_le_of_ne (not_lt.mp notBefore) (Ne.symm different)
          refine List.pairwise_cons.mpr ⟨?_, inductionHypothesis remaining⟩
          intro entry member
          rcases mem_insertEntry member with rfl | earlier
          · exact after
          · exact below entry earlier

section

variable {registry : Registry}

theorem Ordered.insert
    (ordered : registry.Ordered)
    (name : String)
    (handler : Handler)
    (free : objection? name = none) :
    (registry.insert name handler free).Ordered := by
  rw [ordered_iff] at ordered ⊢
  exact pairwise_insertEntry name handler ordered

theorem Ordered.erase (ordered : registry.Ordered) (name : String) :
    (registry.erase name).Ordered := by
  rw [ordered_iff] at ordered ⊢
  exact ordered.filter _

theorem Ordered.apply (ordered : registry.Ordered) (change : Change Handler) :
    (registry.apply change).Ordered := by
  cases change with
  | register name handler =>
      rw [Registry.apply]
      split
      · rename_i registered
        obtain ⟨free, rfl⟩ := exists_of_register registered
        exact ordered.insert name handler free
      · exact ordered
  | unregister name => exact ordered.erase name
  | clear => exact ordered_empty

theorem Ordered.merge (ordered : registry.Ordered) (other : Registry) :
    (registry.merge other).Ordered := by
  rw [Registry.merge]
  induction other.entries.attach generalizing registry with
  | nil => exact ordered
  | cons entry rest inductionHypothesis => exact inductionHypothesis (ordered.insert _ _ _)

theorem mem_names_iff (registry : Registry) (name : String) :
    name ∈ registry.names ↔ (registry.get? name).isSome := by
  rw [← not_iff_not, Option.not_isSome_iff_eq_none, get?, List.lookup_eq_none_iff, names,
    List.mem_map]
  constructor
  · intro unlisted entry member
    rw [bne_iff_ne]
    rintro rfl
    exact unlisted ⟨entry, member, rfl⟩
  · rintro distinct ⟨entry, member, rfl⟩
    exact absurd rfl (bne_iff_ne.mp (distinct entry member))

theorem isEmpty_iff (registry : Registry) :
    registry.isEmpty = true ↔ ∀ name, registry.get? name = none := by
  have absent (name : String) : registry.get? name = none ↔ name ∉ registry.names := by
    rw [mem_names_iff, Option.not_isSome_iff_eq_none]
  simp only [absent, ← List.eq_nil_iff_forall_not_mem, names, List.map_eq_nil_iff]
  exact List.isEmpty_iff

end

/-! ## Merging -/

/-- Entries with distinct names that are put in one after the other are all found there. -/
theorem get?_foldl_insert
    {other : Registry}
    {incoming : List { entry // entry ∈ other.entries }}
    (distinct : (incoming.map (·.1)).Pairwise fun first second => first.1 < second.1)
    (registry : Registry)
    (name : String) :
    (incoming.foldl
      (fun merged entry => merged.insert entry.1.1 entry.1.2 (other.permitted entry.1 entry.2))
      registry).get? name =
      ((incoming.map (·.1)).lookup name).or (registry.get? name) := by
  induction incoming generalizing registry with
  | nil => rfl
  | cons entry rest inductionHypothesis =>
      obtain ⟨⟨head, handler⟩, member⟩ := entry
      obtain ⟨below, remaining⟩ := List.pairwise_cons.mp distinct
      rw [List.foldl_cons, inductionHypothesis remaining, get?_insert, List.map_cons,
        List.lookup_cons]
      by_cases same : name = head
      · -- the entry is not overwritten by a later one of the same name
        subst same
        have absent : (rest.map (·.1)).lookup name = none := by
          rw [List.lookup_eq_none_iff]
          intro later member
          exact bne_iff_ne.mpr (ne_of_lt (below later member))
        simp [absent]
      · simp [same, beq_eq_false_iff_ne.mpr same]

/-- After a merge, the operators of the other registry take the place of those before. -/
theorem get?_merge
    {other : Registry}
    (ordered : other.Ordered)
    (registry : Registry)
    (name : String) :
    (registry.merge other).get? name = (other.get? name).or (registry.get? name) := by
  have entries : other.entries.attach.map (·.1) = other.entries := List.attach_map_subtype_val _
  have distinct := (ordered_iff other).mp ordered
  rw [merge, get?_foldl_insert (entries.symm ▸ distinct), entries]
  rfl

/-! ## Histories -/

/-- What is done to a registry.  A merge is noted with what the other registry holds then. -/
inductive Event where
  | change (change : Change Handler)
  | merge (other : Registry)

namespace Event

/-- The registry after an event. -/
def applyTo (registry : Registry) : Event → Registry
  | .change made => registry.apply made
  | .merge other => registry.merge other

/-- An event puts a handler under a name.  A registration that is refused does not. -/
def Writes (event : Event) (name : String) (handler : Handler) : Prop :=
  match event with
  | .change (.register other written) =>
      (other = name ∧ written = handler) ∧ name ≠ "" ∧ Operator.isBuiltin name = false
  | .change _ => False
  | .merge other => other.get? name = some handler

/-- An event removes whatever is under a name. -/
def Removes (event : Event) (name : String) : Prop :=
  match event with
  | .change (.unregister other) => other = name
  | .change .clear => True
  | .change (.register ..) | .merge _ => False

/-- What an event does to a name has nothing to do with what was under it before. -/
def Touches (event : Event) (name : String) : Prop :=
  event.Removes name ∨ ∃ handler, event.Writes name handler

end Event

/-- The last event of a history that touches a name puts a handler there. -/
def LastWrite (history : List Event) (name : String) (handler : Handler) : Prop :=
  ∃ before event after, history = before ++ event :: after ∧ event.Writes name handler ∧
    ∀ later ∈ after, ¬ later.Touches name

/-- The last write of a longer history is its last event, or it was the last write before. -/
theorem lastWrite_concat_iff
    (history : List Event)
    (event : Event)
    (name : String)
    (handler : Handler) :
    LastWrite (history ++ [event]) name handler ↔
      event.Writes name handler ∨ ¬ event.Touches name ∧ LastWrite history name handler := by
  constructor
  · rintro ⟨before, written, after, split, writes, untouched⟩
    rcases List.eq_nil_or_concat after with rfl | ⟨earlier, last, rfl⟩
    · obtain ⟨_, same⟩ := List.append_inj' split rfl
      obtain rfl := List.singleton_inj.mp same
      exact .inl writes
    · rw [List.concat_eq_append] at split untouched
      obtain ⟨rfl, same⟩ := List.append_inj' (split.trans (List.append_assoc _ (_ :: _) _).symm) rfl
      obtain rfl := List.singleton_inj.mp same
      exact .inr ⟨untouched event (by simp), before, written, earlier, rfl, writes,
        fun later member => untouched later (by simp [member])⟩
  · rintro (writes | ⟨untouched, before, written, after, rfl, writes, kept⟩)
    · exact ⟨history, event, [], rfl, writes, List.forall_mem_nil _⟩
    · refine ⟨before, written, after ++ [event], by simp, writes, ?_⟩
      intro later member
      rcases List.mem_append.mp member with earlier | last
      · exact kept later earlier
      · obtain rfl := List.mem_singleton.mp last
        exact untouched

/-- What an event does to each name: it writes it, it leaves it alone, or nothing is there. -/
theorem get?_applyTo_iff
    {event : Event}
    (ordered : ∀ other, event = .merge other → other.Ordered)
    (registry : Registry)
    (name : String)
    (handler : Handler) :
    (event.applyTo registry).get? name = some handler ↔
      event.Writes name handler ∨ ¬ event.Touches name ∧ registry.get? name = some handler := by
  cases event with
  | merge other =>
      rw [Event.applyTo, get?_merge (ordered other rfl)]
      cases found : other.get? name <;> simp [Event.Touches, Event.Writes, Event.Removes, found]
  | change made =>
      cases made with
      | unregister removed =>
          simp only [Event.applyTo, apply, get?_erase, Event.Touches, Event.Writes, Event.Removes]
          by_cases same : name = removed <;> simp [same, eq_comm]
      | clear =>
          simp [Event.applyTo, apply, get?, empty, Event.Touches, Event.Writes, Event.Removes]
      | register written new =>
          simp only [Event.applyTo, get?_apply_register, Event.Touches, Event.Writes,
            Event.Removes, ← objection?_eq_none_iff]
          by_cases same : name = written
          · subst same
            by_cases free : objection? name = none <;> simp [free]
          · simp [same, Ne.symm same]

/-! ## Collections of registries -/

/-- A registry with what has been done to it since it was new. -/
structure Traced where
  registry : Registry
  history : List Event

namespace Traced

/-- A new registry. -/
def new : Traced := ⟨.empty, []⟩

/-- A registry after one more event. -/
def extend (traced : Traced) (event : Event) : Traced :=
  ⟨event.applyTo traced.registry, traced.history ++ [event]⟩

/-- A registry holds what its history says. -/
structure Faithful (traced : Traced) : Prop where
  ordered : traced.registry.Ordered
  get?_iff (name : String) (handler : Handler) :
    traced.registry.get? name = some handler ↔ LastWrite traced.history name handler

/-- One more event keeps a registry faithful to its history. -/
theorem Faithful.extend
    {traced : Traced}
    (faithful : traced.Faithful)
    {event : Event}
    (ordered : ∀ other, event = .merge other → other.Ordered) :
    (traced.extend event).Faithful where
  ordered := by
    cases event with
    | change made => exact faithful.ordered.apply made
    | merge other => exact faithful.ordered.merge other
  get?_iff name handler := by
    rw [Traced.extend, get?_applyTo_iff ordered, faithful.get?_iff, ← lastWrite_concat_iff]

end Traced

/-- A call on numbered registries. -/
inductive Action where
  /-- Adds a new registry under the next number. -/
  | create
  /-- Adds a copy of a registry under the next number. -/
  | clone (source : Nat)
  /-- Changes a registry. -/
  | change (target : Nat) (change : Change Handler)
  /-- Merges the source into the target. -/
  | merge (target source : Nat)

/-- The registries after a call; a number without a registry makes it do nothing. -/
def perform (registries : List Traced) : Action → List Traced
  | .create => registries ++ [.new]
  | .clone source => registries ++ registries[source]?.toList
  | .change target made => registries.modify target (·.extend (.change made))
  | .merge target source =>
      match registries[source]? with
      | some other => registries.modify target (·.extend (.merge other.registry))
      | none => registries

/-- The registries after some calls. -/
def run (actions : List Action) : List Traced :=
  actions.foldl perform []

end Registry
end RuleClause
