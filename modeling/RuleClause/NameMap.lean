/-!
# Values by name

A map holds at most one value under a name.  It is looked into by name only: the
order of its entries says nothing and shows nowhere.
-/

namespace RuleClause

/-- Values under names. -/
structure NameMap (α : Type) where
  /-- The names with their values, in no particular order. -/
  entries : List (String × α)
  /-- No name has two values. -/
  distinct : (entries.map (·.1)).Nodup

namespace NameMap

variable {α : Type}

/-- A map without entries. -/
def empty : NameMap α := ⟨[], .nil⟩

/-- The value under a name. -/
def get? (map : NameMap α) (name : String) : Option α :=
  map.entries.lookup name

/-- There is a value under the name. -/
def has (map : NameMap α) (name : String) : Bool :=
  (map.get? name).isSome

/-- The names that have a value. -/
def names (map : NameMap α) : List String :=
  map.entries.map (·.1)

/-- The number of entries. -/
def size (map : NameMap α) : Nat :=
  map.entries.length

/-- Puts a value under a name, in place of any other there. -/
def insert (map : NameMap α) (name : String) (value : α) : NameMap α where
  entries := (name, value) :: map.entries.filter (·.1 != name)
  distinct := by
    refine List.nodup_cons.mpr ⟨by simp, ?_⟩
    exact map.distinct.sublist (List.filter_sublist.map _)

@[simp]
theorem get?_empty (name : String) : (empty : NameMap α).get? name = none := rfl

@[simp]
theorem length_names (map : NameMap α) : map.names.length = map.size :=
  List.length_map _

theorem has_iff_mem_names (map : NameMap α) (name : String) :
    map.has name = true ↔ name ∈ map.names := by
  simp only [has, get?, names]
  induction map.entries with
  | nil => simp
  | cons entry rest inductionHypothesis => grind

/-- A value is found under the name where it was put; nothing else changes. -/
@[simp]
theorem get?_insert (map : NameMap α) (name other : String) (value : α) :
    (map.insert name value).get? other =
      if other = name then some value else map.get? other := by
  simp only [get?, insert]
  induction map.entries with
  | nil => grind
  | cons entry rest inductionHypothesis => grind

/-- Values under other names are looked up as before. -/
theorem filterMap_get?_insert
    (map : NameMap α)
    {name : String}
    {others : List String}
    (absent : name ∉ others)
    (value : α) :
    others.filterMap (map.insert name value).get? = others.filterMap map.get? := by
  induction others with
  | nil => rfl
  | cons other rest inductionHypothesis =>
      obtain ⟨apart, absent⟩ : other ≠ name ∧ name ∉ rest := by grind
      rw [List.filterMap_cons, List.filterMap_cons, inductionHypothesis absent, get?_insert,
        if_neg apart]

/-- A name without a value is added to the names. -/
theorem names_insert_of_not_has
    {map : NameMap α}
    {name : String}
    (fresh : map.has name = false)
    (value : α) :
    (map.insert name value).names = name :: map.names := by
  have kept : map.entries.filter (·.1 != name) = map.entries := by
    rw [List.filter_eq_self]
    intro entry member
    have absent : name ∉ map.names := by
      rw [← has_iff_mem_names, fresh]
      exact Bool.false_ne_true
    simp only [bne_iff_ne]
    rintro rfl
    exact absent (List.mem_map_of_mem member)
  simp [names, insert, kept]

end NameMap
end RuleClause
