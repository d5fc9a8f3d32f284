import RuleClause.Custom.Handler

/-!
# Registered operators

A registry holds custom operators by name, in ascending order of their names.
Neither the empty name nor the name of a built-in operator can be registered, and
a registry carries the proof that it holds no such name.
-/

namespace RuleClause

/-- A reason to refuse a registration. -/
inductive RegistryError where
  /-- The name belongs to a built-in operator. -/
  | builtinConflict (name : String)
  /-- The name is empty. -/
  | emptyName
deriving DecidableEq, Repr

/-- The wording of a refused registration. -/
def RegistryError.message : RegistryError → String
  | .builtinConflict name =>
      "operator '" ++ name ++ "' conflicts with a built-in operator"
  | .emptyName => "operator name must not be empty"

/-- What speaks against registering a name. -/
def Registry.objection? (name : String) : Option RegistryError :=
  if name = "" then some .emptyName
  else if Operator.isBuiltin name then some (.builtinConflict name)
  else none

/-- Custom operators by name. -/
structure Registry where
  /-- The operators, in ascending order of their names. -/
  entries : List (String × Handler)
  /-- Nothing speaks against the names. -/
  permitted : ∀ entry ∈ entries, Registry.objection? entry.1 = none

namespace Registry

/-- A registry without operators. -/
def empty : Registry := ⟨[], by simp⟩

/-- The handler under a name. -/
def get? (registry : Registry) (name : String) : Option Handler :=
  registry.entries.lookup name

/-- Some operator has the name. -/
def has (registry : Registry) (name : String) : Bool :=
  (registry.get? name).isSome

/-- The names of the operators, in ascending order. -/
def names (registry : Registry) : List String :=
  registry.entries.map (·.1)

/-- The number of operators. -/
def size (registry : Registry) : Nat :=
  registry.entries.length

/-- There are no operators. -/
def isEmpty (registry : Registry) : Bool :=
  registry.entries.isEmpty

/-- An operator that is found under a name is an entry. -/
theorem mem_entries_of_get?
    {registry : Registry}
    {name : String}
    {handler : Handler}
    (found : registry.get? name = some handler) :
    (name, handler) ∈ registry.entries := by
  obtain ⟨before, after, split, _⟩ := List.lookup_eq_some_iff.mp found
  simp [split]

/-- No registry has an operator under the name of a built-in one. -/
@[simp]
theorem get?_operator_name (registry : Registry) (operator : Operator) :
    registry.get? operator.name = none := by
  cases found : registry.get? operator.name with
  | none => rfl
  | some handler =>
      have permitted := registry.permitted _ (mem_entries_of_get? found)
      simp only [objection?, Operator.isBuiltin, Operator.ofName?_name,
        Option.isSome_some, if_true] at permitted
      split at permitted <;> contradiction

/-- Puts an entry in its place; one of the same name is replaced. -/
def insertEntry (name : String) (handler : Handler) :
    List (String × Handler) → List (String × Handler)
  | [] => [(name, handler)]
  | (other, otherHandler) :: rest =>
      if name < other then (name, handler) :: (other, otherHandler) :: rest
      else if name = other then (name, handler) :: rest
      else (other, otherHandler) :: insertEntry name handler rest

/-- What an entry is put among stays, or the entry takes its place. -/
theorem mem_insertEntry
    {name : String}
    {handler : Handler}
    {entries : List (String × Handler)}
    {entry : String × Handler}
    (member : entry ∈ insertEntry name handler entries) :
    entry = (name, handler) ∨ entry ∈ entries := by
  induction entries with
  | nil => simpa [insertEntry] using member
  | cons head rest inductionHypothesis =>
      obtain ⟨other, otherHandler⟩ := head
      grind [insertEntry]

/-- Puts a handler under a name that can be registered, in place of any other there. -/
def insert
    (registry : Registry)
    (name : String)
    (handler : Handler)
    (free : objection? name = none) : Registry where
  entries := insertEntry name handler registry.entries
  permitted entry member := by
    rcases mem_insertEntry member with rfl | earlier
    · exact free
    · exact registry.permitted entry earlier

theorem lookup_insertEntry
    (name other : String)
    (handler : Handler)
    (entries : List (String × Handler)) :
    (insertEntry name handler entries).lookup other =
      if other = name then some handler else entries.lookup other := by
  induction entries with
  | nil => grind [insertEntry]
  | cons entry rest inductionHypothesis =>
      obtain ⟨head, headHandler⟩ := entry
      grind [insertEntry]

/-- A handler is found under the name where it was put; nothing else changes. -/
@[simp]
theorem get?_insert
    (registry : Registry)
    (name other : String)
    (handler : Handler)
    (free : objection? name = none) :
    (registry.insert name handler free).get? other =
      if other = name then some handler else registry.get? other :=
  lookup_insertEntry name other handler registry.entries

/-- Registers a handler under a name. -/
def register
    (registry : Registry)
    (name : String)
    (handler : Handler) : Except RegistryError Registry :=
  match verdict : objection? name with
  | some error => .error error
  | none => .ok (registry.insert name handler verdict)

/-- The registry without the operator of a name. -/
def erase (registry : Registry) (name : String) : Registry where
  entries := registry.entries.filter (·.1 != name)
  permitted entry member :=
    registry.permitted entry (List.mem_filter.mp member).1

/-- Nothing is found under a name that was removed; nothing else changes. -/
@[simp]
theorem get?_erase (registry : Registry) (name other : String) :
    (registry.erase name).get? other =
      if other = name then none else registry.get? other := by
  simp only [get?, erase]
  induction registry.entries with
  | nil => simp
  | cons entry rest inductionHypothesis =>
      obtain ⟨head, headHandler⟩ := entry
      grind

/-- Removes the operator with a name, and tells whether there was one. -/
def unregister (registry : Registry) (name : String) : Bool × Registry :=
  (registry.has name, registry.erase name)

/-- Takes over every operator of another registry. -/
def merge (registry other : Registry) : Registry :=
  other.entries.attach.foldl
    (fun merged entry =>
      merged.insert entry.1.1 entry.1.2 (other.permitted entry.1 entry.2))
    registry

/-- Makes a change; a registration that is refused changes nothing. -/
def apply (registry : Registry) : Change Handler → Registry
  | .register name handler =>
      match registry.register name handler with
      | .ok changed => changed
      | .error _ => registry
  | .unregister name => registry.erase name
  | .clear => empty

end Registry

/-- What speaks against a change. -/
def Change.objection? : Change Handler → Option RegistryError
  | .register name _ => Registry.objection? name
  | .unregister _ | .clear => none

/-- The changes before the first one that is refused. -/
def Change.accepted (changes : List (Change Handler)) : List (Change Handler) :=
  changes.takeWhile (·.objection?.isNone)

/--
A handler that changes the operators of a target before it calls a function.  It
fails at the first change that is refused; the changes before it stand.
-/
def Handler.editing
    (target : Nat)
    (changes : List (Change Handler))
    (function : String) : Handler :=
  .uniform fun _ arguments =>
    { answer :=
        match changes.findSome? Change.objection? with
        | some error => .error error.message
        | none => .ok (Dialect.call function arguments)
      edits := (Change.accepted changes).map fun change => ⟨target, change⟩ }

end RuleClause
