import RuleClause.Error.Basic
import RuleClause.NameMap

/-!
# Schemas

A schema declares the fields that rules may name.  Every field has a name, one
declaration and a type; an enum field has at least one allowed value.  Fields are
looked up in a map by their names, and the order of their declarations is kept
beside it; a schema carries the proof that the two are in step and that its fields
are well declared.  A name may also lead into an object: `profile.age` is known when
`profile` is declared as an object.
-/

namespace RuleClause

/-- The declaration of a field. -/
structure Field where
  /-- The name, with dots between the parts of a nested one. -/
  name : String
  /-- The type of the values. -/
  type : FieldType
  /-- The values that an enum field may have. -/
  allowed : List String
deriving DecidableEq, Repr

/-- The fields of a list have names of their own, and its enum fields have values. -/
structure Schema.WellDeclared (fields : List Field) : Prop where
  /-- No name is empty. -/
  named : ∀ field ∈ fields, field.name ≠ ""
  /-- No name is declared twice. -/
  distinct : (fields.map (·.name)).Nodup
  /-- Every enum field has an allowed value. -/
  filled : ∀ field ∈ fields, field.type = .enum → field.allowed ≠ []

/-- The declared fields by name, and the order of their declarations. -/
structure Schema where
  /-- The declarations, by the names of the fields. -/
  declarations : NameMap Field
  /-- The names of the fields, in the order of their declarations. -/
  order : List String
  /-- The names in the order are those that have a declaration, once each. -/
  listed : order.Perm declarations.names
  /-- A declaration stands under the name of its field. -/
  own : ∀ name field, declarations.get? name = some field → field.name = name
  /-- The fields are well declared. -/
  wellDeclared : Schema.WellDeclared (order.filterMap declarations.get?)

namespace Schema

/-- No fields are well declared. -/
theorem wellDeclared_nil : WellDeclared [] :=
  ⟨by simp, by simp, by simp⟩

/-- A field may stand behind others if it has a new name and, as an enum field, values. -/
theorem wellDeclared_append_singleton_iff {before : List Field} {field : Field} :
    WellDeclared (before ++ [field]) ↔
      WellDeclared before ∧ field.name ≠ "" ∧ (field.type = .enum → field.allowed ≠ []) ∧
        ∀ other ∈ before, other.name ≠ field.name := by
  constructor
  · rintro ⟨named, distinct, filled⟩
    rw [List.map_append, List.nodup_append] at distinct
    refine ⟨⟨?_, distinct.1, ?_⟩, ?_, ?_, ?_⟩
    · exact fun other member => named other (List.mem_append_left _ member)
    · exact fun other member => filled other (List.mem_append_left _ member)
    · exact named field (by simp)
    · exact filled field (by simp)
    · exact fun other member => distinct.2.2 _ (List.mem_map_of_mem member) _ (by simp)
  · rintro ⟨⟨named, distinct, filled⟩, name, values, fresh⟩
    refine ⟨List.forall_mem_append.mpr ⟨named, by simpa using name⟩, ?_,
      List.forall_mem_append.mpr ⟨filled, by simpa using values⟩⟩
    rw [List.map_append, List.nodup_append]
    exact ⟨distinct, by simp, by simpa using fresh⟩

/-- A schema without fields. -/
def empty : Schema where
  declarations := .empty
  order := []
  listed := .nil
  own := by simp
  wellDeclared := wellDeclared_nil

/-- The fields, in the order of their declarations. -/
def fields (schema : Schema) : List Field :=
  schema.order.filterMap schema.declarations.get?

/-- The number of fields. -/
def size (schema : Schema) : Nat :=
  schema.declarations.size

/-- The declaration of a field. -/
def field? (schema : Schema) (name : String) : Option Field :=
  schema.declarations.get? name

/-- The type of a declared field. -/
def type? (schema : Schema) (name : String) : Option FieldType :=
  (schema.field? name).map (·.type)

/-- The beginnings of a text that end in front of a dot, from the shortest on. -/
def beforeDots : List Char → List (List Char)
  | [] => []
  | character :: rest =>
      let longer := (beforeDots rest).map (character :: ·)
      if character = '.' then [] :: longer else longer

/-- The object that a name leads into: the one with the shortest name, if there are several. -/
def enclosing? (schema : Schema) (name : String) : Option Field :=
  ((beforeDots name.toList).filterMap fun outer =>
    schema.declarations.get? (String.ofList outer)).find? (·.type == .object)

/-- The schema knows the name: it is declared, or it leads into an object. -/
def knows (schema : Schema) (name : String) : Bool :=
  schema.declarations.has name || (schema.enclosing? name).isSome

/-- The names of the fields, in the order of their declarations. -/
def names (schema : Schema) : List String :=
  schema.fields.map (·.name)

/-- What speaks against declaring a field next to the ones already declared. -/
def objection? (schema : Schema) (field : Field) : Option Fault :=
  if field.name = "" then some .emptyFieldName
  else if field.type = .enum ∧ field.allowed = [] then
    some (.enumWithoutValues field.name)
  else if schema.declarations.has field.name then some (.duplicateField field.name)
  else none

section

variable {schema : Schema} {field : Field}

theorem mem_order_iff (schema : Schema) (name : String) :
    name ∈ schema.order ↔ schema.declarations.has name = true := by
  rw [schema.listed.mem_iff, NameMap.has_iff_mem_names]

/-- A field has a declaration under its name, which is in the order. -/
theorem mem_fields_iff : field ∈ schema.fields ↔ schema.field? field.name = some field := by
  rw [fields, List.mem_filterMap]
  constructor
  · rintro ⟨name, _, found⟩
    rwa [field?, schema.own name field found]
  · intro found
    have declared : schema.declarations.has field.name = true := by
      rw [NameMap.has, ← field?, found, Option.isSome_some]
    exact ⟨field.name, (schema.mem_order_iff field.name).mpr declared, found⟩

theorem name_ne_of_mem_fields
    (fresh : schema.declarations.has field.name = false)
    {other : Field}
    (member : other ∈ schema.fields) :
    other.name ≠ field.name := by
  intro same
  have found := mem_fields_iff.mp member
  rw [same, field?] at found
  rw [NameMap.has, found] at fresh
  cases fresh

/-- A field that has no declaration yet stands behind the others once it has one. -/
theorem filterMap_append_insert (fresh : schema.declarations.has field.name = false) :
    (schema.order ++ [field.name]).filterMap
        (schema.declarations.insert field.name field).get? = schema.fields ++ [field] := by
  have absent : field.name ∉ schema.order := by
    rw [mem_order_iff, fresh]
    exact Bool.false_ne_true
  rw [List.filterMap_append, NameMap.filterMap_get?_insert _ absent, fields]
  simp

theorem objection?_eq_none_iff :
    schema.objection? field = none ↔
      field.name ≠ "" ∧ (field.type = .enum → field.allowed ≠ []) ∧
        schema.declarations.has field.name = false := by
  simp only [objection?]
  grind

end

/-- Declares a field to which there is no objection. -/
def declare
    (schema : Schema)
    (field : Field)
    (unopposed : schema.objection? field = none) : Schema where
  declarations := schema.declarations.insert field.name field
  order := schema.order ++ [field.name]
  listed := by
    obtain ⟨_, _, fresh⟩ := objection?_eq_none_iff.mp unopposed
    rw [NameMap.names_insert_of_not_has fresh]
    exact (List.perm_append_singleton _ _).trans (schema.listed.cons _)
  own name other found := by
    rw [NameMap.get?_insert] at found
    split at found
    · rename_i same
      rw [← Option.some.inj found, same]
    · exact schema.own name other found
  wellDeclared := by
    obtain ⟨named, filled, fresh⟩ := objection?_eq_none_iff.mp unopposed
    rw [filterMap_append_insert fresh, wellDeclared_append_singleton_iff]
    exact ⟨schema.wellDeclared, named, filled, fun _ => name_ne_of_mem_fields fresh⟩

/-- Declares further fields, one after the other; the first objection is final. -/
def declareAll (schema : Schema) : List Field → Except Error Schema
  | [] => .ok schema
  | field :: rest =>
      match verdict : schema.objection? field with
      | some fault => .error (.ofFault fault)
      | none => (schema.declare field verdict).declareAll rest

/-- The schema with the given declarations. -/
def ofFields (fields : List Field) : Except Error Schema :=
  empty.declareAll fields

/-- Refuses a name that the schema does not know. -/
def require (schema : Schema) (name : String) : Except Error Unit :=
  if schema.knows name then .ok ()
  else .error (.ofFault (.undeclaredField name))

/-- Refuses a field type that an operator cannot use. -/
def checkType
    (usage : Usage)
    (operator name : String)
    (type : FieldType) : Except Error Unit :=
  if usage.accepts type then .ok ()
  else
    .error ((Error.ofFault (.incompatibleField name type usage operator)).raisedBy operator)

/-- Refuses a declared field that an operator cannot use. -/
def checkUsage
    (schema : Schema)
    (usage : Usage)
    (operator name : String) : Except Error Unit :=
  match schema.type? name with
  | some type => checkType usage operator name type
  | none => .ok ()

/-- Refuses a value that is not among those of an enum field. -/
def checkValue (schema : Schema) (name value : String) : Except Error Unit :=
  match schema.field? name with
  | none => .ok ()
  | some field =>
      if field.type ≠ .enum ∨ field.allowed.contains value then .ok ()
      else .error (.ofFault (.valueNotAllowed value name field.allowed))

end Schema
end RuleClause
