import RuleClause.Schema.Basic
import Mathlib.Data.List.Nodup

/-!
# Which fields make up a schema

A list of fields makes up a schema if every field has a name of its own and every enum field has
values.  The schema then holds the fields as they are listed, and looks them up by their names.
Otherwise the first field that cannot stand behind the ones before it is reported, with the first
of three objections to it.

A schema keeps its declarations in a map and their names in an order of their own, and looks for
an enclosing object at every dot of a name.  The first lemmas say what this comes to for the
fields of the schema, which are all that the others speak of.
-/

namespace RuleClause
namespace Schema

/-- What is wrong with a field behind others: the first of three objections that can be raised. -/
inductive Objects (before : List Field) (field : Field) : Fault → Prop
  /-- The field has no name. -/
  | unnamed (empty : field.name = "") : Objects before field .emptyFieldName
  /-- The field is an enum without values. -/
  | valueless
      (named : field.name ≠ "")
      (enum : field.type = .enum)
      (empty : field.allowed = []) :
      Objects before field (.enumWithoutValues field.name)
  /-- The name of the field is declared before it. -/
  | repeated
      (named : field.name ≠ "")
      (filled : field.type = .enum → field.allowed ≠ [])
      (earlier : ∃ other ∈ before, other.name = field.name) :
      Objects before field (.duplicateField field.name)

/-- A schema holds the fields of a list, in their order, and finds them by their names. -/
structure Holds (schema : Schema) (fields : List Field) : Prop where
  /-- The fields are those of the list. -/
  listed : schema.fields = fields
  /-- There are as many declarations. -/
  counted : schema.size = fields.length
  /-- A field is found under its name, and only there. -/
  found : ∀ name field, schema.field? name = some field ↔ field ∈ fields ∧ field.name = name
  /-- The type under a name is that of the field. -/
  typed : ∀ name type,
    schema.type? name = some type ↔ ∃ field ∈ fields, field.name = name ∧ field.type = type
  /-- The known names are those of the fields, and those that lead into an object. -/
  known : ∀ name, schema.knows name = true ↔
    (∃ field ∈ fields, field.name = name) ∨
      ∃ field ∈ fields, field.type = .object ∧ ∃ member, name = field.name ++ "." ++ member

section

variable {schema : Schema} {fields before : List Field} {field : Field} {fault : Fault}

/-! ## The map and the order -/

/-- The names that have a declaration are those of the fields. -/
theorem has_iff (schema : Schema) (name : String) :
    schema.declarations.has name = true ↔ ∃ field ∈ schema.fields, field.name = name := by
  rw [NameMap.has, Option.isSome_iff_exists]
  constructor
  · rintro ⟨field, found⟩
    obtain rfl := schema.own name field found
    exact ⟨field, mem_fields_iff.mpr found, rfl⟩
  · rintro ⟨field, member, rfl⟩
    exact ⟨field, mem_fields_iff.mp member⟩

/-- The order has a name for each field. -/
theorem map_name_fields (schema : Schema) : schema.fields.map (·.name) = schema.order := by
  have each : ∀ name ∈ schema.order, ∃ field, schema.declarations.get? name = some field := by
    intro name member
    exact Option.isSome_iff_exists.mp ((schema.mem_order_iff name).mp member)
  rw [Schema.fields]
  generalize schema.order = order at each
  induction order with
  | nil => rfl
  | cons name rest inductionHypothesis =>
      obtain ⟨⟨field, found⟩, others⟩ := List.forall_mem_cons.mp each
      rw [List.filterMap_cons_some found, List.map_cons, inductionHypothesis others,
        schema.own name field found]

/-- The map has as many declarations as there are fields. -/
theorem size_eq_length_fields (schema : Schema) : schema.size = schema.fields.length := by
  rw [size, ← NameMap.length_names, ← schema.listed.length_eq, ← map_name_fields, List.length_map]

theorem field?_eq_some_iff (name : String) :
    schema.field? name = some field ↔ field ∈ schema.fields ∧ field.name = name := by
  constructor
  · intro found
    obtain rfl := schema.own name field found
    exact ⟨mem_fields_iff.mpr found, rfl⟩
  · rintro ⟨member, rfl⟩
    exact mem_fields_iff.mp member

/-! ## The dots of a name -/

/-- What stands in front of some dot of a text. -/
theorem mem_beforeDots_iff (outer characters : List Char) :
    outer ∈ beforeDots characters ↔ ∃ member, characters = outer ++ '.' :: member := by
  induction characters generalizing outer with
  | nil => simp [beforeDots]
  | cons character rest inductionHypothesis =>
      have longer : outer ∈ (beforeDots rest).map (character :: ·) ↔
          ∃ inner member, outer = character :: inner ∧ rest = inner ++ '.' :: member := by
        simp only [List.mem_map, inductionHypothesis]
        grind
      cases outer with
      | nil =>
          rw [beforeDots]
          split <;> simp_all
      | cons first inner =>
          rw [beforeDots]
          split <;> grind

/-- A name leads into an object if it is the name of the object, a dot and a member. -/
theorem isSome_enclosing?_iff (schema : Schema) (name : String) :
    (schema.enclosing? name).isSome = true ↔
      ∃ field ∈ schema.fields, field.type = .object ∧
        ∃ member, name = field.name ++ "." ++ member := by
  simp only [enclosing?, List.find?_isSome, List.mem_filterMap, mem_beforeDots_iff, beq_iff_eq]
  constructor
  · rintro ⟨field, ⟨outer, ⟨member, split⟩, found⟩, object⟩
    have named := schema.own _ field found
    refine ⟨field, mem_fields_iff.mpr (named ▸ found), object, String.ofList member, ?_⟩
    apply String.toList_injective
    simp [named, split]
  · rintro ⟨field, member, object, rest, rfl⟩
    refine ⟨field, ⟨field.name.toList, ⟨rest.toList, by simp⟩, ?_⟩, object⟩
    rw [String.ofList_toList]
    exact mem_fields_iff.mp member

/-- Every schema holds its fields. -/
theorem holds_fields (schema : Schema) : schema.Holds schema.fields where
  listed := rfl
  counted := schema.size_eq_length_fields
  found name field := field?_eq_some_iff name
  typed name type := by
    simp only [type?, Option.map_eq_some_iff, field?_eq_some_iff, and_assoc]
  known name := by
    simp only [knows, Bool.or_eq_true, has_iff, isSome_enclosing?_iff]

/-! ## Declaring one more field -/

/-- A field that is declared stands behind the others. -/
theorem fields_declare (unopposed : schema.objection? field = none) :
    (schema.declare field unopposed).fields = schema.fields ++ [field] :=
  filterMap_append_insert (objection?_eq_none_iff.mp unopposed).2.2

/-- Declarations in front of others are well-formed if all are. -/
theorem WellDeclared.of_append
    {after : List Field}
    (well : WellDeclared (before ++ after)) :
    WellDeclared before where
  named other member := well.named other (List.mem_append_left _ member)
  distinct := by
    have distinct := well.distinct
    rw [List.map_append, List.nodup_append] at distinct
    exact distinct.1
  filled other member := well.filled other (List.mem_append_left _ member)

/-- The objection to a field is the first one that can be raised. -/
theorem objection?_eq_some_iff :
    schema.objection? field = some fault ↔ Objects schema.fields field fault := by
  constructor
  · intro objected
    unfold objection? at objected
    split_ifs at objected with empty valueless repeated
    · obtain rfl := Option.some.inj objected
      exact .unnamed empty
    · obtain rfl := Option.some.inj objected
      exact .valueless empty valueless.1 valueless.2
    · obtain rfl := Option.some.inj objected
      exact .repeated empty (fun enum none => valueless ⟨enum, none⟩)
        ((schema.has_iff field.name).mp repeated)
  · intro objects
    cases objects with
    | unnamed empty => rw [objection?, if_pos empty]
    | valueless named enum empty => rw [objection?, if_neg named, if_pos ⟨enum, empty⟩]
    | repeated named filled earlier =>
        rw [objection?, if_neg named, if_neg fun valueless => filled valueless.1 valueless.2,
          if_pos ((schema.has_iff field.name).mpr earlier)]

/-- To a field that is declared well there is no objection. -/
theorem Objects.not_wellDeclared
    (objects : Objects before field fault)
    (after : List Field) :
    ¬WellDeclared (before ++ field :: after) := by
  rw [List.append_cons]
  intro well
  obtain ⟨_, named, filled, fresh⟩ := wellDeclared_append_singleton_iff.mp well.of_append
  cases objects with
  | unnamed empty => exact named empty
  | valueless _ enum empty => exact filled enum empty
  | repeated _ _ earlier =>
      obtain ⟨other, member, same⟩ := earlier
      exact fresh other member same

theorem Objects.code_eq (objects : Objects before field fault) : fault.code = .validation := by
  cases objects <;> rfl

/-! ## Declaring a list of fields -/

/-- How the declaration of further fields behind some may end. -/
inductive Declares (earlier fields : List Field) : Except Error Schema → Prop
  /-- All of them are declared. -/
  | declared {schema : Schema}
      (all : schema.fields = earlier ++ fields) :
      Declares earlier fields (.ok schema)
  /-- There is an objection to one of them, and to none before it. -/
  | refused {before after : List Field} {field : Field} {fault : Fault}
      (first : fields = before ++ field :: after)
      (well : WellDeclared (earlier ++ before))
      (objects : Objects (earlier ++ before) field fault) :
      Declares earlier fields (.error (.ofFault fault))

theorem declares_declareAll (schema : Schema) (fields : List Field) :
    Declares schema.fields fields (schema.declareAll fields) := by
  induction fields generalizing schema with
  | nil => exact .declared (List.append_nil _).symm
  | cons field rest inductionHypothesis =>
      rw [declareAll]
      split
      · rename_i fault objected
        have well : WellDeclared (schema.fields ++ []) := by
          rw [List.append_nil]
          exact schema.wellDeclared
        have objects := objection?_eq_some_iff.mp objected
        rw [← schema.fields.append_nil] at objects
        exact .refused rfl well objects
      · rename_i unopposed
        -- the fields declared so far are those before and the new one
        have later := inductionHypothesis (schema.declare field unopposed)
        have shifted (others : List Field) :
            schema.fields ++ [field] ++ others = schema.fields ++ field :: others := by
          simp
        rw [fields_declare] at later
        generalize (schema.declare field unopposed).declareAll rest = ended at later ⊢
        cases later with
        | declared all => exact .declared (all.trans (shifted rest))
        | refused first earlier objects =>
            rw [shifted] at earlier objects
            exact .refused (congrArg (field :: ·) first) earlier objects

end

/--
A list of fields makes up a schema if and only if its fields have names of their own and its enum
fields have values.  The schema holds the fields of the list.  Otherwise the error is about the
first field to which there is an objection.
-/
theorem ofFields_holds_or_objects (fields : List Field) :
    ((∃ schema, ofFields fields = .ok schema) ↔ WellDeclared fields) ∧
      (∀ schema, ofFields fields = .ok schema → schema.Holds fields) ∧
      ∀ error, ofFields fields = .error error →
        error.code = .validation ∧
          ∃ before field after fault, fields = before ++ field :: after ∧
            WellDeclared before ∧ Objects before field fault ∧ error = .ofFault fault := by
  have ended : Declares [] fields (ofFields fields) := declares_declareAll empty fields
  generalize ofFields fields = outcome at ended ⊢
  cases ended with
  | @declared schema all =>
      obtain rfl : schema.fields = fields := all
      refine ⟨iff_of_true ⟨_, rfl⟩ schema.wellDeclared, ?_, by simp⟩
      rintro _ ⟨rfl⟩
      exact schema.holds_fields
  | @refused before after field fault first well objects =>
      refine ⟨iff_of_false (by simp) ?_, by simp, ?_⟩
      · rw [first]
        exact objects.not_wellDeclared after
      · rintro _ ⟨rfl⟩
        exact ⟨objects.code_eq, before, field, after, fault, first, well, objects, rfl⟩

/-- An object and an enum field. -/
def accountFields : List Field :=
  [⟨"profile", .object, []⟩, ⟨"status", .enum, ["open", "closed"]⟩]

/--
Two fields make up a schema that knows the members of the first.  A third one that repeats the name
of the second is refused for another reason, if it is an enum without values.
-/
theorem ofFields_holds_or_objects_of_account :
    (∃ schema, ofFields accountFields = .ok schema ∧ schema.knows "profile.age" = true) ∧
      ∃ error, ofFields (accountFields ++ [⟨"status", .enum, []⟩]) = .error error ∧
        error.code = .validation ∧ error.fault = .enumWithoutValues "status" := by
  have well : WellDeclared accountFields :=
    ⟨by simp [accountFields], by simp [accountFields], by simp [accountFields]⟩
  constructor
  · obtain ⟨succeeds, holds, _⟩ := ofFields_holds_or_objects accountFields
    obtain ⟨schema, declared⟩ := succeeds.mpr well
    have known := ((holds schema declared).known "profile.age").mpr
      (.inr ⟨⟨"profile", .object, []⟩, List.mem_cons_self, rfl, "age", rfl⟩)
    exact ⟨schema, declared, known⟩
  · have refused : ofFields (accountFields ++ [⟨"status", .enum, []⟩]) =
        .error (.ofFault (.enumWithoutValues "status")) := rfl
    obtain ⟨_, _, reported⟩ := ofFields_holds_or_objects (accountFields ++ [⟨"status", .enum, []⟩])
    exact ⟨_, refused, (reported _ refused).1, rfl⟩

end Schema
end RuleClause
