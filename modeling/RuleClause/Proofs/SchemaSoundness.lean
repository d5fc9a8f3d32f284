import RuleClause.Proofs.Compile.Acceptance
import RuleClause.Proofs.Target

/-!
# Conditions respect the schema

Outside of iterations, whatever gives a condition names fields that the schema
knows, hands operators only fields of types that they accept, and sets only
allowed values against enum fields.  Folded operations are left out, because their
operands are never looked at.
-/

namespace RuleClause

/-- An operator accepts fields of a type as the operand with a number. -/
def Operator.acceptsField (operator : Operator) (index : Nat) (type : FieldType) : Bool :=
  match operator, index with
  | .add, _ | .subtract, _ | .multiply, _ | .divide, _ | .modulo, _ | .max, _ | .min, _
  | .substr, 1 | .substr, 2 => Usage.numeric.accepts type
  | .cat, _ | .substr, 0 => Usage.string.accepts type
  | .greater, _ | .greaterEqual, _ | .less, _ | .lessEqual, _ => Usage.ordering.accepts type
  | .map, 0 | .filter, 0 | .reduce, 0 | .all, 0 | .some, 0 | .none, 0 | .merge, _ =>
      Usage.array.accepts type
  | .membership, 1 => Arrays.isSearchable type
  | _, _ => true

/-- The operators that compare two operands for equality. -/
def Operator.isEquality : Operator → Bool
  | .equal | .strictEqual | .notEqual | .strictNotEqual => true
  | _ => false

/-- An operation sets a value against the field with a name. -/
inductive Confronts : Operator → List Rule → String → Rule → Prop
  /-- An equality with the field on its left. -/
  | right
      {operator : Operator}
      {left right : Rule}
      {name : String}
      (equality : operator.isEquality = true)
      (reads : left.variableName? = some name) :
      Confronts operator [left, right] name right
  /-- An equality with the field on its right. -/
  | left
      {operator : Operator}
      {left right : Rule}
      {name : String}
      (equality : operator.isEquality = true)
      (reads : right.variableName? = some name) :
      Confronts operator [left, right] name left
  /-- A search for the field among written items. -/
  | item
      {needle item : Rule}
      {items : List Rule}
      {name : String}
      (reads : needle.variableName? = some name)
      (member : item ∈ items) :
      Confronts .membership [needle, .list items] name item
  /-- A default of the field. -/
  | default
      {name : String}
      {value : Rule} :
      Confronts .var [.string name, value] name value

/-- An operation respects a schema. -/
structure Schema.Respects
    (schema : Schema)
    (operator : Operator)
    (operands : List Rule) : Prop where
  /-- The schema knows the names of fields. -/
  known : ∀ name, .string name ∈ operator.fieldNames operands → schema.knows name = true
  /-- The operator accepts the declared fields among its operands. -/
  typed : ∀ index operand name type, operands[index]? = some operand →
    operand.variableName? = some name → schema.type? name = some type →
    operator.acceptsField index type = true
  /-- The literals that are set against an enum field are among its values. -/
  allowed : ∀ name value field text, Confronts operator operands name value →
    schema.field? name = some field → field.type = .enum →
    value.literalText? = some text → text ∈ field.allowed

section

variable {schema : Schema} {answer : Request → Except Error Sql} {call : Call}
  {expression : Sql}

/-! ## What the checks of the schema say about the fields of a row -/

theorem Reference.Resolves.knows
    {name : String}
    (resolves : Resolves ⟨some schema, .row⟩ name expression) :
    schema.knows name = true :=
  resolves.1 schema rfl

theorem Setting.Admits.accepts
    {usage : Usage}
    {operand : Rule}
    {name : String}
    {type : FieldType}
    (admits : Setting.Admits ⟨some schema, .row⟩ usage operand)
    (reads : operand.variableName? = some name)
    (declared : schema.type? name = some type) :
    usage.accepts type = true :=
  admits name type (by simp [Setting.field?, reads, declared])

theorem Setting.Allows.mem_allowed
    {name text : String}
    {value : Rule}
    {field : Field}
    (allows : Setting.Allows ⟨some schema, .row⟩ (some (name, .enum)) value)
    (declared : schema.field? name = some field)
    (enumerated : field.type = .enum)
    (written : value.literalText? = some text) :
    text ∈ field.allowed := by
  have checked := allows name schema text rfl rfl written
  simpa [Schema.checkValue, declared, enumerated] using checked

theorem Setting.Allows.mem_allowed_of_reads
    {name text : String}
    {rule value : Rule}
    {field : Field}
    (allows : Setting.Allows ⟨some schema, .row⟩ (Setting.field? ⟨some schema, .row⟩ rule) value)
    (reads : rule.variableName? = some name)
    (declared : schema.field? name = some field)
    (enumerated : field.type = .enum)
    (written : value.literalText? = some text) :
    text ∈ field.allowed := by
  have read : Setting.field? ⟨some schema, .row⟩ rule = some (name, .enum) := by
    simp [Setting.field?, reads, Schema.type?, declared, enumerated]
  rw [read] at allows
  exact allows.mem_allowed declared enumerated written

/-! ## Names -/

theorem knows_of_resolved
    {names : List Rule}
    {references : List Sql}
    (resolved : List.Forall₂
      (fun rule reference => ∃ name, rule = .string name ∧
        Reference.Resolves ⟨some schema, .row⟩ name reference)
      names references)
    {name : String}
    (member : .string name ∈ names) :
    schema.knows name = true := by
  obtain ⟨_, _, named, same, resolves⟩ := resolved.exists_of_mem_left member
  obtain rfl := Rule.string.inj same
  exact resolves.knows

theorem knows_of_run_reference
    {name : String}
    (ended : (Reference.reference ⟨some schema, .row⟩ call (.string name)).run answer =
      .ok expression) :
    schema.knows name = true := by
  rcases Reference.resolves_of_run_reference ended with
    ⟨named, same, resolves⟩ | ⟨_, _, same, _⟩
  · obtain rfl := Rule.string.inj same
    exact resolves.knows
  · cases same

theorem knows_of_run_plan
    {dialect : Dialect}
    {operator : Operator}
    (ended : (operator.plan dialect ⟨some schema, .row⟩ call).run answer = .ok expression)
    {name : String}
    (member : .string name ∈ operator.fieldNames call.operands) :
    schema.knows name = true := by
  cases operator with
  | var =>
      rcases Reference.of_run_var ended with
        ⟨rule, operands, resolved⟩ | ⟨rule, _, _, _, operands, resolved, _⟩
      · obtain rfl : Rule.string name = rule := by
          simpa [operands, Operator.fieldNames] using member
        exact knows_of_run_reference resolved
      · obtain rfl : Rule.string name = rule := by
          simpa [operands, Operator.fieldNames] using member
        exact knows_of_run_reference resolved
  | missing =>
      obtain ⟨_, resolved, _⟩ := Reference.of_run_missing ended
      exact knows_of_resolved resolved member
  | missingSome =>
      obtain ⟨_, _, names, _, arguments, resolved, _⟩ := Reference.of_run_missingSome ended
      rw [Call.operands, arguments] at member
      exact knows_of_resolved resolved member
  | equal | strictEqual | notEqual | strictNotEqual | not | truthy | and | or | conditional
  | ternary | greater | greaterEqual | less | lessEqual | add | subtract | multiply | divide
  | modulo | max | min | cat | substr | membership | map | filter | reduce | all | some | none
  | merge => simp [Operator.fieldNames] at member

/-! ## Types -/

theorem admits_of_run_terms
    {setting : Setting}
    {terms : List Sql}
    (ended : (Arithmetic.terms setting call).run answer = .ok terms)
    {operand : Rule}
    (member : operand ∈ call.operands) :
    setting.Admits .numeric operand :=
  ((Arithmetic.run_terms_eq_ok_iff _).mp ended).1 operand member

theorem admits_of_run_chain
    {setting : Setting}
    {operator : BinaryOp}
    (ended : (Arithmetic.chain setting call operator).run answer = .ok expression)
    {operand : Rule}
    (member : operand ∈ call.operands) :
    setting.Admits .numeric operand := by
  obtain ⟨_, terms, asked, _⟩ := (Arithmetic.run_chain_eq_ok_iff _ _).mp ended
  exact admits_of_run_terms asked member

theorem admits_of_run_comparison
    {setting : Setting}
    {operator : BinaryOp}
    (ended : (Logic.comparison setting call operator).run answer = .ok expression)
    {operand : Rule}
    (member : operand ∈ call.operands) :
    setting.Admits .ordering operand := by
  obtain ⟨operands, _, arguments, _, admitted, _⟩ :=
    (Logic.run_comparison_eq_ok_iff _ _).mp ended
  exact admitted operand (by simpa [Call.operands, Rule.operands, arguments] using member)

theorem admits_of_run_iteration
    {setting : Setting}
    {build : Sql → Sql → Sql}
    (ended : (Arrays.iteration setting call build).run answer = .ok expression)
    {operand : Rule}
    (found : call.operands[0]? = some operand) :
    setting.Admits .array operand := by
  obtain ⟨source, _, _, _, arguments, admitted, _⟩ := Arrays.of_run_iteration ended
  obtain rfl : source = operand := by
    simpa [Call.operands, Rule.operands, arguments] using found
  exact admitted

theorem acceptsField_of_run_substr
    {index : Nat}
    {operand : Rule}
    {name : String}
    {type : FieldType}
    (ended : (Strings.substr ⟨some schema, .row⟩ call).run answer = .ok expression)
    (found : call.operands[index]? = some operand)
    (reads : operand.variableName? = some name)
    (declared : schema.type? name = some type) :
    Operator.substr.acceptsField index type = true := by
  obtain ⟨text, place, _, _, _, admittedText, admittedPlace, _, _, _, outcome⟩ :=
    Strings.of_run_substr ended
  match index with
  | 0 =>
      obtain rfl : text = operand := by
        rcases outcome with ⟨arguments, _⟩ | ⟨_, _, arguments, _⟩
        · simpa [Call.operands, Rule.operands, arguments] using found
        · simpa [Call.operands, Rule.operands, arguments] using found
      exact admittedText.accepts reads declared
  | 1 =>
      obtain rfl : place = operand := by
        rcases outcome with ⟨arguments, _⟩ | ⟨_, _, arguments, _⟩
        · simpa [Call.operands, Rule.operands, arguments] using found
        · simpa [Call.operands, Rule.operands, arguments] using found
      exact admittedPlace.accepts reads declared
  | 2 =>
      rcases outcome with ⟨arguments, _⟩ | ⟨length, _, arguments, admittedLength, _⟩
      · simp [Call.operands, Rule.operands, arguments] at found
      · obtain rfl : length = operand := by
          simpa [Call.operands, Rule.operands, arguments] using found
        exact admittedLength.accepts reads declared
  | index + 3 => rfl

theorem acceptsField_of_run_membership
    {index : Nat}
    {operand : Rule}
    {name : String}
    {type : FieldType}
    (ended : (Arrays.membership ⟨some schema, .row⟩ call).run answer = .ok expression)
    (found : call.operands[index]? = some operand)
    (reads : operand.variableName? = some name)
    (declared : schema.type? name = some type) :
    Operator.membership.acceptsField index type = true := by
  obtain ⟨needle, haystack, arguments, outcome⟩ := Arrays.of_run_membership ended
  match index with
  | 0 => rfl
  | 1 =>
      obtain rfl : haystack = operand := by
        simpa [Call.operands, Rule.operands, arguments] using found
      rcases outcome with ⟨items, rfl, _⟩ | ⟨_, searchable, _⟩
      · simp [Rule.variableName?] at reads
      · exact searchable name type (by simp [Setting.field?, reads, declared])
  | index + 2 => rfl

theorem acceptsField_of_run_plan
    {dialect : Dialect}
    {operator : Operator}
    {index : Nat}
    {operand : Rule}
    {name : String}
    {type : FieldType}
    (ended : (operator.plan dialect ⟨some schema, .row⟩ call).run answer = .ok expression)
    (found : call.operands[index]? = some operand)
    (reads : operand.variableName? = some name)
    (declared : schema.type? name = some type) :
    operator.acceptsField index type = true := by
  have member := List.mem_of_getElem? found
  cases operator with
  | add =>
      rcases Arithmetic.of_run_add ended with ⟨single, operands, ended⟩ | ended
      · obtain rfl : operand = single := by simpa [operands] using member
        exact (Arithmetic.of_run_plus ended).1.accepts reads declared
      · exact (admits_of_run_chain ended member).accepts reads declared
  | subtract =>
      rcases Arithmetic.of_run_subtract ended with ⟨single, operands, ended⟩ | ended
      · obtain rfl : operand = single := by simpa [operands] using member
        exact ((Arithmetic.run_minus_eq_ok_iff _ _).mp ended).1.accepts reads declared
      · exact (admits_of_run_chain ended member).accepts reads declared
  | multiply | divide => exact (admits_of_run_chain ended member).accepts reads declared
  | modulo =>
      obtain ⟨_, asked, _⟩ := Arithmetic.of_run_modulo ended
      exact (admits_of_run_terms asked member).accepts reads declared
  | max | min =>
      obtain ⟨_, _, asked, _⟩ := (Arithmetic.run_extremum_eq_ok_iff _ _).mp ended
      exact (admits_of_run_terms asked member).accepts reads declared
  | cat =>
      have admitted := ((Strings.run_cat_eq_ok_iff _).mp ended).2.1 operand member
      exact admitted.accepts reads declared
  | substr => exact acceptsField_of_run_substr ended found reads declared
  | greater | greaterEqual | less | lessEqual =>
      exact (admits_of_run_comparison ended member).accepts reads declared
  | map | filter | all | some | none =>
      cases index with
      | zero => exact (admits_of_run_iteration ended found).accepts reads declared
      | succ index => rfl
  | reduce =>
      cases index with
      | zero =>
          obtain ⟨source, _, _, _, _, arguments, admitted, _⟩ := Arrays.of_run_reduce ended
          obtain rfl : source = operand := by
            simpa [Call.operands, Rule.operands, arguments] using found
          exact admitted.accepts reads declared
      | succ index => rfl
  | merge =>
      rcases Arrays.of_run_merge ended with ⟨_, merged, _⟩ | ⟨plain, _⟩
      · have admitted := ((Arrays.of_run_mergedArrays merged).1 index operand found).1
        exact admitted.accepts reads declared
      · have unread := plain operand member
        cases operand with
        | operation => simp [Rule.isOperation] at unread
        | null | bool | number | string | list => simp [Rule.variableName?] at reads
  | membership => exact acceptsField_of_run_membership ended found reads declared
  | var | missing | missingSome | equal | strictEqual | notEqual | strictNotEqual | not
  | truthy | and | or | conditional | ternary => rfl

/-! ## Values -/

theorem mem_allowed_of_run_equality
    {binary : BinaryOp}
    {nullTest : Test}
    {left right rule value : Rule}
    {name text : String}
    {field : Field}
    (ended : (Logic.equality ⟨some schema, .row⟩ call binary nullTest).run answer =
      .ok expression)
    (operands : call.operands = [left, right])
    (sides : rule = left ∧ value = right ∨ rule = right ∧ value = left)
    (reads : rule.variableName? = some name)
    (declared : schema.field? name = some field)
    (enumerated : field.type = .enum)
    (written : value.literalText? = some text) :
    text ∈ field.allowed := by
  obtain ⟨first, second, same, outcome⟩ := Logic.of_run_equality ended
  obtain ⟨rfl, rfl⟩ : first = left ∧ second = right := by simpa [same] using operands
  -- A null on either side neither reads a field nor has a text.
  rcases outcome with ⟨rfl, _⟩ | ⟨rfl, _⟩ | ⟨allowsRight, allowsLeft, _⟩
  · rcases sides with ⟨rfl, rfl⟩ | ⟨rfl, rfl⟩
    · simp [Rule.literalText?] at written
    · simp [Rule.variableName?] at reads
  · rcases sides with ⟨rfl, rfl⟩ | ⟨rfl, rfl⟩
    · simp [Rule.variableName?] at reads
    · simp [Rule.literalText?] at written
  · rcases sides with ⟨rfl, rfl⟩ | ⟨rfl, rfl⟩
    · exact allowsRight.mem_allowed_of_reads reads declared enumerated written
    · exact allowsLeft.mem_allowed_of_reads reads declared enumerated written

theorem mem_allowed_of_run_plan
    {dialect : Dialect}
    {operator : Operator}
    {value : Rule}
    {name text : String}
    {field : Field}
    (ended : (operator.plan dialect ⟨some schema, .row⟩ call).run answer = .ok expression)
    (confronts : Confronts operator call.operands name value)
    (declared : schema.field? name = some field)
    (enumerated : field.type = .enum)
    (written : value.literalText? = some text) :
    text ∈ field.allowed := by
  generalize same : call.operands = operands at confronts
  cases confronts with
  | right equality reads =>
      cases operator with
      | equal | strictEqual | notEqual | strictNotEqual =>
          exact mem_allowed_of_run_equality ended same (.inl ⟨rfl, rfl⟩) reads declared
            enumerated written
      | _ => simp [Operator.isEquality] at equality
  | left equality reads =>
      cases operator with
      | equal | strictEqual | notEqual | strictNotEqual =>
          exact mem_allowed_of_run_equality ended same (.inr ⟨rfl, rfl⟩) reads declared
            enumerated written
      | _ => simp [Operator.isEquality] at equality
  | @item needle _ items _ reads member =>
      obtain ⟨_, _, arguments, outcome⟩ := Arrays.of_run_membership ended
      obtain ⟨rfl, rfl⟩ : _ = needle ∧ _ = Rule.list items := by
        simpa [Call.operands, Rule.operands, arguments] using same
      rcases outcome with ⟨_, listed, searched⟩ | ⟨unlisted, _⟩
      · obtain rfl := Rule.list.inj listed
        rcases Arrays.of_run_membershipIn searched with ⟨rfl, _⟩ | ⟨_, allows, _⟩
        · simp at member
        · exact (allows value member).mem_allowed_of_reads reads declared enumerated written
      · exact absurd rfl (unlisted items)
  | default =>
      rcases Reference.of_run_var ended with
        ⟨_, operands, _⟩ | ⟨_, _, _, _, operands, _, _, allows, _⟩
      · simp [operands] at same
      · obtain ⟨rfl, rfl⟩ : _ = Rule.string name ∧ _ = value := by simpa [operands] using same
        have type : Reference.defaultType? ⟨some schema, .row⟩ (.string name) = some .enum := by
          simp [Reference.defaultType?, Schema.type?, declared, enumerated]
        exact (allows name rfl type).mem_allowed declared enumerated written

/-- An operator whose plan ends with an expression respects the schema. -/
theorem Schema.Respects.of_run_plan
    {dialect : Dialect}
    {operator : Operator}
    (ended : (operator.plan dialect ⟨some schema, .row⟩ call).run answer = .ok expression) :
    schema.Respects operator call.operands where
  known _ member := knows_of_run_plan ended member
  typed _ _ _ _ found reads declared := acceptsField_of_run_plan ended found reads declared
  allowed _ _ _ _ confronts declared enumerated written :=
    mem_allowed_of_run_plan ended confronts declared enumerated written

end

/-- Outside of iterations, all rules in a rule that compiles for a row are accepted for a row. -/
theorem Accepted.of_occurs_outsideBodies
    {context : Context (Except Error)}
    {rule node : Rule}
    {trail : List (Rule × Nat)}
    {position : Position}
    {hint : Option FieldType}
    {expression : Sql}
    (compiled : compileAt context rule position .row hint = .ok expression)
    (unfolded : ∀ inner, rule.Contains inner → ¬ inner.IsFolded)
    (occurs : rule.Occurs trail node)
    (outside : Rule.OutsideBodies trail) :
    Accepted context .row node := by
  induction occurs with
  | here => exact .of_compileAt compiled
  | @inside trail parent child index outer found inductionHypothesis =>
      have accepted := inductionHypothesis fun step member =>
        outside step (List.mem_cons_of_mem _ member)
      cases accepted with
      | literal plain =>
          cases parent with
          | list | operation => simp [Rule.isLiteral] at plain
          | null | bool | number | string => simp [Rule.children] at found
      | list each => exact each child (List.mem_of_getElem? found)
      | operation compiled =>
          rcases Accepted.operand_of_compileAt compiled (unfolded _ ⟨_, outer⟩) found with
            accepted | ⟨leaves, _⟩
          · exact accepted
          · exact absurd leaves (outside _ List.mem_cons_self)

/--
When a rule without folded operations gives a condition, every built-in operation
in it that lies outside of iterations respects the schema.
-/
theorem respects_of_condition
    (target : Target)
    (schema : Schema)
    (declared : target.schema = some schema)
    (rule : Rule)
    (text : String)
    (compiled : target.condition (.rule rule) = .ok text)
    (unfolded : ∀ inner, rule.Contains inner → ¬ inner.IsFolded)
    (trail : List (Rule × Nat))
    (operator : Operator)
    (arguments : Rule)
    (occurs : rule.Occurs trail (.operation operator.name arguments))
    (outside : Rule.OutsideBodies trail) :
    schema.Respects operator arguments.operands := by
  obtain ⟨_, _, expression, _, compiled, _⟩ := Target.exists_compileAt_of_condition compiled
  have accepted := Accepted.of_occurs_outsideBodies compiled unfolded occurs outside
  cases accepted with
  | literal plain => simp [Rule.isLiteral] at plain
  | operation compiled =>
      rcases of_compileAt_operation compiled with
        ⟨_, _, registered, _⟩ | ⟨builtin, _, named, ended⟩
      · simp at registered
      · obtain rfl : operator = builtin := by
          have same := congrArg Operator.ofName? named
          simpa using same
        have schemaOf : target.context.schema = some schema := declared
        rw [schemaOf] at ended
        exact .of_run_plan ended

/-- Fields of an account. -/
def accountSchema : Schema :=
  (Schema.ofFields
    [⟨"status", .enum, ["active", "closed"]⟩, ⟨"tags", .array, []⟩]).toOption.getD
      .empty

/-- An active account with a tag of a certain kind. -/
def taggedAccount : Rule :=
  .operation "and" (.list
    [.operation "==" (.list [.operation "var" (.string "status"), .string "active"]),
     .operation "some" (.list
       [.operation "var" (.string "tags"),
        .operation "==" (.list [.operation "var" (.string ""), .string "new"])])])

theorem respects_taggedAccount :
    ((Target.ofDialect .clickHouse).withSchema accountSchema).condition (.rule taggedAccount) =
      .ok "(status = 'active' AND arrayExists(elem -> elem = 'new', tags))" ∧
    accountSchema.Respects .equal [.operation "var" (.string "status"), .string "active"] := by
  have compiled : ((Target.ofDialect .clickHouse).withSchema accountSchema).condition
      (.rule taggedAccount) =
        .ok "(status = 'active' AND arrayExists(elem -> elem = 'new', tags))" := rfl
  have unfolded : ∀ inner, taggedAccount.Contains inner → ¬ inner.IsFolded := by
    intro inner contained
    simp only [taggedAccount, Rule.Contains.operation_iff, Rule.operands, List.mem_cons,
      List.not_mem_nil, or_false, exists_eq_or_imp, exists_eq_left,
      Rule.Contains.string_iff] at contained
    rcases contained with rfl | (rfl | (rfl | rfl) | rfl) |
      rfl | (rfl | rfl) | rfl | (rfl | rfl) | rfl <;>
      simp [Rule.IsFolded, Operator.name, Rule.operands]
  have outside : Rule.OutsideBodies [(taggedAccount, 0)] := by
    rintro step member ⟨second, _⟩
    obtain rfl := List.mem_singleton.mp member
    contradiction
  exact ⟨compiled, respects_of_condition _ accountSchema rfl _ _ compiled unfolded _ .equal
    (.list [.operation "var" (.string "status"), .string "active"]) (.inside .here rfl) outside⟩

end RuleClause
