import RuleClause.Compile
import RuleClause.Proofs.Plan.Success
import RuleClause.Proofs.Rule.Occurrence

/-!
# Operations that compile

An operation compiles when it is not too deep and its operator, custom or built-in,
ends with an expression.  The requests of a built-in operator are met by compiling
the operands and their parts; this module says which rule stands behind a request.
-/

namespace RuleClause

/-- The position of an operand of the operation that stands at a position. -/
def Position.operand
    (position : Position)
    (operator : String)
    (arguments : Rule)
    (index : Nat) : Position :=
  match arguments with
  | .list _ => position.argument operator (some index)
  | _ => position.argument operator none

theorem Position.operand_depth
    (position : Position)
    (operator : String)
    (arguments : Rule)
    (index : Nat) :
    (position.operand operator arguments index).depth = position.depth + 1 := by
  cases arguments <;> rfl

/-- The compilers of the operands of an operation. -/
def operandsAt
    {m : Type → Type} [Monad m] [MonadExceptOf Error m] [MonadOverflow m]
    (context : Context m)
    (operator : String)
    (arguments : Rule)
    (position : Position) : List (OperandCompiler m) :=
  match arguments with
  | .list items =>
      operandCompilers context items (position.operationPath operator) (position.depth + 1) 0
  | argument =>
      [{ whole := compileAt context argument (position.argument operator none)
         parts := partCompilers context argument (position.argument operator none) }]

section

variable
  {m : Type → Type}
  [Monad m] [MonadExceptOf Error m] [MonadOverflow m]
  {context : Context m}

theorem compileAt_operation
    (operator : String)
    (arguments : Rule)
    (position : Position)
    (scope : Scope)
    (hint : Option FieldType) :
    compileAt context (.operation operator arguments) position scope hint =
      context.operation operator arguments position scope
        (operandsAt context operator arguments position) := by
  cases arguments <;> rfl

/-! ## Operands and their parts -/

theorem itemCompilers_getElem?
    (items : List Rule)
    (path : Path)
    (depth start index : Nat) :
    (itemCompilers context items path depth start)[index]? =
      items[index]?.map fun item => compileAt context item ⟨path, some (start + index), depth⟩ := by
  induction items generalizing start index with
  | nil => simp [itemCompilers]
  | cons item rest inductionHypothesis =>
      cases index with
      | zero => simp [itemCompilers]
      | succ index =>
          simp only [itemCompilers, List.getElem?_cons_succ, inductionHypothesis]
          rw [show start + 1 + index = start + (index + 1) by omega]

theorem operandCompilers_getElem?
    (operands : List Rule)
    (path : Path)
    (depth start index : Nat) :
    (operandCompilers context operands path depth start)[index]? =
      operands[index]?.map fun operand =>
        { whole := compileAt context operand ⟨path, some (start + index), depth⟩
          parts := partCompilers context operand ⟨path, some (start + index), depth⟩ } := by
  induction operands generalizing start index with
  | nil => simp [operandCompilers]
  | cons operand rest inductionHypothesis =>
      cases index with
      | zero => simp [operandCompilers]
      | succ index =>
          simp only [operandCompilers, List.getElem?_cons_succ, inductionHypothesis]
          rw [show start + 1 + index = start + (index + 1) by omega]

theorem operandsAt_getElem?
    (context : Context m)
    (operator : String)
    (arguments : Rule)
    (position : Position)
    (index : Nat) :
    (operandsAt context operator arguments position)[index]? =
      arguments.operands[index]?.map fun operand =>
        { whole := compileAt context operand (position.operand operator arguments index)
          parts := partCompilers context operand (position.operand operator arguments index) } := by
  cases arguments with
  | list items =>
      simp [operandsAt, Rule.operands, operandCompilers_getElem?, Position.operand,
        Position.argument]
  | null | bool | number | string | operation =>
      cases index with
      | zero => simp [operandsAt, Rule.operands, Position.operand]
      | succ index => simp [operandsAt, Rule.operands]

/-- The rules whose compilers are the parts of an operand. -/
def Rule.parts : Rule → List Rule
  | .list items => items
  | .operation _ (.list items) => items
  | _ => []

/-- The position of a part of an operand that stands at a position. -/
def Position.part (position : Position) (operand : Rule) (index : Nat) : Position :=
  match operand with
  | .operation operator _ => position.argument operator (some index)
  | _ => ⟨position.valuePath, some index, position.depth + 1⟩

theorem partCompilers_getElem?
    (context : Context m)
    (rule : Rule)
    (position : Position)
    (index : Nat) :
    (partCompilers context rule position)[index]? =
      rule.parts[index]?.map fun part => compileAt context part (position.part rule index) := by
  cases rule with
  | list items => simp [partCompilers, Rule.parts, itemCompilers_getElem?, Position.part]
  | operation operator arguments =>
      cases arguments with
      | list items =>
          simp [partCompilers, Rule.parts, itemCompilers_getElem?, Position.part,
            Position.argument]
      | null | bool | number | string | operation => simp [partCompilers, Rule.parts]
  | null | bool | number | string => simp [partCompilers, Rule.parts]

/-- The rule that a selection picks from an operation at a position, and where it stands. -/
def Selection.pick?
    (operator : String)
    (arguments : Rule)
    (position : Position) : Selection → Option (Rule × Position)
  | .operand index =>
      arguments.operands[index]?.map fun operand =>
        (operand, position.operand operator arguments index)
  | .part index inner =>
      arguments.operands[index]?.bind fun operand =>
        operand.parts[inner]?.map fun part =>
          (part, (position.operand operator arguments index).part operand inner)

/-- A request is met by compiling what it selects, and with null if that is nothing. -/
theorem answer_operandsAt
    (context : Context m)
    (operator : String)
    (arguments : Rule)
    (position : Position)
    (request : Request) :
    OperandCompiler.answer (operandsAt context operator arguments position) request =
      match request.selection.pick? operator arguments position with
      | some (rule, place) => compileAt context rule place request.scope request.hint
      | none => pure .null := by
  obtain ⟨selection, scope, hint⟩ := request
  cases selection with
  | operand index =>
      cases found : arguments.operands[index]? <;>
        simp [OperandCompiler.answer, OperandCompiler.select, operandsAt_getElem?,
          Selection.pick?, found]
  | part index inner =>
      cases found : arguments.operands[index]? with
      | none =>
          simp [OperandCompiler.answer, OperandCompiler.select, operandsAt_getElem?,
            Selection.pick?, found]
      | some operand =>
          cases foundPart : operand.parts[inner]? <;>
            simp [OperandCompiler.answer, OperandCompiler.select, operandsAt_getElem?,
              Selection.pick?, partCompilers_getElem?, found, foundPart]

end

variable {context : Context (Except Error)}

theorem Rule.mem_children_of_mem_parts
    {rule part : Rule}
    (member : part ∈ rule.parts) :
    part ∈ rule.children := by
  unfold parts at member
  split at member
  · exact member
  · exact member
  · simp at member

namespace Selection

variable
  {selection : Selection}
  {operator : String}
  {arguments rule : Rule}
  {position place : Position}

/-- What a selection picks is an operand or directly inside of one. -/
theorem of_pick? (picked : selection.pick? operator arguments position = some (rule, place)) :
    ∃ operand ∈ arguments.operands, rule = operand ∨ rule ∈ operand.children := by
  cases selection with
  | operand index =>
      obtain ⟨operand, found, same⟩ := Option.map_eq_some_iff.mp picked
      obtain ⟨rfl, _⟩ := Prod.mk.inj same
      exact ⟨operand, List.mem_of_getElem? found, .inl rfl⟩
  | part index inner =>
      obtain ⟨operand, found, picked⟩ := Option.bind_eq_some_iff.mp picked
      obtain ⟨part, foundPart, same⟩ := Option.map_eq_some_iff.mp picked
      obtain ⟨rfl, _⟩ := Prod.mk.inj same
      have member := Rule.mem_children_of_mem_parts (List.mem_of_getElem? foundPart)
      exact ⟨operand, List.mem_of_getElem? found, .inr member⟩

theorem contains_of_pick?
    (picked : selection.pick? operator arguments position = some (rule, place)) :
    (Rule.operation operator arguments).Contains rule := by
  obtain ⟨operand, member, selected⟩ := of_pick? picked
  have outer : (Rule.operation operator arguments).Contains operand := .of_mem_children member
  rcases selected with rfl | nested
  · exact outer
  · exact outer.trans (.of_mem_children nested)

theorem sizeOf_lt_of_pick?
    (picked : selection.pick? operator arguments position = some (rule, place)) :
    sizeOf rule < sizeOf (Rule.operation operator arguments) := by
  obtain ⟨operand, member, selected⟩ := of_pick? picked
  have smaller : sizeOf operand < sizeOf (Rule.operation operator arguments) :=
    Rule.sizeOf_child_lt member
  rcases selected with rfl | nested
  · exact smaller
  · exact Nat.lt_trans (Rule.sizeOf_child_lt nested) smaller

end Selection

/-- The answer to a request for an operand is what the operand compiles to. -/
theorem answer_operand
    {operator : String}
    {arguments operand : Rule}
    {position : Position}
    {index : Nat}
    (found : arguments.operands[index]? = some operand)
    (scope : Scope)
    (hint : Option FieldType) :
    OperandCompiler.answer (operandsAt context operator arguments position)
        ⟨.operand index, scope, hint⟩ =
      compileAt context operand (position.operand operator arguments index) scope hint := by
  simp [answer_operandsAt, Selection.pick?, found]

/-- The answer to a request for a part of an operand is what the part compiles to. -/
theorem exists_answer_part
    (context : Context (Except Error))
    (operator : String)
    (position : Position)
    {arguments operand part : Rule}
    {index inner : Nat}
    (found : arguments.operands[index]? = some operand)
    (foundPart : operand.parts[inner]? = some part)
    (scope : Scope)
    (hint : Option FieldType) :
    ∃ place : Position,
      OperandCompiler.answer (operandsAt context operator arguments position)
          ⟨.part index inner, scope, hint⟩ =
        compileAt context part place scope hint := by
  refine ⟨(position.operand operator arguments index).part operand inner, ?_⟩
  simp [answer_operandsAt, Selection.pick?, found, foundPart]

/-- Behind every answer stands what the request selects, unless that is nothing. -/
theorem of_answer_eq_ok
    {operator : String}
    {arguments : Rule}
    {position : Position}
    {request : Request}
    {expression : Sql}
    (answered :
      OperandCompiler.answer (operandsAt context operator arguments position) request =
        .ok expression) :
    expression = .null ∨ ∃ rule place,
      request.selection.pick? operator arguments position = some (rule, place) ∧
        compileAt context rule place request.scope request.hint = .ok expression := by
  rw [answer_operandsAt] at answered
  cases picked : request.selection.pick? operator arguments position with
  | none =>
      simp only [picked] at answered
      exact .inl (Except.ok.inj answered).symm
  | some target =>
      obtain ⟨rule, place⟩ := target
      simp only [picked] at answered
      exact .inr ⟨rule, place, rfl, answered⟩

/-! ## Lists, operations and operators -/

theorem compileEach_eq_ok_iff
    (scope : Scope)
    (hint : Option FieldType)
    (compilers : List (Compiler (Except Error)))
    (expressions : List Sql) :
    compileEach scope hint compilers = .ok expressions ↔
      List.Forall₂ (fun compiler expression => compiler scope hint = .ok expression)
        compilers expressions := by
  induction compilers generalizing expressions with
  | nil => cases expressions <;> simp [compileEach, pure, Except.pure]
  | cons compiler rest inductionHypothesis =>
      cases first : compiler scope hint with
      | error error => cases expressions <;> simp [compileEach, first, bind, Except.bind]
      | ok expression =>
          cases remaining : compileEach scope hint rest with
          | error error =>
              cases expressions <;>
                simp [compileEach, first, remaining, ← inductionHypothesis, bind, Except.bind]
          | ok others =>
              cases expressions <;>
                simp [compileEach, first, remaining, ← inductionHypothesis, bind, Except.bind,
                  pure, Except.pure]

theorem forall₂_of_itemCompilers
    {items : List Rule}
    {path : Path}
    {depth start : Nat}
    {scope : Scope}
    {hint : Option FieldType}
    {expressions : List Sql}
    (each : List.Forall₂ (fun compiler expression => compiler scope hint = .ok expression)
      (itemCompilers context items path depth start) expressions) :
    List.Forall₂
      (fun item inner => ∃ place, compileAt context item place scope hint = .ok inner)
      items expressions := by
  induction items generalizing start expressions with
  | nil => simpa [itemCompilers] using each
  | cons item rest inductionHypothesis =>
      cases each with
      | cons compiled others => exact .cons ⟨_, compiled⟩ (inductionHypothesis others)

/-- A list compiles to the array of what its items compile to. -/
theorem of_compileAt_list
    {items : List Rule}
    {position : Position}
    {scope : Scope}
    {hint : Option FieldType}
    {expression : Sql}
    (compiled : compileAt context (.list items) position scope hint = .ok expression) :
    ∃ expressions, expression = .array expressions ∧
      List.Forall₂
        (fun item inner => ∃ place, compileAt context item place scope hint = .ok inner)
        items expressions := by
  simp only [compileAt] at compiled
  cases each : compileEach scope hint
      (itemCompilers context items position.valuePath (position.depth + 1) 0) with
  | error error => simp [each, bind, Except.bind] at compiled
  | ok expressions =>
      refine ⟨expressions, ?_, ?_⟩
      · simpa [each, bind, Except.bind, pure, Except.pure] using compiled.symm
      · exact forall₂_of_itemCompilers ((compileEach_eq_ok_iff _ _ _ _).mp each)

namespace Context

/-- Where computations go on after an overflow, taking a sum does nothing. -/
theorem count_eq_pure
    {m : Type → Type} [Monad m] [MonadOverflow m]
    (goesOn : (MonadOverflow.overflow : m Unit) = pure ())
    (context : Context m)
    (operator : Operator)
    (call : Call)
    (scope : Scope) :
    context.count operator call scope = pure () := by
  rw [count, goesOn, ite_self]

theorem operation_eq
    (operator : String)
    (arguments : Rule)
    (position : Position)
    (scope : Scope)
    (operands : List (OperandCompiler (Except Error))) :
    context.operation operator arguments position scope operands =
      if context.maxDepth < position.depth then
        .error ((Error.ofFault (.tooDeep context.maxDepth)).foundAt
          (position.operationPath operator))
      else
        (context.apply ⟨operator, arguments, position.operationPath operator⟩ scope
          operands).mapError (·.completedBy operator (position.operationPath operator)) := by
  simp only [operation]
  split
  · rfl
  · cases context.apply ⟨operator, arguments, position.operationPath operator⟩ scope operands <;>
      rfl

theorem operation_eq_ok_iff
    (operator : String)
    (arguments : Rule)
    (position : Position)
    (scope : Scope)
    (operands : List (OperandCompiler (Except Error)))
    (expression : Sql) :
    context.operation operator arguments position scope operands = .ok expression ↔
      position.depth ≤ context.maxDepth ∧
        context.apply ⟨operator, arguments, position.operationPath operator⟩ scope operands =
          .ok expression := by
  rw [operation_eq]
  split
  · simp only [reduceCtorEq, false_iff, not_and]
    omega
  · cases context.apply ⟨operator, arguments, position.operationPath operator⟩ scope operands with
    | ok inner =>
        simp only [Except.mapError, Except.ok.injEq, iff_and_self]
        omega
    | error error => simp [Except.mapError]

/-- A custom operator gives a fragment once all operands are compiled. -/
theorem of_callCustom
    {call : Call}
    {handler : List String → Except Error (Except String String)}
    {scope : Scope}
    {operands : List (OperandCompiler (Except Error))}
    {expression : Sql}
    (called : context.callCustom call handler scope operands = .ok expression) :
    (∃ text, expression = .fragment text) ∧ ∃ arguments,
      List.Forall₂ (fun operand argument => operand.whole scope none = .ok argument)
        operands arguments := by
  simp only [callCustom] at called
  cases each : compileEach scope none (operands.map (·.whole)) with
  | error error => simp [each, bind, Except.bind] at called
  | ok arguments =>
      have compiled := (compileEach_eq_ok_iff _ _ _ _).mp each
      rw [List.forall₂_map_left_iff] at compiled
      refine ⟨?_, arguments, compiled⟩
      cases replied : handler (Sql.renderAll context.dialect arguments) with
      | error error => simp [each, replied, bind, Except.bind] at called
      | ok reply =>
          cases reply with
          | ok text =>
              refine ⟨text, ?_⟩
              simpa [each, replied, bind, Except.bind, pure, Except.pure] using called.symm
          | error cause =>
              simp [each, replied, bind, Except.bind, throw, throwThe, MonadExceptOf.throw]
                at called

/-- A built-in operator is applied by running its plan, whatever sums it takes. -/
theorem apply_eq
    (call : Call)
    (scope : Scope)
    (operands : List (OperandCompiler (Except Error))) :
    context.apply call scope operands =
      match context.custom call.operator with
      | some handler => context.callCustom call handler scope operands
      | none =>
          match Operator.ofName? call.operator with
          | some operator =>
              (operator.plan context.dialect ⟨context.schema, scope⟩ call).run
                (OperandCompiler.answer operands)
          | none => .error (call.error (.unsupportedOperator call.operator)) := by
  unfold apply
  cases context.custom call.operator with
  | some handler => rfl
  | none =>
      cases Operator.ofName? call.operator with
      | some operator =>
          change (context.count operator call scope >>= fun _ => _) = _
          rw [count_eq_pure rfl]
          rfl
      | none => rfl

/-- An operator that ends with an expression is custom or built-in. -/
theorem of_apply
    {call : Call}
    {scope : Scope}
    {operands : List (OperandCompiler (Except Error))}
    {expression : Sql}
    (applied : context.apply call scope operands = .ok expression) :
    (∃ handler, context.custom call.operator = some handler ∧
      context.callCustom call handler scope operands = .ok expression) ∨
      ∃ operator : Operator, context.custom call.operator = none ∧ call.operator = operator.name ∧
        (operator.plan context.dialect ⟨context.schema, scope⟩ call).run
          (OperandCompiler.answer operands) = .ok expression := by
  rw [apply_eq] at applied
  split at applied
  · rename_i handler registered
    exact .inl ⟨handler, registered, applied⟩
  · rename_i unregistered
    split at applied
    · rename_i operator named
      have name := (Operator.ofName?_eq_some_iff call.operator operator).mp named
      exact .inr ⟨operator, unregistered, name.symm, applied⟩
    · simp at applied

end Context

/-- An operation that compiles has a custom operator, or the plan of a built-in one ends well. -/
theorem of_compileAt_operation
    {operator : String}
    {arguments : Rule}
    {position : Position}
    {scope : Scope}
    {hint : Option FieldType}
    {expression : Sql}
    (compiled :
      compileAt context (.operation operator arguments) position scope hint = .ok expression) :
    (∃ handler text, context.custom operator = some handler ∧ expression = .fragment text ∧
      ∀ operand ∈ arguments.operands, ∃ place inner,
        compileAt context operand place scope none = .ok inner) ∨
      ∃ builtin : Operator, context.custom operator = none ∧ operator = builtin.name ∧
        (builtin.plan context.dialect ⟨context.schema, scope⟩
          ⟨operator, arguments, position.operationPath operator⟩).run
          (OperandCompiler.answer (operandsAt context operator arguments position)) =
            .ok expression := by
  rw [compileAt_operation, Context.operation_eq_ok_iff] at compiled
  rcases Context.of_apply compiled.2 with ⟨handler, registered, called⟩ | builtin
  · obtain ⟨⟨text, written⟩, inners, each⟩ := Context.of_callCustom called
    refine .inl ⟨handler, text, registered, written, ?_⟩
    intro operand member
    obtain ⟨index, found⟩ := List.mem_iff_getElem?.mp member
    have compiler := operandsAt_getElem? context operator arguments position index
    rw [found, Option.map_some] at compiler
    obtain ⟨inner, _, compiled⟩ := each.exists_of_mem_left (List.mem_of_getElem? compiler)
    exact ⟨_, inner, compiled⟩
  · exact .inr builtin

/-- A built-in operation that is not too deep ends the way the plan of its operator does. -/
theorem compileAt_operator_eq
    {operator : Operator}
    (builtin : context.custom operator.name = none)
    (arguments : Rule)
    {position : Position}
    (bound : position.depth ≤ context.maxDepth)
    (scope : Scope)
    (hint : Option FieldType) :
    compileAt context (.operation operator.name arguments) position scope hint =
      ((operator.plan context.dialect ⟨context.schema, scope⟩
        ⟨operator.name, arguments, position.operationPath operator.name⟩).run
        (OperandCompiler.answer (operandsAt context operator.name arguments position))).mapError
          (·.completedBy operator.name (position.operationPath operator.name)) := by
  rw [compileAt_operation, Context.operation_eq, if_neg (by omega), Context.apply_eq]
  simp only [builtin, Operator.ofName?_name]

/-- A built-in operation compiles if it is not too deep and the plan of its operator ends well. -/
theorem compileAt_operator_eq_ok_iff
    {operator : Operator}
    (builtin : context.custom operator.name = none)
    (arguments : Rule)
    (position : Position)
    (scope : Scope)
    (hint : Option FieldType)
    (expression : Sql) :
    compileAt context (.operation operator.name arguments) position scope hint = .ok expression ↔
      position.depth ≤ context.maxDepth ∧
        (operator.plan context.dialect ⟨context.schema, scope⟩
          ⟨operator.name, arguments, position.operationPath operator.name⟩).run
          (OperandCompiler.answer (operandsAt context operator.name arguments position)) =
            .ok expression := by
  rw [compileAt_operation, Context.operation_eq_ok_iff, Context.apply_eq]
  simp only [builtin, Operator.ofName?_name]

end RuleClause
