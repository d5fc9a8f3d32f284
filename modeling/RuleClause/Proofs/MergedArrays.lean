import RuleClause.Proofs.Fragment.Term
import RuleClause.Proofs.Numeral.FloatText
import RuleClause.Proofs.Reading.ArrayText

/-!
# What a merge stands for

A merge joins what its operands contribute: a literal contributes itself, a list its items, a
variable the array in its column, and a merge what its own operands contribute.  Where no operand
is an operation, the items are written as one array; otherwise each operand is written as an array,
and the dialect joins them.  The text stands for the same array either way.
-/

namespace RuleClause

open ArrayText (Denotes IsItem Row Scalar evaluate)
open Fragment (Identifier Writing)

/-- A list of literals holds no operation. -/
theorem Rule.Fits.of_literals
    {items : List Rule}
    (literals : ∀ item ∈ items, item.isLiteral = true)
    {depth limit : Nat} :
    (Rule.list items).Fits depth limit := by
  intro trail operator arguments occurs
  rcases occurs.eq_or_child with ⟨_, same⟩ | ⟨child, member, inner, reached, _⟩
  · simp at same
  · have deep : child.Fits (limit + 1) limit := .of_isLiteral (literals child member)
    have bound := deep inner operator arguments reached
    omega

/-- The value of a literal as an item of an array. -/
def Rule.scalar? : Rule → Option Scalar
  | .null => some .null
  | .bool value => some (.bool value)
  | .number value => some (.number value.canonicalText)
  | .string value => some (.string value)
  | .list _ | .operation .. => none

namespace Arrays

/-! ## Contributions -/

mutual

/-- The items that a rule contributes to a merge. -/
def contribution (row : Row) : Rule → List Scalar
  | .list items => items.filterMap Rule.scalar?
  | .operation operator (.list operands) =>
      if operator = Operator.merge.name then contributions row operands
      else (Rule.operation operator (.list operands)).variableName?.elim [] row
  | .operation operator operand =>
      if operator = Operator.merge.name then contribution row operand
      else (Rule.operation operator operand).variableName?.elim [] row
  | literal => literal.scalar?.toList

/-- The items that rules contribute, one rule after the other. -/
def contributions (row : Row) : List Rule → List Scalar
  | [] => []
  | first :: rest => contribution row first ++ contributions row rest

end

theorem contributions_eq_flatMap (row : Row) (rules : List Rule) :
    contributions row rules = rules.flatMap (contribution row) := by
  induction rules with
  | nil => rfl
  | cons first rest inductionHypothesis => simp [contributions, inductionHypothesis]

/-- A merge contributes what its operands do. -/
theorem contribution_merge (row : Row) (arguments : Rule) :
    contribution row (.operation Operator.merge.name arguments) =
      arguments.operands.flatMap (contribution row) := by
  cases arguments <;> simp [contribution, contributions_eq_flatMap, Rule.operands]

theorem contribution_literal (row : Row) {rule : Rule} (literal : rule.isLiteral = true) :
    contribution row rule = rule.scalar?.toList := by
  cases rule <;> simp_all [contribution, Rule.isLiteral]

theorem contribution_field (row : Row) (name : String) (writing : Writing) :
    contribution row (.operation Operator.var.name (writing.arguments [.string name])) =
      row name := by
  cases writing <;> rfl

/--
Rules whose contribution is known: literals, lists of literals, variables with a plain name, and
merges of such rules.
-/
inductive Mergeable : Rule → Prop
  | literal {rule : Rule} (literal : rule.isLiteral = true) : Mergeable rule
  | list {items : List Rule} (literals : ∀ item ∈ items, item.isLiteral = true) :
      Mergeable (.list items)
  | field (name : Identifier) (writing : Writing) :
      Mergeable (.operation Operator.var.name (writing.arguments [.string name.val]))
  | merge {arguments : Rule} (operands : ∀ operand ∈ arguments.operands, Mergeable operand) :
      Mergeable (.operation Operator.merge.name arguments)

/-! ## Literals -/

/-- A number is one item of an array. -/
theorem isItem_canonicalText (dialect : Dialect) (number : Number) :
    IsItem dialect number.canonicalText (.number number.canonicalText) := by
  obtain ⟨spelling, spelled, written⟩ := number.exists_spelling_canonicalText
  have each : ∀ character ∈ number.canonicalText.toList,
      character.isDigit = true ∨ character ∈ Text.numberMarks := by
    intro character member
    rw [written, String.toList_ofList] at member
    exact spelled.digit_or_mark member
  obtain ⟨digit, others, digits⟩ := List.exists_cons_of_ne_nil spelled.filled
  have first : digit ∈ spelling.digits := by simp [digits]
  have present : digit ∈ number.canonicalText.toList := by
    rw [written, String.toList_ofList]
    exact Text.Spelling.mem_chars_of_mem_digits first
  refine ⟨.word number.canonicalText, .word ?_, ArrayText.Token.item?_of_isNumber ?_⟩
  · have marks : Text.numberMarks.all ArrayText.isWordPart = true := by decide
    refine (ArrayText.isWord_iff _).mpr ⟨List.ne_nil_of_mem present, ?_⟩
    intro character member
    rcases each character member with digit | mark
    · simp [ArrayText.isWordPart, Reading.isWordCharacter_of_isDigit digit]
    · exact List.all_eq_true.mp marks character mark
  · rw [ArrayText.isNumber, Bool.and_eq_true, List.any_eq_true, List.all_eq_true]
    refine ⟨⟨digit, present, spelled.digits digit first⟩, ?_⟩
    simpa using each

/-- An expression is written as the value of a literal. -/
def Writes (dialect : Dialect) (rule : Rule) (sql : Sql) : Prop :=
  ∃ item, rule.scalar? = some item ∧ IsItem dialect (sql.render dialect) item

/-- A literal that meets no field is written as its value. -/
theorem exists_compileAt_literal
    (context : Context (Except Error))
    {rule : Rule}
    (literal : rule.isLiteral = true)
    (position : Position)
    (scope : Scope) :
    ∃ sql, compileAt context rule position scope none = .ok sql ∧
      Writes context.dialect rule sql := by
  have keyword (text : String) {item : Scalar} (word : ArrayText.isWord text = true)
      (stands : (ArrayText.Token.word text).item? = some item) : IsItem context.dialect text item :=
    ⟨.word text, .word word, stands⟩
  cases rule with
  | null => exact ⟨.null, rfl, .null, rfl, keyword "NULL" (by decide) rfl⟩
  | bool value =>
      have word : ArrayText.isWord (Sql.truthText value) = true := by cases value <;> decide
      exact ⟨.bool value, rfl, .bool value, rfl, keyword _ word (by cases value <;> rfl)⟩
  | number value => exact ⟨_, rfl, _, rfl, isItem_canonicalText context.dialect value⟩
  | string value => exact ⟨_, rfl, _, rfl, .literal value, .quote context.dialect value, rfl⟩
  | list | operation => simp [Rule.isLiteral] at literal

/-- Expressions that are written as literals are the items of an array. -/
theorem forall₂_isItem
    {dialect : Dialect}
    {rules : List Rule}
    {sqls : List Sql}
    (write : List.Forall₂ (Writes dialect) rules sqls) :
    List.Forall₂ (IsItem dialect) (Sql.renderAll dialect sqls) (rules.filterMap Rule.scalar?) := by
  induction write with
  | nil => exact .nil
  | cons head _ inductionHypothesis =>
      obtain ⟨item, value, isItem⟩ := head
      rw [List.filterMap_cons_some value, Sql.renderAll]
      exact .cons isItem inductionHypothesis

/-! ## Operands -/

/-- An expression is written as a literal, or as the array that a rule contributes. -/
inductive Suits (dialect : Dialect) (rule : Rule) (sql : Sql) : Prop
  | item (literal : rule.isLiteral = true) (writes : Writes dialect rule sql)
  | array
      (compound : rule.isLiteral = false)
      (denotes : ∀ row, Denotes dialect row (sql.render dialect) (contribution row rule))

/-- As an operand of a join, a literal is an array of one item. -/
theorem Suits.denotes
    {dialect : Dialect}
    {rule : Rule}
    {sql : Sql}
    (suits : Suits dialect rule sql)
    (row : Row) :
    Denotes dialect row ((if rule.isLiteral then .array [sql] else sql).render dialect)
      (contribution row rule) := by
  cases suits with
  | item literal writes =>
      obtain ⟨item, value, isItem⟩ := writes
      rw [if_pos literal, contribution_literal row literal, value]
      exact .arrayLiteral (.cons isItem .nil)
  | array compound denotes =>
      rw [if_neg (by simp [compound])]
      exact denotes row

/-- Each operand, with its number counted from an index on, is as it should be. -/
def EachFrom (good : Nat → Rule → Prop) : Nat → List Rule → Prop
  | _, [] => True
  | index, operand :: rest => good index operand ∧ EachFrom good (index + 1) rest

theorem eachFrom_of_getElem?
    {good : Nat → Rule → Prop}
    {operands : List Rule}
    {index : Nat}
    (each : ∀ offset operand, operands[offset]? = some operand → good (index + offset) operand) :
    EachFrom good index operands := by
  induction operands generalizing index with
  | nil => trivial
  | cons operand rest inductionHypothesis =>
      refine ⟨each 0 operand rfl, inductionHypothesis fun offset other found => ?_⟩
      rw [Nat.add_assoc, Nat.add_comm 1]
      exact each (offset + 1) other (by simpa using found)

/-- An operand is answered by an expression that suits it. -/
def OperandAnswered
    (answer : Request → Except Error Sql)
    (dialect : Dialect)
    (index : Nat)
    (operand : Rule) : Prop :=
  ∃ sql, answer (Setting.untyped.operandRequest none index) = .ok sql ∧ Suits dialect operand sql

variable {answer : Request → Except Error Sql} {dialect : Dialect} {call : Call}

/-- Each operand of a join becomes an array of what it contributes. -/
theorem exists_run_mergedArrays
    {operands : List Rule}
    {index : Nat}
    (each : EachFrom (OperandAnswered answer dialect) index operands) :
    ∃ arrays, (mergedArrays .untyped call index operands).run answer = .ok arrays ∧
      ∀ row, List.Forall₂ (Denotes dialect row) (Sql.renderAll dialect arrays)
        (operands.map (contribution row)) := by
  induction operands generalizing index with
  | nil => exact ⟨[], rfl, fun _ => .nil⟩
  | cons operand rest inductionHypothesis =>
      obtain ⟨⟨sql, answered, suits⟩, later⟩ := each
      obtain ⟨arrays, ended, denote⟩ := inductionHypothesis later
      refine ⟨(if operand.isLiteral then .array [sql] else sql) :: arrays, ?_, ?_⟩
      · simp only [mergedArrays, Plan.run_bind_eq_ok_iff, Setting.run_gate_eq_ok_iff,
          Setting.run_ask, Plan.run_pure]
        exact ⟨(), Setting.admits_untyped _ _, sql, answered, arrays, ended, rfl⟩
      · intro row
        exact .cons (suits.denotes row) (denote row)

/-- The items of an operand are answered: those of a list one by one, a literal as a whole. -/
def ItemsAnswered
    (answer : Request → Except Error Sql)
    (dialect : Dialect)
    (index : Nat) : Rule → Prop
  | .list items => ∃ sqls, Answered answer (Setting.untyped.partRequest index none) sqls ∧
      List.Forall₂ (Writes dialect) items sqls
  | operand => ∃ sql, answer (Setting.untyped.operandRequest none index) = .ok sql ∧
      Writes dialect operand sql

theorem ItemsAnswered.of_isLiteral
    {operand : Rule}
    (literal : operand.isLiteral = true)
    {index : Nat}
    {sql : Sql}
    (answered : answer (Setting.untyped.operandRequest none index) = .ok sql)
    (writes : Writes dialect operand sql) :
    ItemsAnswered answer dialect index operand := by
  cases operand with
  | null | bool | number | string => exact ⟨sql, answered, writes⟩
  | list | operation => simp [Rule.isLiteral] at literal

/-- The items of an operand are asked for as they are answered. -/
theorem ItemsAnswered.exists_run
    {operand : Rule}
    {index : Nat}
    (answered : ItemsAnswered answer dialect index operand)
    (rest : List Rule) :
    ∃ sqls,
      (∀ others, (mergedItems .untyped (index + 1) rest).run answer = .ok others →
        (mergedItems .untyped index (operand :: rest)).run answer = .ok (sqls ++ others)) ∧
      ∀ row, List.Forall₂ (IsItem dialect) (Sql.renderAll dialect sqls)
        (contribution row operand) := by
  cases operand with
  | list items =>
      obtain ⟨sqls, parts, write⟩ := answered
      refine ⟨sqls, ?_, fun row => forall₂_isItem write⟩
      intro others ended
      simp only [mergedItems, Plan.run_bind_eq_ok_iff, Setting.run_askParts_eq_ok_iff,
        Plan.run_pure]
      exact ⟨sqls, ⟨write.length_eq.symm, parts⟩, others, ended, rfl⟩
  | null | bool | number | string =>
      obtain ⟨sql, asked, item, value, isItem⟩ := answered
      refine ⟨[sql], ?_, ?_⟩
      · intro others ended
        simp only [mergedItems, Plan.run_bind_eq_ok_iff, Setting.run_ask, Plan.run_pure]
        exact ⟨sql, asked, others, ended, rfl⟩
      · intro row
        rw [contribution_literal row rfl, value]
        exact .cons isItem .nil
  | operation =>
      obtain ⟨_, _, _, value, _⟩ := answered
      simp [Rule.scalar?] at value

/-- Lists and literals alone become the items that they contribute. -/
theorem exists_run_mergedItems
    {operands : List Rule}
    {index : Nat}
    (each : EachFrom (ItemsAnswered answer dialect) index operands) :
    ∃ sqls, (mergedItems .untyped index operands).run answer = .ok sqls ∧
      ∀ row, List.Forall₂ (IsItem dialect) (Sql.renderAll dialect sqls)
        (operands.flatMap (contribution row)) := by
  induction operands generalizing index with
  | nil => exact ⟨[], rfl, fun _ => .nil⟩
  | cons operand rest inductionHypothesis =>
      obtain ⟨answered, later⟩ := each
      obtain ⟨sqls, runs, items⟩ := answered.exists_run rest
      obtain ⟨others, ended, otherItems⟩ := inductionHypothesis later
      refine ⟨sqls ++ others, runs others ended, fun row => ?_⟩
      have both := List.rel_append (items row) (otherItems row)
      simpa only [Sql.renderAll_eq_map, List.map_append, List.flatMap_cons] using both

/-- Arrays that are joined, or a single one, stand for their values one after the other. -/
theorem denotes_concatenated
    {row : Row}
    {arrays : List Sql}
    {values : List (List Scalar)}
    (denote : List.Forall₂ (Denotes dialect row) (Sql.renderAll dialect arrays) values)
    (filled : arrays ≠ []) :
    Denotes dialect row ((concatenated arrays).render dialect) values.flatten := by
  unfold concatenated
  split
  · obtain ⟨value, _, denotes, none, rfl⟩ := List.forall₂_cons_left_iff.mp denote
    obtain rfl := List.forall₂_nil_left_iff.mp none
    simpa using denotes
  · refine .arrayConcat denote ?_
    rw [Sql.renderAll_eq_map]
    simpa using filled

/-! ## Rules -/

section

variable {target : Target} {arguments : Rule} {position : Position}

/-- The items of literals and lists of literals are answered by their values. -/
theorem Mergeable.itemsAnswered
    {operand : Rule}
    (mergeable : Mergeable operand)
    (plain : operand.isOperation = false)
    {operator : String}
    {index : Nat}
    (found : arguments.operands[index]? = some operand) :
    ItemsAnswered (OperandCompiler.answer (operandsAt target.context operator arguments position))
      target.dialect index operand := by
  cases mergeable with
  | literal literal =>
      obtain ⟨sql, compiled, writes⟩ := exists_compileAt_literal target.context literal
        (position.operand operator arguments index) .row
      exact .of_isLiteral literal ((answer_operand found .row none).trans compiled) writes
  | @list items literals =>
      refine exists_answered fun inner item foundItem => ?_
      obtain ⟨place, answered⟩ := exists_answer_part target.context operator position found
        (show (Rule.list items).parts[inner]? = some item from foundItem) .row none
      obtain ⟨sql, compiled, writes⟩ := exists_compileAt_literal target.context
        (literals item (List.mem_of_getElem? foundItem)) place .row
      exact ⟨sql, answered.trans compiled, writes⟩
  | field | merge => simp [Rule.isOperation] at plain

/-- With an operation among its operands, a merge compiles to a join of arrays. -/
theorem exists_compileAt_joined
    (schemaless : target.schema = none)
    (bound : position.depth ≤ target.maxDepth)
    (operation : arguments.operands.any Rule.isOperation = true)
    (each : ∀ index operand, arguments.operands[index]? = some operand → ∃ sql,
      compileAt target.context operand (position.operand Operator.merge.name arguments index)
          .row none = .ok sql ∧
        Suits target.dialect operand sql) :
    ∃ sql,
      compileAt target.context (.operation Operator.merge.name arguments) position .row none =
          .ok sql ∧
        Suits target.dialect (.operation Operator.merge.name arguments) sql := by
  have answers : EachFrom
      (OperandAnswered
        (OperandCompiler.answer (operandsAt target.context Operator.merge.name arguments position))
        target.dialect)
      0 arguments.operands := by
    refine eachFrom_of_getElem? fun index operand found => ?_
    rw [Nat.zero_add, OperandAnswered, Setting.operandRequest, answer_operand found]
    exact each index operand found
  obtain ⟨arrays, ended, denote⟩ := exists_run_mergedArrays answers
  refine ⟨concatenated arrays, Target.compileAt_of_run_plan schemaless bound ?_,
    .array rfl fun row => ?_⟩
  · simp only [Operator.plan, merge, Call.operands, operation, if_true,
      Plan.run_bind_eq_ok_iff, Plan.run_pure]
    exact ⟨arrays, ended, rfl⟩
  · rw [contribution_merge, List.flatMap_def]
    refine denotes_concatenated (denote row) ?_
    rintro rfl
    have none : arguments.operands = [] :=
      List.map_eq_nil_iff.mp (List.forall₂_nil_left_iff.mp (denote row))
    simp [none] at operation

/-- Without an operation among its operands, a merge compiles to one written array. -/
theorem exists_compileAt_written
    (schemaless : target.schema = none)
    (bound : position.depth ≤ target.maxDepth)
    (plain : arguments.operands.any Rule.isOperation = false)
    (mergeable : ∀ operand ∈ arguments.operands, Mergeable operand) :
    ∃ sql,
      compileAt target.context (.operation Operator.merge.name arguments) position .row none =
          .ok sql ∧
        Suits target.dialect (.operation Operator.merge.name arguments) sql := by
  have answers : EachFrom
      (ItemsAnswered
        (OperandCompiler.answer (operandsAt target.context Operator.merge.name arguments position))
        target.dialect)
      0 arguments.operands := by
    refine eachFrom_of_getElem? fun index operand found => ?_
    have member := List.mem_of_getElem? found
    have unlike : operand.isOperation = false := by
      simpa using List.any_eq_false.mp plain operand member
    rw [Nat.zero_add]
    exact (mergeable operand member).itemsAnswered unlike found
  obtain ⟨sqls, ended, items⟩ := exists_run_mergedItems answers
  refine ⟨.array sqls, Target.compileAt_of_run_plan schemaless bound ?_,
    .array rfl fun row => ?_⟩
  · simp only [Operator.plan, merge, Call.operands, plain, Bool.false_eq_true, if_false,
      Plan.run_bind_eq_ok_iff, Plan.run_pure]
    exact ⟨sqls, ended, rfl⟩
  · rw [contribution_merge]
    exact .arrayLiteral (items row)

/-- The items of a list of literals compile to their values. -/
theorem exists_itemCompilers
    (context : Context (Except Error))
    {items : List Rule}
    (literals : ∀ item ∈ items, item.isLiteral = true)
    (path : Path)
    (depth start : Nat)
    (scope : Scope) :
    ∃ sqls,
      List.Forall₂ (fun compiler sql => compiler scope none = .ok sql)
        (itemCompilers context items path depth start) sqls ∧
      List.Forall₂ (Writes context.dialect) items sqls := by
  induction items generalizing start with
  | nil => exact ⟨[], .nil, .nil⟩
  | cons item rest inductionHypothesis =>
      obtain ⟨first, others⟩ := List.forall_mem_cons.mp literals
      obtain ⟨sql, compiled, writes⟩ :=
        exists_compileAt_literal context first ⟨path, some start, depth⟩ scope
      obtain ⟨sqls, each, write⟩ := inductionHypothesis others (start + 1)
      exact ⟨sql :: sqls, .cons compiled each, .cons writes write⟩

/-- A list of literals compiles to the array of their values. -/
theorem exists_compileAt_list
    (context : Context (Except Error))
    {items : List Rule}
    (literals : ∀ item ∈ items, item.isLiteral = true)
    (position : Position)
    (scope : Scope) :
    ∃ sqls, compileAt context (.list items) position scope none = .ok (.array sqls) ∧
      List.Forall₂ (Writes context.dialect) items sqls := by
  obtain ⟨sqls, each, write⟩ :=
    exists_itemCompilers context literals position.valuePath (position.depth + 1) 0 scope
  refine ⟨sqls, ?_, write⟩
  simp only [compileAt]
  rw [(compileEach_eq_ok_iff _ _ _ _).mpr each]
  rfl

/-- Wherever it fits, a mergeable rule compiles to what it contributes. -/
theorem Mergeable.exists_compileAt
    (schemaless : target.schema = none)
    {rule : Rule}
    (mergeable : Mergeable rule)
    (position : Position)
    (fits : rule.Fits position.depth target.maxDepth) :
    ∃ sql, compileAt target.context rule position .row none = .ok sql ∧
      Suits target.dialect rule sql := by
  induction mergeable generalizing position with
  | literal literal =>
      obtain ⟨sql, compiled, writes⟩ :=
        exists_compileAt_literal target.context literal position .row
      exact ⟨sql, compiled, .item literal writes⟩
  | list literals =>
      obtain ⟨sqls, compiled, write⟩ :=
        exists_compileAt_list target.context literals position .row
      exact ⟨.array sqls, compiled, .array rfl fun row => .arrayLiteral (forall₂_isItem write)⟩
  | field name writing =>
      obtain ⟨_, compiled, rfl⟩ := Fragment.yields_column schemaless name writing position none fits
      refine ⟨_, compiled, .array rfl fun row => ?_⟩
      rw [contribution_field]
      exact .column name.property
  | @merge arguments operands inductionHypothesis =>
      obtain ⟨bound, inner⟩ := (Rule.Fits.operation_iff _ _).mp fits
      have each : ∀ index operand, arguments.operands[index]? = some operand → ∃ sql,
          compileAt target.context operand (position.operand Operator.merge.name arguments index)
              .row none = .ok sql ∧
            Suits target.dialect operand sql := by
        intro index operand found
        have member := List.mem_of_getElem? found
        refine inductionHypothesis operand member _ ?_
        rw [Position.operand_depth]
        exact inner operand member
      -- An operation among the operands decides which of the two forms is written.
      cases operation : arguments.operands.any Rule.isOperation with
      | true => exact exists_compileAt_joined schemaless bound operation each
      | false => exact exists_compileAt_written schemaless bound operation operands

end

/-- A merge gives a condition that stands for what its operands contribute. -/
theorem exists_condition_merge
    {target : Target}
    (schemaless : target.schema = none)
    {arguments : Rule}
    (mergeable : ∀ operand ∈ arguments.operands, Mergeable operand)
    (fits : (Rule.operation Operator.merge.name arguments).Fits 0 target.maxDepth) :
    ∃ text, target.condition (.rule (.operation Operator.merge.name arguments)) = .ok text ∧
      ∀ row, evaluate target.dialect row text =
        some (arguments.operands.flatMap (contribution row)) := by
  obtain ⟨sql, compiled, suits⟩ :=
    (Mergeable.merge mergeable).exists_compileAt schemaless .start fits
  refine ⟨sql.render target.dialect, ?_, fun row => ?_⟩
  · rw [Target.condition_rule_eq_ok_iff]
    exact ⟨sql, compiled, rfl⟩
  · rw [← contribution_merge]
    exact (suits.denotes row).evaluate_eq

/--
Without a schema, a merge of literals, lists of literals, variables and merges of such rules, in
any dialect and within the limit on nesting, gives a condition that stands for what the operands
contribute, one after the other.  It stands for the same array if a list among the operands is
replaced by a rule with the same value.
-/
theorem evaluate_condition_merge
    (target : Target)
    (schemaless : target.schema = none)
    (arguments : Rule)
    (mergeable : ∀ operand ∈ arguments.operands, Mergeable operand)
    (fits : (Rule.operation Operator.merge.name arguments).Fits 0 target.maxDepth) :
    ∃ text, target.condition (.rule (.operation Operator.merge.name arguments)) = .ok text ∧
      (∀ row, evaluate target.dialect row text =
        some (arguments.operands.flatMap (contribution row))) ∧
      ∀ before items after replacement row,
        arguments.operands = before ++ .list items :: after →
        Mergeable replacement →
        contribution row replacement = contribution row (.list items) →
        (Rule.operation Operator.merge.name (.list (before ++ replacement :: after))).Fits 0
          target.maxDepth →
        ∃ other,
          target.condition (.rule (.operation Operator.merge.name
            (.list (before ++ replacement :: after)))) = .ok other ∧
          evaluate target.dialect row other = evaluate target.dialect row text := by
  obtain ⟨text, compiled, evaluates⟩ := exists_condition_merge schemaless mergeable fits
  refine ⟨text, compiled, evaluates, ?_⟩
  intro before items after replacement row operands mergeableReplacement same fitsReplaced
  have each : ∀ operand ∈ (Rule.list (before ++ replacement :: after)).operands,
      Mergeable operand := by
    rw [operands, List.forall_mem_append, List.forall_mem_cons] at mergeable
    rw [Rule.operands, List.forall_mem_append, List.forall_mem_cons]
    exact ⟨mergeable.1, mergeableReplacement, mergeable.2.2⟩
  -- The two conditions agree because both stand for what their operands contribute.
  obtain ⟨other, compiledOther, evaluatesOther⟩ :=
    exists_condition_merge schemaless each fitsReplaced
  refine ⟨other, compiledOther, ?_⟩
  rw [evaluates, evaluatesOther, operands]
  simp [Rule.operands, same]

/-- A number, any rule, the array in a column, and a merge of a single literal. -/
def mixedOperands (second : Rule) : List Rule :=
  [.number (.integer 1), second, .operation Operator.var.name (.string "tags"),
   .operation Operator.merge.name (.bool true)]

theorem evaluate_condition_mixedOperands :
    (∀ operand ∈ mixedOperands (.list [.string "it's", .null]), Mergeable operand) ∧
      (Rule.operation Operator.merge.name
        (.list (mixedOperands (.list [.string "it's", .null])))).Fits 0 defaultMaxDepth ∧
      ∃ text,
        (Target.ofDialect .duckDB).condition (.rule (.operation Operator.merge.name
          (.list (mixedOperands (.list [.string "it's", .null]))))) = .ok text ∧
        (∀ row, evaluate .duckDB row text =
          some ([.number "1", .string "it's", .null] ++ (row "tags" ++ [.bool true]))) ∧
        ∃ other,
          (Target.ofDialect .duckDB).condition (.rule (.operation Operator.merge.name
            (.list (mixedOperands (.operation Operator.var.name (.string "labels")))))) =
              .ok other ∧
          evaluate .duckDB (fun _ => [.string "it's", .null]) other =
            evaluate .duckDB (fun _ => [.string "it's", .null]) text := by
  have column (name : String) (identifier : Reading.IsIdentifier name) :
      Mergeable (.operation Operator.var.name (.string name)) := .field ⟨name, identifier⟩ .bare
  have literals : ∀ item ∈ [Rule.string "it's", .null], item.isLiteral = true := by
    simp [Rule.isLiteral]
  have mergeable : ∀ operand ∈ mixedOperands (.list [.string "it's", .null]),
      Mergeable operand := by
    have number : Mergeable (.number (.integer 1)) := .literal rfl
    have bool : Mergeable (.bool true) := .literal rfl
    have inner : Mergeable (.operation Operator.merge.name (.bool true)) :=
      .merge (by simpa [Rule.operands] using bool)
    simp [mixedOperands, number, Mergeable.list literals, column "tags" (by decide), inner]
  have fits (second : Rule) (within : second.Fits 1 defaultMaxDepth) :
      (Rule.operation Operator.merge.name (.list (mixedOperands second))).Fits 0
        defaultMaxDepth := by
    have bool : (Rule.bool true).Fits 2 defaultMaxDepth := .of_isLiteral rfl
    rw [defaultMaxDepth] at within bool ⊢
    simp [mixedOperands, Rule.operands, within, bool]
  have fitsListed := fits _ (.of_literals literals)
  obtain ⟨text, compiled, evaluates, agrees⟩ :=
    evaluate_condition_merge (.ofDialect .duckDB) rfl
      (.list (mixedOperands (.list [.string "it's", .null]))) mergeable fitsListed
  refine ⟨mergeable, fitsListed, text, compiled, evaluates, ?_⟩
  exact agrees [.number (.integer 1)] [.string "it's", .null] _ _ _ rfl
    (column "labels" (by decide)) rfl (fits _ (by simp [Rule.operands, defaultMaxDepth]))

end Arrays
end RuleClause
