import Mathlib.Data.List.TakeDrop
import RuleClause.Proofs.Fragment.Term
import RuleClause.Proofs.Plan.InsideIteration

/-!
# Rules that compute a number for each element

Inside a reduction, a rule may read the current element and its members.  Arithmetic with
these and with integers is written alike in every dialect, and its text reads back with the
value of the rule.  The names of an element are those under which a row holds it: one for the
element itself, and one for each of its members.
-/

namespace RuleClause
namespace Fragment

open Reading

/-- A rule with a number for its value for each element of an array. -/
inductive ElementTerm where
  | literal (value : Int)
  | current (writing : Writing)
  | member (name : String) (writing : Writing)
  | calculation
      (operation : Calculation)
      (first second : ElementTerm)
      (rest : List ElementTerm)

namespace ElementTerm

mutual

/-- What holds of calculations if it holds of their operands holds of all terms. -/
@[elab_as_elim, induction_eliminator]
theorem induction
    {motive : ElementTerm → Prop}
    (literal : ∀ value, motive (.literal value))
    (current : ∀ writing, motive (.current writing))
    (member : ∀ name writing, motive (.member name writing))
    (calculation : ∀ operation first second rest,
      (∀ term ∈ first :: second :: rest, motive term) →
        motive (.calculation operation first second rest)) :
    ∀ term, motive term
  | .literal value => literal value
  | .current writing => current writing
  | .member name writing => member name writing
  | .calculation operation first second rest =>
      calculation operation first second rest (List.forall_mem_cons.mpr
        ⟨induction literal current member calculation first, List.forall_mem_cons.mpr
          ⟨induction literal current member calculation second,
            inductionEach literal current member calculation rest⟩⟩)

theorem inductionEach
    {motive : ElementTerm → Prop}
    (literal : ∀ value, motive (.literal value))
    (current : ∀ writing, motive (.current writing))
    (member : ∀ name writing, motive (.member name writing))
    (calculation : ∀ operation first second rest,
      (∀ term ∈ first :: second :: rest, motive term) →
        motive (.calculation operation first second rest)) :
    ∀ terms : List ElementTerm, ∀ term ∈ terms, motive term
  | [] => List.forall_mem_nil _
  | first :: rest => List.forall_mem_cons.mpr
      ⟨induction literal current member calculation first,
        inductionEach literal current member calculation rest⟩

end

/-- The name under which a row holds a member of the current element. -/
def memberName (name : String) : String :=
  Dialect.elementName ++ "." ++ name

mutual

/-- A term as a rule. -/
def toRule : ElementTerm → Rule
  | .literal value => .number (.integer value)
  | .current writing => .operation Operator.var.name (writing.arguments [.string "current"])
  | .member name writing =>
      .operation Operator.var.name (writing.arguments [.string ("current." ++ name)])
  | .calculation operation first second rest =>
      .operation operation.operator.name
        (.list (first.toRule :: second.toRule :: toRules rest))

/-- Terms as rules, one by one. -/
def toRules : List ElementTerm → List Rule
  | [] => []
  | first :: rest => first.toRule :: toRules rest

end

mutual

/-- The SQL text of a term. -/
def text : ElementTerm → String
  | .literal value => (Number.integer value).text
  | .current _ => Dialect.elementName
  | .member name _ => memberName name
  | .calculation operation first second rest =>
      Dialect.parenthesized (Dialect.between operation.symbol.symbol
        (first.text :: second.text :: texts rest))

/-- The SQL texts of terms, one by one. -/
def texts : List ElementTerm → List String
  | [] => []
  | first :: rest => first.text :: texts rest

end

mutual

/-- The number that a term stands for in a row with the names of an element; `none` is null. -/
def value (interpretation : Interpretation) (row : Row) : ElementTerm → Option Int
  | .literal value => some value
  | .current _ => row Dialect.elementName
  | .member name _ => row (memberName name)
  | .calculation operation first second rest =>
      (values interpretation row rest).foldl (operation.apply interpretation)
        (operation.apply interpretation (first.value interpretation row)
          (second.value interpretation row))

/-- The numbers that terms stand for, one by one. -/
def values (interpretation : Interpretation) (row : Row) : List ElementTerm → List (Option Int)
  | [] => []
  | first :: rest => first.value interpretation row :: values interpretation row rest

end

mutual

/-- The members of the current element that a term reads. -/
def members : ElementTerm → List String
  | .literal _ | .current _ => []
  | .member name _ => [name]
  | .calculation _ first second rest => first.members ++ second.members ++ membersOf rest

/-- The members of the current element that some terms read. -/
def membersOf : List ElementTerm → List String
  | [] => []
  | first :: rest => first.members ++ membersOf rest

end

theorem toRules_eq_map (terms : List ElementTerm) : toRules terms = terms.map toRule := by
  induction terms with
  | nil => rfl
  | cons first rest inductionHypothesis => rw [toRules, inductionHypothesis, List.map_cons]

theorem texts_eq_map (terms : List ElementTerm) : texts terms = terms.map text := by
  induction terms with
  | nil => rfl
  | cons first rest inductionHypothesis => rw [texts, inductionHypothesis, List.map_cons]

theorem values_eq_map
    (interpretation : Interpretation)
    (row : Row)
    (terms : List ElementTerm) :
    values interpretation row terms = terms.map (value interpretation row) := by
  induction terms with
  | nil => rfl
  | cons first rest inductionHypothesis => rw [values, inductionHypothesis, List.map_cons]

theorem membersOf_eq_flatMap (terms : List ElementTerm) :
    membersOf terms = terms.flatMap members := by
  induction terms with
  | nil => rfl
  | cons first rest inductionHypothesis => rw [membersOf, inductionHypothesis, List.flatMap_cons]

/-- Every member that a term reads is made of the characters of a word. -/
def Readable (term : ElementTerm) : Prop :=
  ∀ name ∈ term.members, ∀ character ∈ name.toList, isWordCharacter character = true

instance (term : ElementTerm) : Decidable term.Readable :=
  decidable_of_iff ((term.members.all fun name => name.toList.all isWordCharacter) = true)
    (by simp [Readable])

theorem readable_calculation_iff
    (operation : Calculation)
    (first second : ElementTerm)
    (rest : List ElementTerm) :
    (ElementTerm.calculation operation first second rest).Readable ↔
      ∀ term ∈ first :: second :: rest, term.Readable := by
  simp only [Readable, members, membersOf_eq_flatMap, ← List.flatMap_cons, List.append_assoc,
    List.mem_flatMap]
  constructor
  · intro readable term member name listed
    exact readable name ⟨term, member, listed⟩
  · rintro readable name ⟨term, member, listed⟩
    exact readable term member name listed

/-! ## Reading the text of a term -/

theorem isIdentifier_elementName : IsIdentifier Dialect.elementName := by
  decide

/-- The name of a member is a word with a dot in it, so that it is not reserved. -/
theorem isIdentifier_memberName
    {name : String}
    (word : ∀ character ∈ name.toList, isWordCharacter character = true) :
    IsIdentifier (memberName name) := by
  have characters : (memberName name).toList = "elem.".toList ++ name.toList := by
    simp [memberName, Dialect.elementName]
  refine ⟨?_, ?_, ?_⟩
  · intro character member
    rw [characters, List.mem_append] at member
    rcases member with fixed | named
    · exact List.all_eq_true.mp (by decide) character fixed
    · exact word character named
  · rw [characters]
    rfl
  · have dotless : ∀ entry ∈ wordTokens, '.' ∉ entry.1.toList := by decide
    rw [reserved?, List.lookup_eq_none_iff]
    intro entry listed
    rw [bne_iff_ne, characters]
    intro same
    refine dotless entry listed ?_
    rw [← same]
    simp

/-- The value of a term, for any database and row. -/
def meaning (term : ElementTerm) : Meaning :=
  fun interpretation row => .ofNumber (term.value interpretation row)

/-- The text of a term reads as an expression with the value of the term. -/
theorem denotes
    (dialect : Dialect)
    {term : ElementTerm}
    (readable : term.Readable) :
    Denotes dialect 7 (.fragment term.text) term.meaning := by
  induction term with
  | literal value =>
      refine (denotes_integer dialect value).of_render_eq ?_
      simp only [Sql.ofNumber, Sql.render, Number.canonicalText, text]
  | current writing =>
      refine (Denotes.column isIdentifier_elementName).of_render_eq ?_
      simp only [Sql.render, text]
  | member name writing =>
      have word := readable name (List.mem_singleton_self name)
      refine (Denotes.column (isIdentifier_memberName word)).of_render_eq ?_
      simp only [Sql.render, text]
  | calculation operation first second rest inductionHypothesis =>
      rw [readable_calculation_iff] at readable
      have bound : precedence operation.symbol + 1 ≤ 7 := by
        cases operation <;> decide
      have denote : List.Forall₂ (Denotes dialect 7)
          ((first :: second :: rest).map fun term => .fragment term.text)
          ((first :: second :: rest).map meaning) := by
        rw [List.forall₂_map_left_iff, List.forall₂_map_right_iff, List.forall₂_same]
        exact fun term member => inductionHypothesis term member (readable term member)
      obtain ⟨head, tail⟩ := List.forall₂_cons.mp denote
      refine (Denotes.group (head.mono (by omega)) (tail.imp fun _ _ denotes =>
        denotes.mono bound) fun interpretation row => ?_).of_render_eq ?_
      · have combined := foldlM_combine interpretation
          (combine_calculation interpretation operation) (first.value interpretation row)
          ((second :: rest).map (value interpretation row))
        simpa [meaning, value, values_eq_map, Function.comp_def] using combined
      · simp only [Sql.render, Sql.renderAll_eq_map, text, texts_eq_map, List.map_cons,
          List.map_map, Function.comp_def]

end ElementTerm

/-! ## Compiling a term inside a reduction -/

/-- Inside of iterations, operands that have been answered are terms. -/
theorem run_terms_inside
    {answer : Request → Except Error Sql}
    {setting : Setting}
    {call : Call}
    {expressions : List Sql}
    (inside : setting.scope ≠ .row)
    (length : expressions.length = call.operands.length)
    (answered : Answered answer (setting.operandRequest (some .number)) expressions) :
    (Arithmetic.terms setting call).run answer = .ok expressions := by
  refine (Arithmetic.run_terms_eq_ok_iff expressions).mpr ⟨fun operand _ => ?_, length, answered⟩
  simp [Setting.Admits, Setting.field?_inside inside]

theorem splitName_member (name : String) :
    Reference.splitName ("current." ++ name) = ("current", some name) := by
  simp [Reference.splitName, List.span_eq_takeWhile_dropWhile]

/-- What is read after the name of the current element and a dot is a member of it. -/
theorem inReduction?_member (name : String) :
    Reference.inReduction? ("current." ++ name) = some (.bound .element (some name)) := by
  simp [Reference.inReduction?, splitName_member]

/-- A rule that should compile to a text. -/
def spelled (context : Context (Except Error)) (rule : Rule) (text : String) : Operand :=
  ⟨rule, fun sql => sql.render context.dialect = text⟩

/-- Expressions that have the texts that they should have are written as these texts. -/
theorem renderAll_of_spelled
    {context : Context (Except Error)}
    {ι : Type}
    {items : List ι}
    {rule : ι → Rule}
    {text : ι → String}
    {expressions : List Sql}
    (suit : List.Forall₂ Operand.good
      (items.map fun item => spelled context (rule item) (text item)) expressions) :
    Sql.renderAll context.dialect expressions = items.map text := by
  rw [List.forall₂_map_left_iff] at suit
  rw [Sql.renderAll_eq_map]
  induction suit with
  | nil => rfl
  | cons head _ inductionHypothesis => rw [List.map_cons, List.map_cons, head, inductionHypothesis]

section

variable {context : Context (Except Error)}
  (builtin : ∀ operator : Operator, context.custom operator.name = none)
include builtin

/-- Inside a reduction, a variable yields what its name refers to. -/
theorem yields_var_reduction
    {name : String}
    {reference : Sql}
    (refers : Reference.inReduction? name = some reference)
    (writing : Writing) :
    context.Yields .reduction
      ⟨.operation Operator.var.name (writing.arguments [.string name]), (· = reference)⟩ := by
  intro position hint fits
  refine ⟨reference, (compileAt_operator_eq_ok_iff (builtin .var) _ _ _ _ _).mpr ⟨?_, ?_⟩, rfl⟩
  · exact ((Rule.Fits.operation_iff _ _).mp fits).1
  · have listed : (writing.arguments [.string name]).operands = [.string name] :=
      writing.operands_arguments (by simp)
    simp [Operator.plan, Reference.var, Call.operands, listed, Reference.reference,
      Reference.textual, Reference.named, Reference.bound?, refers]

/-- Inside a reduction, a term yields its text. -/
theorem ElementTerm.yields (term : ElementTerm) :
    context.Yields .reduction (spelled context term.toRule term.text) := by
  induction term with
  | literal value =>
      intro position hint _
      exact ⟨.ofNumber (.integer value), rfl, rfl⟩
  | current writing =>
      have refers : Reference.inReduction? "current" = some (.bound .element none) := rfl
      intro position hint fits
      obtain ⟨_, compiled, rfl⟩ := yields_var_reduction builtin refers writing position hint fits
      exact ⟨_, compiled, rfl⟩
  | member name writing =>
      intro position hint fits
      obtain ⟨_, compiled, rfl⟩ := yields_var_reduction builtin (inReduction?_member name) writing
        position hint fits
      exact ⟨_, compiled, rfl⟩
  | calculation operation first second rest inductionHypothesis =>
      have listed : (Rule.list (toRules (first :: second :: rest))).operands =
          ((first :: second :: rest).map fun term =>
            spelled context term.toRule term.text).map (·.rule) := by
        simp [Rule.operands, toRules_eq_map, spelled]
      refine Context.yields_operation (builtin _) (some .number) listed
        (List.forall_mem_map.mpr inductionHypothesis) ?_
      intro answer path expressions answered suit
      have length : expressions.length = (toRules (first :: second :: rest)).length := by
        simpa [toRules_eq_map] using suit.length_eq.symm
      refine ⟨.group operation.symbol expressions, ?_, ?_⟩
      · rw [plan_calculation _ _ _ rfl]
        exact (Arithmetic.run_chain_eq_ok_iff _ _).mpr
          ⟨Nat.le_add_left 2 _, expressions, run_terms_inside (by simp) length answered, rfl⟩
      · simp only [Sql.render, renderAll_of_spelled suit, text, texts_eq_map, List.map_cons]

end

end Fragment
end RuleClause
