import RuleClause.Proofs.NullTest.Shape

/-!
# Values of logical expressions

A column holds null or a value that is known, of whatever kind a database has.  Comparisons give
null as soon as one side is null, connectives follow three-valued logic, and a test for null is
always known.  The value of a text is the one of the expression that it is read as, and the value
of a shape is the one that its parts make it; the two agree as long as comparisons are written so
that they can be told apart.
-/

namespace RuleClause
namespace NullTest

open Reading
open Fragment (Connective)

/-- What a database does with values that are known. -/
structure Database (α : Type) where
  /-- Whether a value counts as true. -/
  truth : α → Bool
  /-- The value of a truth. -/
  ofTruth : Bool → α
  /-- The value of a truth counts as that truth. -/
  truth_ofTruth : ∀ value, truth (ofTruth value) = value
  /-- Whether a comparison holds. -/
  compare : BinaryOp → α → α → Bool

namespace Database

variable {α : Type} (database : Database α)

/-- The negation of a value; `none` is null. -/
def negate (value : Option α) : Option α :=
  value.map fun known => database.ofTruth (! database.truth known)

/-- The comparison of two values, which is null as soon as one of them is. -/
def relate (operator : BinaryOp) (left right : Option α) : Option α :=
  left.bind fun left => right.map fun right =>
    database.ofTruth (database.compare operator left right)

/-- Two values with a connective between them. -/
def both (connective : Connective) (left right : Option α) : Option α :=
  (connective.join (left.map database.truth) (right.map database.truth)).map database.ofTruth

/-- The truth of a test. -/
def examine : Test → Option α → Bool
  | .isNull, value => value.isNone
  | .isNotNull, value => value.isSome
  | .isTrue, value => value.any database.truth

/-- An operator between two values, if it is a connective or a comparison. -/
def combine (operator : BinaryOp) (left right : Option α) : Option (Option α) :=
  match operator with
  | .and => some (database.both .and left right)
  | .or => some (database.both .or left right)
  | operator => if precedence operator = 4 then some (database.relate operator left right) else none

/-- The value of a logical expression; other expressions have none here. -/
def value? (row : String → Option α) : Expression → Option (Option α)
  | .null => some none
  | .bool value => some (some (database.ofTruth value))
  | .column name => some (row name)
  | .not operand => (value? row operand).map database.negate
  | .test operand check =>
      (value? row operand).map fun value => some (database.ofTruth (database.examine check value))
  | .binary operator left right => do
      database.combine operator (← value? row left) (← value? row right)
  | .numeral _ | .minus _ | .call .. | .cases .. => none

/-- The value of a text that is read as a logical expression. -/
def evaluate? (row : String → Option α) (text : String) : Option (Option α) := do
  database.value? row (← read text)

/-- A text is true. -/
def Holds (row : String → Option α) (text : String) : Prop :=
  ∃ known, database.evaluate? row text = some (some known) ∧ database.truth known = true

variable {database}

theorem combine_relator (relator : Relator) (left right : Option α) :
    database.combine relator.val left right = some (database.relate relator.val left right) := by
  obtain ⟨operator, level⟩ := relator
  cases operator <;> first | rfl | exact absurd level (by decide)

theorem combine_connective (connective : Connective) (left right : Option α) :
    database.combine connective.symbol left right = some (database.both connective left right) := by
  cases connective <;> rfl

end Database

/-! ## Where every column is null -/

/-- An expression is null wherever every column is. -/
def Hollow (expression : Expression) : Prop :=
  ∀ (α : Type) (database : Database α), database.value? (fun _ => none) expression = some none

/-- Something open to the left that keeps null. -/
def KeepsNull : Frame → Prop
  | .not => True
  | .left operator operand => precedence operator = 4 ∧ Hollow operand
  | _ => False

theorem Hollow.binary
    {operator : BinaryOp}
    (level : precedence operator = 4)
    {left : Expression}
    (hollow : Hollow left)
    {right : Expression}
    (has : ∀ (α : Type) (database : Database α),
      ∃ value, database.value? (fun _ => none) right = some value) :
    Hollow (.binary operator left right) := by
  intro α database
  obtain ⟨value, right⟩ := has α database
  simp only [Database.value?, hollow α database, right, Option.bind_eq_bind, Option.bind_some]
  exact Database.combine_relator ⟨operator, level⟩ none value

theorem Hollow.close
    {operand : Expression}
    (hollow : Hollow operand)
    {frame : Frame}
    (keeps : KeepsNull frame) :
    Hollow (frame.close operand) := by
  cases frame with
  | not =>
      intro α database
      change (database.value? _ operand).map _ = _
      rw [hollow α database]
      rfl
  | left operator first => exact .binary keeps.1 keeps.2 fun α database => ⟨none, hollow α database⟩
  | minus | group | argument | condition | value | otherwise => exact keeps.elim

theorem Hollow.closeAll
    {frames : List Frame}
    (keep : ∀ frame ∈ frames, KeepsNull frame)
    {operand : Expression}
    (hollow : Hollow operand) :
    Hollow (closeAll operand frames) := by
  induction frames generalizing operand with
  | nil => exact hollow
  | cons frame frames inductionHypothesis =>
      rw [List.forall_mem_cons] at keep
      exact inductionHypothesis keep.2 (hollow.close keep.1)

theorem Hollow.reduce
    {level : Nat}
    {stack : List Frame}
    (keep : ∀ frame ∈ stack, KeepsNull frame)
    {operand : Expression}
    (hollow : Hollow operand) :
    Hollow (reduce level operand stack).1 := by
  induction stack generalizing operand with
  | nil => exact hollow
  | cons frame stack inductionHypothesis =>
      rw [List.forall_mem_cons] at keep
      rw [Reading.reduce]
      split
      · exact inductionHypothesis keep.2 (hollow.close keep.1)
      · exact hollow

theorem Hollow.foldl
    (connective : Connective)
    {operands : List Expression}
    (each : ∀ operand ∈ operands, Hollow operand)
    {first : Expression}
    (hollow : Hollow first) :
    Hollow (operands.foldl (.binary connective.symbol) first) := by
  induction operands generalizing first with
  | nil => exact hollow
  | cons second operands inductionHypothesis =>
      rw [List.forall_mem_cons] at each
      refine inductionHypothesis each.2 fun α database => ?_
      simp only [Database.value?, hollow α database, each.1 α database, Option.bind_eq_bind,
        Option.bind_some, Database.combine_connective]
      cases connective <;> rfl

namespace Shape

theorem hollow_whole_of_enter
    {shape : Shape}
    (entered : Hollow (shape.enter []).1 ∧ ∀ frame ∈ (shape.enter []).2, KeepsNull frame) :
    Hollow shape.whole :=
  entered.1.closeAll entered.2

theorem hollow_enter
    (shape : Shape)
    {stack : List Frame}
    (keep : ∀ frame ∈ stack, KeepsNull frame) :
    Hollow (shape.enter stack).1 ∧ ∀ frame ∈ (shape.enter stack).2, KeepsNull frame := by
  induction shape generalizing stack with
  | column name => exact ⟨fun _ _ => rfl, keep⟩
  | compare relator left right inductionLeft inductionRight =>
      obtain ⟨hollow, kept⟩ := inductionLeft keep
      refine inductionRight (List.forall_mem_cons.mpr ⟨⟨relator.property, hollow.reduce kept⟩, ?_⟩)
      exact fun frame member => kept frame ((suffix_reduce _ _).mem member)
  | group connective first rest inductionFirst inductionRest =>
      refine ⟨.foldl connective ?_ (hollow_whole_of_enter (inductionFirst (by simp))), keep⟩
      rw [readEach_eq_map, List.forall_mem_map]
      exact fun other member => hollow_whole_of_enter (inductionRest other member (by simp))
  | not operand inductionHypothesis =>
      exact ⟨hollow_whole_of_enter (inductionHypothesis (by simp)),
        List.forall_mem_cons.mpr ⟨trivial, keep⟩⟩

theorem hollow_whole (shape : Shape) : Hollow shape.whole :=
  hollow_whole_of_enter (shape.hollow_enter (by simp))

/-- Where a negation is exposed, a test for null is not true of an expression that is null. -/
theorem tested_isNull_of_exposed
    {shape : Shape}
    (exposed : shape.Exposed)
    {α : Type}
    {database : Database α}
    {known : α}
    (evaluates : database.value? (fun _ => none) (shape.tested .isNull) = some (some known)) :
    database.truth known = false := by
  obtain ⟨more, stack, apart⟩ := exists_subject_eq exposed
  obtain ⟨hollow, keep⟩ : Hollow (shape.enter []).1 ∧ ∀ frame ∈ (shape.enter []).2,
      KeepsNull frame := shape.hollow_enter (by simp)
  have subject : Hollow shape.subject.1 := hollow.reduce keep
  have inverted (α : Type) (database : Database α) :
      database.value? (fun _ => none) (.not (.test shape.subject.1 .isNull)) =
        some (some (database.ofTruth false)) := by
    simp [Database.value?, subject α database, Database.examine, Database.negate,
      database.truth_ofTruth]
  rw [tested, stack] at evaluates
  cases more with
  | nil =>
      -- the negation stands alone, and turns the truth of the test round
      have same : database.ofTruth false = known := by
        simpa using (inverted α database).symm.trans evaluates
      rw [← same, database.truth_ofTruth]
  | cons frame more =>
      -- the negation is compared with something null
      have kept : ∀ other ∈ frame :: more, KeepsNull other := fun other member =>
        keep other ((suffix_reduce _ _).mem (show other ∈ shape.subject.2 by
          rw [stack]; exact List.mem_cons_of_mem _ member))
      rw [List.forall_mem_cons] at kept
      cases frame with
      | not => exact absurd rfl apart
      | left operator operand =>
          have compared := Hollow.binary kept.1.1 kept.1.2 fun α database =>
            ⟨_, inverted α database⟩
          have null := compared.closeAll kept.2 α database
          simpa using null.symm.trans evaluates
      | minus | group | argument | condition | value | otherwise => exact kept.1.elim

/-! ## Comparisons that can be told apart -/

/-- An expression is a comparison without parentheses. -/
def IsComparison : Shape → Prop
  | .compare .. => True
  | .column _ | .group .. | .not _ => False

mutual

/--
Every comparison in an expression reads as such: on its left no negation is exposed, and on its
right stands no other comparison.
-/
def Grouped : Shape → Prop
  | .column _ => True
  | .compare _ left right =>
      left.Grouped ∧ right.Grouped ∧ ¬ left.Exposed ∧ ¬ right.IsComparison
  | .group _ first rest => first.Grouped ∧ GroupedEach rest
  | .not operand => operand.Grouped

/-- Every comparison in some expressions reads as such. -/
def GroupedEach : List Shape → Prop
  | [] => True
  | first :: rest => first.Grouped ∧ GroupedEach rest

end

theorem groupedEach_iff (shapes : List Shape) :
    GroupedEach shapes ↔ ∀ shape ∈ shapes, shape.Grouped := by
  induction shapes with
  | nil => simp [GroupedEach]
  | cons first rest inductionHypothesis => simp [GroupedEach, inductionHypothesis]

theorem whole_compare
    (relator : Relator)
    {left right : Shape}
    (covered : ¬ left.Exposed)
    (apart : ¬ right.IsComparison) :
    (Shape.compare relator left right).whole = .binary relator.val left.whole right.whole := by
  have closed : reduce 4 (left.enter []).1 (left.enter []).2 = (left.whole, []) :=
    reduce_eq_closeAll (fun _ => four_le_level_of_mem_enter covered) _
  cases right with
  | compare => exact absurd trivial apart
  | column | group | not => rw [whole, enter, closed]; rfl

section

variable {α : Type} (database : Database α) (row : String → Option α)

mutual

/-- The value that the parts of an expression make it. -/
def value : Shape → Option α
  | .column name => row name.val
  | .compare relator left right => database.relate relator.val left.value right.value
  | .group connective first rest => (values rest).foldl (database.both connective) first.value
  | .not operand => database.negate operand.value

/-- The values of some expressions, one by one. -/
def values : List Shape → List (Option α)
  | [] => []
  | first :: rest => first.value :: values rest

end

variable {database row}

theorem values_eq_map (shapes : List Shape) :
    values database row shapes = shapes.map (value database row) := by
  induction shapes with
  | nil => rfl
  | cons first rest inductionHypothesis => simp [values, inductionHypothesis]

/-- Expressions with a connective between them have the value that their values make. -/
theorem value?_foldl
    (connective : Connective)
    {operands : List Expression}
    {values : List (Option α)}
    (each : List.Forall₂ (fun operand value => database.value? row operand = some value)
      operands values)
    {first : Expression}
    {start : Option α}
    (head : database.value? row first = some start) :
    database.value? row (operands.foldl (.binary connective.symbol) first) =
      some (values.foldl (database.both connective) start) := by
  induction each generalizing first start with
  | nil => exact head
  | cons second _ inductionHypothesis =>
      refine inductionHypothesis ?_
      simp only [Database.value?, head, second, Option.bind_eq_bind, Option.bind_some,
        Database.combine_connective]

/-- What an expression is read as has the value that its parts make it. -/
theorem value?_whole {shape : Shape} (grouped : shape.Grouped) :
    database.value? row shape.whole = some (shape.value database row) := by
  induction shape with
  | column name => rfl
  | compare relator left right inductionLeft inductionRight =>
      obtain ⟨groupedLeft, groupedRight, covered, apart⟩ := grouped
      rw [whole_compare relator covered apart]
      simp only [Database.value?, inductionLeft groupedLeft, inductionRight groupedRight,
        Option.bind_eq_bind, Option.bind_some, Database.combine_relator, value]
  | group connective first rest inductionFirst inductionRest =>
      refine value?_foldl connective ?_ (inductionFirst grouped.1)
      rw [readEach_eq_map, values_eq_map, List.forall₂_map_left_iff, List.forall₂_map_right_iff,
        List.forall₂_same]
      exact fun other member =>
        inductionRest other member ((groupedEach_iff rest).mp grouped.2 other member)
  | not operand inductionHypothesis =>
      change (database.value? row operand.whole).map database.negate = _
      rw [inductionHypothesis grouped]
      rfl

/-- Where every column is null, so is an expression. -/
theorem value_null (shape : Shape) : shape.value database (fun _ => none) = none := by
  induction shape with
  | column name => rfl
  | compare relator left right inductionLeft inductionRight =>
      rw [value, inductionLeft]
      rfl
  | group connective first rest inductionFirst inductionRest =>
      rw [value, values_eq_map, inductionFirst]
      refine List.foldlRecOn (motive := (· = none)) _ _ rfl fun before null second member => ?_
      obtain ⟨other, among, rfl⟩ := List.mem_map.mp member
      rw [null, inductionRest other among]
      cases connective <;> rfl
  | not operand inductionHypothesis =>
      rw [value, inductionHypothesis]
      rfl

end

end Shape

end NullTest
end RuleClause
