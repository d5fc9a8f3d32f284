import RuleClause.Proofs.Fragment.Operators

/-!
# Logical expressions and how they are read

An expression of columns, comparisons, connectives and negations is written with parentheses
around connectives and around what is negated, and nowhere else.  The reader goes through such a
text with a stack of comparisons and negations that are still open to the left.  What follows the
text belongs to what stands last, up to the first of these that it does not bind more tightly
than: a test closes the comparisons, but never a negation.
-/

namespace RuleClause
namespace NullTest

open Reading
open Fragment (Connective Identifier)

/-- An operator that compares two values. -/
abbrev Relator : Type :=
  { operator : BinaryOp // precedence operator = 4 }

/-- How a logical expression is written. -/
inductive Shape where
  /-- A column by its name. -/
  | column (name : Identifier)
  /-- Two expressions with a comparison between them, as they are. -/
  | compare (relator : Relator) (left right : Shape)
  /-- Expressions with a connective between them, in parentheses. -/
  | group (connective : Connective) (first : Shape) (rest : List Shape)
  /-- The negation of an expression in parentheses. -/
  | not (operand : Shape)

namespace Shape

mutual

/-- Shapes by their parts. -/
@[elab_as_elim, induction_eliminator]
theorem induction
    {motive : Shape → Prop}
    (column : ∀ name, motive (.column name))
    (compare : ∀ relator left right, motive left → motive right →
      motive (.compare relator left right))
    (group : ∀ connective first rest, motive first → (∀ shape ∈ rest, motive shape) →
      motive (.group connective first rest))
    (not : ∀ operand, motive operand → motive (.not operand)) :
    ∀ shape, motive shape
  | .column name => column name
  | .compare relator left right =>
      compare relator left right (induction column compare group not left)
        (induction column compare group not right)
  | .group connective first rest =>
      group connective first rest (induction column compare group not first)
        (inductionEach column compare group not rest)
  | .not operand => not operand (induction column compare group not operand)

theorem inductionEach
    {motive : Shape → Prop}
    (column : ∀ name, motive (.column name))
    (compare : ∀ relator left right, motive left → motive right →
      motive (.compare relator left right))
    (group : ∀ connective first rest, motive first → (∀ shape ∈ rest, motive shape) →
      motive (.group connective first rest))
    (not : ∀ operand, motive operand → motive (.not operand)) :
    ∀ shapes : List Shape, ∀ shape ∈ shapes, motive shape
  | [] => List.forall_mem_nil _
  | first :: rest => List.forall_mem_cons.mpr
      ⟨induction column compare group not first, inductionEach column compare group not rest⟩

end

mutual

/-- The expression that is written in a shape. -/
def sql : Shape → Sql
  | .column name => .column name.val
  | .compare relator left right => .binary relator.val left.sql right.sql
  | .group connective first rest => .group connective.symbol (first.sql :: sqls rest)
  | .not operand => .not operand.sql

/-- The expressions that are written in some shapes, one by one. -/
def sqls : List Shape → List Sql
  | [] => []
  | first :: rest => first.sql :: sqls rest

end

mutual

/-- The tokens of an expression. -/
def tokens : Shape → List Token
  | .column name => [.name name.val]
  | .compare relator left right => left.tokens ++ .operator relator.val :: right.tokens
  | .group connective first rest =>
      .opening :: interleave [.operator connective.symbol] (first.tokens :: tokensEach rest) ++
        [.closing]
  | .not operand => .keyword .not :: (.opening :: operand.tokens ++ [.closing])

/-- The tokens of some expressions, one by one. -/
def tokensEach : List Shape → List (List Token)
  | [] => []
  | first :: rest => first.tokens :: tokensEach rest

end

theorem sqls_eq_map (shapes : List Shape) : sqls shapes = shapes.map sql := by
  induction shapes with
  | nil => rfl
  | cons first rest inductionHypothesis => simp [sqls, inductionHypothesis]

theorem tokensEach_eq_map (shapes : List Shape) : tokensEach shapes = shapes.map tokens := by
  induction shapes with
  | nil => rfl
  | cons first rest inductionHypothesis => simp [tokensEach, inductionHypothesis]

/-- The text of an expression falls apart into its tokens. -/
theorem tokenize_render (dialect : Dialect) (shape : Shape) :
    tokenize (shape.sql.render dialect) = some shape.tokens := by
  induction shape with
  | column name => exact tokenize_of_isIdentifier name.property
  | compare relator left right inductionLeft inductionRight =>
      have joined := tokenize_intercalate (Denotes.startsApart_symbol relator.val)
        (Denotes.endsApart_symbol relator.val) (Denotes.tokenize_symbol relator.val)
        (.cons inductionLeft (.cons inductionRight .nil))
      simpa [sql, Sql.render, Dialect.between, tokens, interleave] using joined
  | group connective first rest inductionFirst inductionRest =>
      have others : List.Forall₂ (fun text piece => tokenize text = some piece)
          (Sql.renderAll dialect (sqls rest)) (tokensEach rest) := by
        rw [Sql.renderAll_eq_map, sqls_eq_map, tokensEach_eq_map, List.forall₂_map_left_iff,
          List.forall₂_map_left_iff, List.forall₂_map_right_iff, List.forall₂_same]
        exact inductionRest
      exact tokenize_parenthesized (tokenize_intercalate
        (Denotes.startsApart_symbol connective.symbol) (Denotes.endsApart_symbol connective.symbol)
        (Denotes.tokenize_symbol connective.symbol) (.cons inductionFirst others))
  | not operand inductionHypothesis =>
      exact tokenize_append_of_endsApart (by decide) (show _ = some [.keyword .not] by decide)
        (tokenize_parenthesized inductionHypothesis)

end Shape

/-! ## What the reader holds -/

/-- An operand with all that is open to the left of it closed. -/
def closeAll (operand : Expression) (frames : List Frame) : Expression :=
  frames.foldl (fun operand frame => frame.close operand) operand

namespace Shape

mutual

/-- What the reader holds after an expression, and what is open to the left of that. -/
def enter : Shape → List Frame → Expression × List Frame
  | .column name, stack => (.column name.val, stack)
  | .compare relator left right, stack =>
      let before := left.enter stack
      let closed := reduce 4 before.1 before.2
      right.enter (.left relator.val closed.1 :: closed.2)
  | .group connective first rest, stack =>
      let whole := first.enter []
      ((readEach rest).foldl (.binary connective.symbol) (closeAll whole.1 whole.2), stack)
  | .not operand, stack =>
      let whole := operand.enter []
      (closeAll whole.1 whole.2, .not :: stack)

/-- What some expressions are read as, one by one. -/
def readEach : List Shape → List Expression
  | [] => []
  | first :: rest =>
      let whole := first.enter []
      closeAll whole.1 whole.2 :: readEach rest

end

/-- What an expression is read as. -/
def whole (shape : Shape) : Expression :=
  closeAll (shape.enter []).1 (shape.enter []).2

/-- What a test behind an expression is about, and what stays open to the left of that. -/
def subject (shape : Shape) : Expression × List Frame :=
  reduce 4 (shape.enter []).1 (shape.enter []).2

/-- What a test behind an expression is read as. -/
def tested (shape : Shape) (check : Test) : Expression :=
  closeAll (.test shape.subject.1 check) shape.subject.2

end Shape

/-! ### Closing -/

section

variable {level : Nat} {base : List Frame} {rest : List Token}

theorem reduce_append
    (below : Below level base)
    (operand : Expression)
    (upper : List Frame) :
    reduce level operand (upper ++ base) =
      ((reduce level operand upper).1, (reduce level operand upper).2 ++ base) := by
  induction upper generalizing operand with
  | nil => exact reduce_of_below below operand
  | cons frame upper inductionHypothesis =>
      rw [List.cons_append, reduce, reduce]
      split
      · exact inductionHypothesis _
      · rfl

/-- Closing takes frames from the top of the stack only. -/
theorem suffix_reduce (operand : Expression) (stack : List Frame) :
    (reduce level operand stack).2 <:+ stack := by
  induction stack generalizing operand with
  | nil => exact List.suffix_rfl
  | cons frame stack inductionHypothesis =>
      rw [reduce]
      split
      · exact (inductionHypothesis _).trans (List.suffix_cons _ _)
      · exact List.suffix_rfl

theorem reduce_eq_closeAll
    {frames : List Frame}
    (bound : ∀ frame ∈ frames, level ≤ frame.level)
    (operand : Expression) :
    reduce level operand frames = (closeAll operand frames, []) := by
  induction frames generalizing operand with
  | nil => rfl
  | cons frame frames inductionHypothesis =>
      rw [List.forall_mem_cons] at bound
      rw [reduce, if_pos bound.1, inductionHypothesis bound.2]
      rfl

/-- What binds at least as tightly as anything on the right is closed, one by one. -/
theorem resume_closeAll
    {frames : List Frame}
    (positive : 1 ≤ level)
    (bound : ∀ frame ∈ frames, level ≤ frame.level)
    (ends : Ends level rest)
    (operand : Expression) :
    resume (.holding operand (frames ++ base)) rest =
      resume (.holding (closeAll operand frames) base) rest := by
  induction frames generalizing operand with
  | nil => rfl
  | cons frame frames inductionHypothesis =>
      rw [List.forall_mem_cons] at bound
      rw [List.cons_append,
        resume_close ends (Nat.le_trans positive bound.1) bound.1, inductionHypothesis bound.2]
      rfl

end

/-- Nothing binds more tightly than what delimits itself. -/
theorem below_eight (stack : List Frame) : Below 8 stack := by
  intro frame _
  cases frame with
  | left operator operand =>
      change precedence operator < 8
      cases operator <;> decide
  | minus | not | group | argument | condition | value | otherwise => simp [Frame.level]

/-- What can be open to the left within a logical expression. -/
def IsOpen (frame : Frame) : Prop :=
  frame = .not ∨ frame.level = 4

theorem IsOpen.three_le_level {frame : Frame} (isOpen : IsOpen frame) : 3 ≤ frame.level := by
  rcases isOpen with rfl | level
  · exact Nat.le_refl 3
  · omega

namespace Shape

theorem enter_append
    {base : List Frame}
    (below : Below 4 base)
    (shape : Shape)
    (upper : List Frame) :
    shape.enter (upper ++ base) =
      ((shape.enter upper).1, (shape.enter upper).2 ++ base) := by
  induction shape generalizing upper with
  | column name => rfl
  | compare relator left right inductionLeft inductionRight =>
      simp only [enter, inductionLeft, reduce_append below]
      exact inductionRight (.left relator.val _ :: _)
  | group connective first rest => rfl
  | not operand => rfl

/-- What an expression opens does not depend on what binds less tightly to the left of it. -/
theorem enter_of_below {base : List Frame} (below : Below 4 base) (shape : Shape) :
    shape.enter base = ((shape.enter []).1, (shape.enter []).2 ++ base) :=
  shape.enter_append below []

theorem isOpen_of_mem_enter
    (shape : Shape)
    {stack : List Frame}
    {frame : Frame}
    (member : frame ∈ (shape.enter stack).2) :
    frame ∈ stack ∨ IsOpen frame := by
  induction shape generalizing stack with
  | column name => exact .inl member
  | compare relator left right inductionLeft inductionRight =>
      rcases inductionRight member with earlier | isOpen
      · rcases List.mem_cons.mp earlier with rfl | earlier
        · exact .inr (.inr relator.property)
        · exact inductionLeft ((suffix_reduce _ _).mem earlier)
      · exact .inr isOpen
  | group connective first rest => exact .inl member
  | not operand =>
      rcases List.mem_cons.mp member with rfl | earlier
      · exact .inr (.inl rfl)
      · exact .inl earlier

theorem readEach_eq_map (shapes : List Shape) : readEach shapes = shapes.map whole := by
  induction shapes with
  | nil => rfl
  | cons first rest inductionHypothesis =>
      rw [readEach, inductionHypothesis]
      rfl

theorem isOpen_of_mem_enter_nil
    (shape : Shape)
    {frame : Frame}
    (member : frame ∈ (shape.enter []).2) :
    IsOpen frame :=
  (shape.isOpen_of_mem_enter member).resolve_left (by simp)

theorem isOpen_of_mem_subject
    (shape : Shape)
    {frame : Frame}
    (member : frame ∈ shape.subject.2) :
    IsOpen frame :=
  shape.isOpen_of_mem_enter_nil ((suffix_reduce _ _).mem member)

/-- The reader that goes through an expression as it should reads it as a whole. -/
theorem reads_of_resume
    {shape : Shape}
    (through : ∀ stack rest, Ends 6 rest →
      resume (.awaiting stack) (shape.tokens ++ rest) =
        resume (.holding (shape.enter stack).1 (shape.enter stack).2) rest) :
    Reads 3 shape.tokens shape.whole := by
  intro stack rest below ends
  have entered := shape.enter_of_below (below.mono (by decide))
  rw [through stack rest (ends.mono (by decide)), entered]
  exact resume_closeAll (by decide)
    (fun _ member => (shape.isOpen_of_mem_enter_nil member).three_le_level) ends _

/-- The reader goes through the tokens of an expression and holds what it should. -/
theorem resume_tokens
    (shape : Shape)
    (stack : List Frame)
    (rest : List Token)
    (ends : Ends 6 rest) :
    resume (.awaiting stack) (shape.tokens ++ rest) =
      resume (.holding (shape.enter stack).1 (shape.enter stack).2) rest := by
  induction shape generalizing stack rest with
  | column name => exact resume_named ends name.val
  | compare relator left right inductionLeft inductionRight =>
      have closes : (Token.operator relator.val).closes = 4 := relator.property
      have continued : Ends 6 (.operator relator.val :: (right.tokens ++ rest)) :=
        (ends_cons _ _).mpr ⟨Token.noConfusion, by omega⟩
      -- the operator closes what the left side has open, as `enter` says
      rw [tokens, List.append_assoc, List.cons_append, inductionLeft _ _ continued]
      refine Eq.trans ?_ (inductionRight _ _ ends)
      simp only [resume, step, follow, closes]
      rfl
  | group connective first others inductionFirst inductionOthers =>
      have loose : precedence connective.symbol + 1 ≤ 3 := by
        cases connective <;> decide
      have each : List.Forall₂ (Reads (precedence connective.symbol + 1)) (tokensEach others)
          (readEach others) := by
        rw [tokensEach_eq_map, readEach_eq_map, List.forall₂_map_left_iff,
          List.forall₂_map_right_iff, List.forall₂_same]
        exact fun other member => (reads_of_resume (inductionOthers other member)).mono loose
      have chained := ((reads_of_resume inductionFirst).mono (by omega)).chain each
      have delimited : Reads 8 _ _ := chained.parenthesized (by cases connective <;> decide)
      exact delimited stack rest (below_eight stack) (ends.mono (by decide))
  | not operand inductionHypothesis =>
      have inner : Reads 8 (.opening :: operand.tokens ++ [.closing]) operand.whole :=
        (reads_of_resume inductionHypothesis).parenthesized (by decide)
      exact inner (.not :: stack) rest (below_eight _) (ends.mono (by decide))

theorem reads_tokens (shape : Shape) : Reads 3 shape.tokens shape.whole :=
  reads_of_resume shape.resume_tokens

/-- A test behind an expression tests what stands last, as far as comparisons go. -/
theorem reads_test (shape : Shape) (check : Test) :
    Reads 3 (shape.tokens ++ testTokens check) (shape.tested check) := by
  intro stack rest below ends
  have started : Ends 6 (testTokens check ++ rest) := by
    cases check <;> exact (ends_cons _ _).mpr (by decide)
  have entered := shape.enter_of_below (below.mono (by decide))
  rw [List.append_assoc, shape.resume_tokens stack _ started, entered]
  have closed := reduce_append (below.mono (show 3 ≤ 4 by decide)) (shape.enter []).1
    (shape.enter []).2
  have examined :
      resume (.holding (shape.enter []).1 ((shape.enter []).2 ++ stack))
          (testTokens check ++ rest) =
        resume (.holding (.test shape.subject.1 check) (shape.subject.2 ++ stack)) rest := by
    cases check <;> simp [testTokens, resume, step, follow, Token.closes, closed, shift, subject]
  rw [examined]
  refine resume_closeAll (by decide) (fun frame member => ?_) ends _
  exact (shape.isOpen_of_mem_subject member).three_le_level

/-! ## What a test behind an expression is about -/

/-- A negation stands open at the end of an expression. -/
def Exposed : Shape → Prop
  | .column _ | .group .. => False
  | .compare _ left right => left.Exposed ∨ right.Exposed
  | .not _ => True

theorem not_mem_reduce (operand : Expression) (stack : List Frame) :
    Frame.not ∈ (reduce 4 operand stack).2 ↔ Frame.not ∈ stack := by
  induction stack generalizing operand with
  | nil => rfl
  | cons frame stack inductionHypothesis =>
      rw [reduce]
      split
      · rename_i closes
        rw [inductionHypothesis, List.mem_cons]
        refine ⟨.inr, fun member => member.resolve_left ?_⟩
        rintro rfl
        exact absurd closes (by decide)
      · rfl

/-- What is open after an expression holds a negation exactly if one is exposed. -/
theorem not_mem_enter (shape : Shape) (stack : List Frame) :
    Frame.not ∈ (shape.enter stack).2 ↔ shape.Exposed ∨ Frame.not ∈ stack := by
  induction shape generalizing stack with
  | column name => simp [enter, Exposed]
  | compare relator left right inductionLeft inductionRight =>
      simp only [enter, inductionRight, List.mem_cons, reduceCtorEq, false_or, not_mem_reduce,
        inductionLeft, Exposed]
      tauto
  | group connective first rest => simp [enter, Exposed]
  | not operand => simp [enter, Exposed]

theorem four_le_level_of_mem_enter
    {shape : Shape}
    (covered : ¬ shape.Exposed)
    {frame : Frame}
    (member : frame ∈ (shape.enter []).2) :
    4 ≤ frame.level := by
  rcases shape.isOpen_of_mem_enter_nil member with rfl | level
  · have exposed := (shape.not_mem_enter []).mp member
    simp only [List.not_mem_nil, or_false] at exposed
    exact absurd exposed covered
  · omega

/-- Where no negation is exposed, a test is about the whole expression. -/
theorem tested_eq_test
    {shape : Shape}
    (covered : ¬ shape.Exposed)
    (check : Test) :
    shape.tested check = .test shape.whole check := by
  rw [tested, subject, reduce_eq_closeAll fun _ => four_le_level_of_mem_enter covered]
  rfl

/-- No negation is open right behind another. -/
def Spaced : List Frame → Prop
  | [] => True
  | frame :: stack => (frame = .not → stack.head? ≠ some .not) ∧ Spaced stack

theorem Spaced.of_suffix
    {upper stack : List Frame}
    (spaced : Spaced stack)
    (suffix : upper <:+ stack) :
    Spaced upper := by
  obtain ⟨front, rfl⟩ := suffix
  induction front with
  | nil => exact spaced
  | cons frame front inductionHypothesis => exact inductionHypothesis spaced.2

theorem spaced_enter
    (shape : Shape)
    {stack : List Frame}
    (spaced : Spaced stack)
    (apart : stack.head? ≠ some .not) :
    Spaced (shape.enter stack).2 := by
  induction shape generalizing stack with
  | column name => exact spaced
  | compare relator left right inductionLeft inductionRight =>
      refine inductionRight ⟨fun same => Frame.noConfusion same, ?_⟩ (by simp)
      exact (inductionLeft spaced apart).of_suffix (suffix_reduce _ _)
  | group connective first rest => exact spaced
  | not operand => exact ⟨fun _ => apart, spaced⟩

theorem level_lt_of_reduce
    {level : Nat}
    {operand : Expression}
    {stack more : List Frame}
    {frame : Frame}
    (stops : (reduce level operand stack).2 = frame :: more) :
    frame.level < level := by
  induction stack generalizing operand with
  | nil => simp [reduce] at stops
  | cons top stack inductionHypothesis =>
      rw [reduce] at stops
      split at stops
      · exact inductionHypothesis stops
      · rename_i stays
        obtain ⟨rfl, _⟩ := List.cons.inj stops
        omega

/-- An exposed negation takes the test into its operand, and stands alone or in a comparison. -/
theorem exists_subject_eq {shape : Shape} (exposed : shape.Exposed) :
    ∃ more, shape.subject.2 = .not :: more ∧ more.head? ≠ some .not := by
  have remains : Frame.not ∈ shape.subject.2 :=
    (not_mem_reduce _ _).mpr ((shape.not_mem_enter []).mpr (.inl exposed))
  have spaced : Spaced (shape.enter []).2 := shape.spaced_enter trivial (by simp)
  have apart : Spaced shape.subject.2 := spaced.of_suffix (suffix_reduce _ _)
  cases stack : shape.subject.2 with
  | nil => simp [stack] at remains
  | cons frame more =>
      have isOpen := shape.isOpen_of_mem_subject (stack ▸ List.mem_cons_self)
      -- a comparison on top would have been closed by the test
      obtain rfl : frame = .not := by
        rcases isOpen with negation | level
        · exact negation
        · have stays := level_lt_of_reduce stack
          omega
      rw [stack] at apart
      exact ⟨more, rfl, apart.1 rfl⟩

end Shape

end NullTest
end RuleClause
