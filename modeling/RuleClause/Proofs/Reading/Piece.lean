import RuleClause.Proofs.Reading.Reader

/-!
# Reading piece by piece

Some tokens read as an expression of a level when the reader goes through them
wherever what is open to the left binds less tightly and what follows does not bind
more tightly.  Each form of expression reads as such when its operands do.
-/

namespace RuleClause
namespace Reading

/-- What is open to the left binds less tightly than a level. -/
def Below (level : Nat) (stack : List Frame) : Prop :=
  ∀ frame ∈ stack.head?, frame.level < level

/-- What follows on the right closes an expression of a level. -/
def Ends (level : Nat) (rest : List Token) : Prop :=
  ∀ token ∈ rest.head?, token ≠ .opening ∧ token.closes ≤ level

/-- Tokens read as an expression wherever one of the level can stand. -/
def Reads (level : Nat) (tokens : List Token) (expression : Expression) : Prop :=
  ∀ stack rest, Below level stack → Ends level rest →
    resume (.awaiting stack) (tokens ++ rest) = resume (.holding expression stack) rest

/-- The tokens of a test, after the expression it tests. -/
def testTokens : Test → List Token
  | .isNull => [.keyword .is, .keyword .null]
  | .isNotNull => [.keyword .is, .keyword .not, .keyword .null]
  | .isTrue => [.keyword .is, .keyword .true]

section

variable
  {level : Nat}
  {stack : List Frame}
  {rest : List Token}

theorem below_cons (frame : Frame) (stack : List Frame) :
    Below level (frame :: stack) ↔ frame.level < level := by
  simp [Below]

theorem Below.mono {higher : Nat} (below : Below level stack) (bound : level ≤ higher) :
    Below higher stack :=
  fun frame found => Nat.lt_of_lt_of_le (below frame found) bound

theorem ends_nil : Ends level [] := by
  simp [Ends]

theorem ends_cons (token : Token) (rest : List Token) :
    Ends level (token :: rest) ↔ token ≠ .opening ∧ token.closes ≤ level := by
  simp [Ends]

/-- Whatever stands after a delimiter binds more tightly than the delimiter. -/
theorem below_delimiter
    {frame : Frame}
    (delimits : frame.level = 0)
    (positive : 1 ≤ level)
    (stack : List Frame) :
    Below level (frame :: stack) := by
  rw [below_cons, delimits]
  exact positive

theorem Ends.mono {higher : Nat} (ends : Ends level rest) (bound : level ≤ higher) :
    Ends higher rest :=
  fun token found => ⟨(ends token found).1, Nat.le_trans (ends token found).2 bound⟩

theorem Ends.flatMap_append
    {token : Token}
    (closes : token ≠ .opening ∧ token.closes ≤ level)
    (ends : Ends level rest)
    (pieces : List (List Token)) :
    Ends level (pieces.flatMap ([token] ++ ·) ++ rest) := by
  cases pieces with
  | nil => exact ends
  | cons piece others => exact (ends_cons _ _).mpr closes

/-! ## What the reader closes -/

theorem reduce_of_below (below : Below level stack) (operand : Expression) :
    reduce level operand stack = (operand, stack) := by
  cases stack with
  | nil => rfl
  | cons frame stack => rw [reduce, if_neg (Nat.not_le_of_gt (below frame rfl))]

/-- Where nothing is closed by a token, the reader goes on with it at once. -/
theorem resume_shift
    {token : Token}
    (below : Below token.closes stack)
    (operand : Expression) :
    resume (.holding operand stack) (token :: rest) =
      (shift token operand stack).bind (resume · rest) := by
  simp only [resume, step, follow, reduce_of_below below]

/-- What binds at least as tightly as anything on the right is closed. -/
theorem resume_close
    {frame : Frame}
    (ends : Ends level rest)
    (positive : 1 ≤ frame.level)
    (bound : level ≤ frame.level)
    (operand : Expression) :
    resume (.holding operand (frame :: stack)) rest =
      resume (.holding (frame.close operand) stack) rest := by
  cases rest with
  | nil => simp only [resume, finish, complete, reduce, if_pos positive]
  | cons token rest =>
      have closed := Nat.le_trans (ends token rfl).2 bound
      simp only [resume, step, follow, reduce, if_pos closed]

/-- A name that opens no call is a column. -/
theorem resume_named (ends : Ends level rest) (name : String) :
    resume (.named name stack) rest = resume (.holding (.column name) stack) rest := by
  cases rest with
  | nil => rfl
  | cons token rest =>
      have plain := (ends token rfl).1
      cases token with
      | opening => exact absurd rfl plain
      | numeral | name | keyword | operator | closing | comma => rfl

end

namespace Reads

variable
  {level outer : Nat}
  {tokens : List Token}
  {expression : Expression}

theorem mono {lower : Nat} (reads : Reads level tokens expression) (bound : lower ≤ level) :
    Reads lower tokens expression :=
  fun stack rest below ends => reads stack rest (below.mono bound) (ends.mono bound)

/-! ## Single tokens and prefixes -/

theorem null : Reads level [.keyword .null] .null :=
  fun _ _ _ _ => rfl

theorem bool (value : Bool) :
    Reads level [.keyword (if value then .true else .false)] (.bool value) := by
  intro stack rest _ _
  cases value <;> rfl

theorem numeral (value : Nat) : Reads level [.numeral value] (.numeral value) :=
  fun _ _ _ _ => rfl

theorem column (name : String) : Reads level [.name name] (.column name) :=
  fun _ _ _ ends => resume_named ends name

theorem minus (reads : Reads 8 tokens expression) :
    Reads 7 (.operator .subtract :: tokens) (.minus expression) := by
  intro stack rest _ ends
  calc
    resume (.awaiting (.minus :: stack)) (tokens ++ rest) =
        resume (.holding expression (.minus :: stack)) rest :=
      reads _ _ ((below_cons _ _).mpr (by decide)) (ends.mono (by decide))
    _ = resume (.holding (.minus expression) stack) rest :=
      resume_close ends (by decide) (by decide) expression

theorem not (reads : Reads 4 tokens expression) :
    Reads 3 (.keyword .not :: tokens) (.not expression) := by
  intro stack rest _ ends
  calc
    resume (.awaiting (.not :: stack)) (tokens ++ rest) =
        resume (.holding expression (.not :: stack)) rest :=
      reads _ _ ((below_cons _ _).mpr (by decide)) (ends.mono (by decide))
    _ = resume (.holding (.not expression) stack) rest :=
      resume_close ends (by decide) (by decide) expression

/-! ## Tests and operators -/

theorem test (reads : Reads 4 tokens expression) (check : Test) :
    Reads 4 (tokens ++ testTokens check) (.test expression check) := by
  intro stack rest below _
  have started : Ends 4 (testTokens check ++ rest) := by
    cases check <;> exact (ends_cons _ _).mpr (by decide)
  rw [List.append_assoc, reads _ _ below started]
  cases check <;> exact resume_shift (show Below (Token.keyword .is).closes stack from below) _

end Reads

theorem operator_closes (operator : BinaryOp) :
    Token.operator operator ≠ .opening ∧ (Token.operator operator).closes ≤ precedence operator :=
  ⟨Token.noConfusion, Nat.le_refl _⟩

/-- Further operands of an operator join what stands before them one after the other. -/
theorem resume_chain
    {operator : BinaryOp}
    {stack : List Frame}
    {rest : List Token}
    {pieces : List (List Token)}
    {operands : List Expression}
    (below : Below (precedence operator) stack)
    (ends : Ends (precedence operator) rest)
    (each : List.Forall₂ (Reads (precedence operator + 1)) pieces operands)
    (first : Expression) :
    resume (.holding first stack) (pieces.flatMap ([.operator operator] ++ ·) ++ rest) =
      resume (.holding (operands.foldl (.binary operator) first) stack) rest := by
  induction each generalizing first with
  | nil => rfl
  | @cons piece operand pieces operands head tail inductionHypothesis =>
      have continued := ends.flatMap_append (operator_closes operator) pieces
      have positive : 1 ≤ precedence operator := by
        cases operator <;> decide
      rw [List.flatMap_cons, List.append_assoc, List.singleton_append, List.cons_append,
        resume_shift (show Below (Token.operator operator).closes stack from below)]
      calc
        resume (.awaiting (.left operator first :: stack))
              (piece ++ (pieces.flatMap ([.operator operator] ++ ·) ++ rest)) =
            resume (.holding operand (.left operator first :: stack))
              (pieces.flatMap ([.operator operator] ++ ·) ++ rest) :=
          head _ _ ((below_cons _ _).mpr (Nat.lt_succ_self _)) (continued.mono (Nat.le_succ _))
        _ = resume (.holding (.binary operator first operand) stack)
              (pieces.flatMap ([.operator operator] ++ ·) ++ rest) :=
          resume_close continued (show 1 ≤ (Frame.left operator first).level from positive)
            (Nat.le_refl _) operand
        _ = _ := inductionHypothesis _

namespace Reads

/-- Operands with an operator between them are grouped from the left. -/
theorem chain
    {operator : BinaryOp}
    {pieces : List (List Token)}
    {operands : List Expression}
    {piece : List Token}
    {first : Expression}
    (head : Reads (precedence operator) piece first)
    (each : List.Forall₂ (Reads (precedence operator + 1)) pieces operands) :
    Reads (precedence operator) (interleave [.operator operator] (piece :: pieces))
      (operands.foldl (.binary operator) first) := by
  intro stack rest below ends
  have continued := ends.flatMap_append (operator_closes operator) pieces
  rw [interleave, List.append_assoc, head _ _ below continued]
  exact resume_chain below ends each first

/-! ## What delimits itself -/

variable
  {level outer : Nat}
  {tokens : List Token}
  {expression : Expression}

theorem parenthesized (reads : Reads level tokens expression) (positive : 1 ≤ level) :
    Reads outer (.opening :: tokens ++ [.closing]) expression := by
  intro stack rest _ _
  rw [List.append_assoc]
  calc
    resume (.awaiting (.group :: stack)) (tokens ++ (.closing :: rest)) =
        resume (.holding expression (.group :: stack)) (.closing :: rest) :=
      reads _ _ (below_delimiter rfl positive _) ((ends_cons _ _).mpr ⟨by decide, positive⟩)
    _ = resume (.holding expression stack) rest :=
      resume_shift (below_delimiter rfl (by decide) _) expression

end Reads

/-- Further arguments of a call, up to its closing parenthesis. -/
theorem resume_arguments
    {level : Nat}
    {stack : List Frame}
    {pieces : List (List Token)}
    {arguments : List Expression}
    (positive : 1 ≤ level)
    (each : List.Forall₂ (Reads level) pieces arguments)
    (function : String)
    (before : List Expression)
    (current : Expression)
    (rest : List Token) :
    resume (.holding current (.argument function before :: stack))
        (pieces.flatMap ([.comma] ++ ·) ++ (.closing :: rest)) =
      resume (.holding (.call function (before ++ current :: arguments)) stack) rest := by
  induction each generalizing before current with
  | nil => exact resume_shift (below_delimiter rfl (by decide) _) current
  | @cons piece argument pieces arguments head tail inductionHypothesis =>
      have continued : Ends level (pieces.flatMap ([.comma] ++ ·) ++ (.closing :: rest)) :=
        Ends.flatMap_append ⟨by decide, positive⟩
          ((ends_cons _ _).mpr ⟨by decide, positive⟩) pieces
      rw [List.flatMap_cons, List.append_assoc, List.singleton_append, List.cons_append,
        resume_shift (below_delimiter rfl (by decide) _)]
      calc
        resume (.awaiting (.argument function (before ++ [current]) :: stack))
              (piece ++ (pieces.flatMap ([.comma] ++ ·) ++ (.closing :: rest))) =
            resume (.holding argument (.argument function (before ++ [current]) :: stack))
              (pieces.flatMap ([.comma] ++ ·) ++ (.closing :: rest)) :=
          head _ _ (below_delimiter rfl positive _) continued
        _ = _ := by rw [inductionHypothesis, List.append_assoc, List.singleton_append]

theorem Reads.call
    {level outer : Nat}
    {piece : List Token}
    {pieces : List (List Token)}
    {first : Expression}
    {arguments : List Expression}
    (positive : 1 ≤ level)
    (head : Reads level piece first)
    (each : List.Forall₂ (Reads level) pieces arguments)
    (function : String) :
    Reads outer (.name function :: .opening :: interleave [.comma] (piece :: pieces) ++ [.closing])
      (.call function (first :: arguments)) := by
  intro stack rest _ _
  have continued : Ends level (pieces.flatMap ([.comma] ++ ·) ++ (.closing :: rest)) :=
    Ends.flatMap_append ⟨by decide, positive⟩ ((ends_cons _ _).mpr ⟨by decide, positive⟩) pieces
  calc
    resume (.awaiting stack)
          (.name function :: .opening :: interleave [.comma] (piece :: pieces) ++ [.closing] ++
            rest) =
        resume (.awaiting (.argument function [] :: stack))
          (piece ++ (pieces.flatMap ([.comma] ++ ·) ++ (.closing :: rest))) := by
      simp only [interleave, List.append_assoc, List.cons_append, List.nil_append]
      rfl
    _ = resume (.holding first (.argument function [] :: stack))
          (pieces.flatMap ([.comma] ++ ·) ++ (.closing :: rest)) :=
      head _ _ (below_delimiter rfl positive _) continued
    _ = _ := resume_arguments positive each function [] first rest

/-! ## Case expressions -/

/-- The tokens of a branch of a case expression. -/
def branchTokens (branch : List Token × List Token) : List Token :=
  .keyword .when :: branch.1 ++ .keyword .then :: branch.2

/-- The tokens at the end of a case expression. -/
def otherwiseTokens (otherwise : List Token) : List Token :=
  .keyword .else :: otherwise ++ [.keyword .end]

/-- The tokens of a condition and a value read as a branch. -/
def ReadsBranch
    (level : Nat)
    (pieces : List Token × List Token)
    (branch : Expression × Expression) : Prop :=
  Reads level pieces.1 branch.1 ∧ Reads level pieces.2 branch.2

section

variable
  {level : Nat}
  {stack : List Frame}
  {rest : List Token}

/-- What follows the value of a branch: another branch, or the end. -/
theorem ends_branches
    (positive : 1 ≤ level)
    (pieces : List (List Token × List Token))
    (otherwise : List Token) :
    Ends level (pieces.flatMap branchTokens ++ (otherwiseTokens otherwise ++ rest)) := by
  cases pieces <;> exact (ends_cons _ _).mpr ⟨by decide, positive⟩

/-- A branch that has been opened is read up to its value. -/
theorem resume_branch
    (positive : 1 ≤ level)
    {pieces : List Token × List Token}
    {branch : Expression × Expression}
    (reads : ReadsBranch level pieces branch)
    (before : List (Expression × Expression))
    (ends : Ends level rest) :
    resume (.awaiting (.condition before :: stack))
        (pieces.1 ++ (.keyword .then :: (pieces.2 ++ rest))) =
      resume (.holding branch.2 (.value before branch.1 :: stack)) rest := by
  calc
    resume (.awaiting (.condition before :: stack))
          (pieces.1 ++ (.keyword .then :: (pieces.2 ++ rest))) =
        resume (.holding branch.1 (.condition before :: stack))
          (.keyword .then :: (pieces.2 ++ rest)) :=
      reads.1 _ _ (below_delimiter rfl positive _) ((ends_cons _ _).mpr ⟨by decide, positive⟩)
    _ = resume (.awaiting (.value before branch.1 :: stack)) (pieces.2 ++ rest) :=
      resume_shift (below_delimiter rfl (by decide) _) branch.1
    _ = resume (.holding branch.2 (.value before branch.1 :: stack)) rest :=
      reads.2 _ _ (below_delimiter rfl positive _) ends

/-- Further branches of a case expression, up to its end. -/
theorem resume_branches
    (positive : 1 ≤ level)
    {pieces : List (List Token × List Token)}
    {branches : List (Expression × Expression)}
    (each : List.Forall₂ (ReadsBranch level) pieces branches)
    {lastPiece : List Token}
    {otherwise : Expression}
    (last : Reads level lastPiece otherwise)
    (before : List (Expression × Expression))
    (current : Expression × Expression) :
    resume (.holding current.2 (.value before current.1 :: stack))
        (pieces.flatMap branchTokens ++ (otherwiseTokens lastPiece ++ rest)) =
      resume (.holding (.cases (before ++ current :: branches) otherwise) stack) rest := by
  induction each generalizing before current with
  | nil =>
      calc
        resume (.holding current.2 (.value before current.1 :: stack))
              (otherwiseTokens lastPiece ++ rest) =
            resume (.awaiting (.otherwise (before ++ [current]) :: stack))
              (lastPiece ++ (.keyword .end :: rest)) := by
          rw [otherwiseTokens, List.append_assoc, List.cons_append]
          exact resume_shift (below_delimiter rfl (by decide) _) current.2
        _ = resume (.holding otherwise (.otherwise (before ++ [current]) :: stack))
              (.keyword .end :: rest) :=
          last _ _ (below_delimiter rfl positive _) ((ends_cons _ _).mpr ⟨by decide, positive⟩)
        _ = _ := resume_shift (below_delimiter rfl (by decide) _) otherwise
  | @cons piece branch pieces branches head tail inductionHypothesis =>
      have continued : Ends level
          (pieces.flatMap branchTokens ++ (otherwiseTokens lastPiece ++ rest)) :=
        ends_branches positive pieces lastPiece
      rw [List.flatMap_cons, branchTokens, List.append_assoc, List.cons_append, List.cons_append,
        resume_shift (below_delimiter rfl (by decide) _), List.append_assoc, List.cons_append]
      calc
        resume (.awaiting (.condition (before ++ [current]) :: stack))
              (piece.1 ++ (.keyword .then :: (piece.2 ++ (pieces.flatMap branchTokens ++
                (otherwiseTokens lastPiece ++ rest))))) =
            resume (.holding branch.2 (.value (before ++ [current]) branch.1 :: stack))
              (pieces.flatMap branchTokens ++ (otherwiseTokens lastPiece ++ rest)) :=
          resume_branch positive head _ continued
        _ = _ := by rw [inductionHypothesis, List.append_assoc, List.singleton_append]

end

theorem Reads.cases
    {level outer : Nat}
    {piece : List Token × List Token}
    {pieces : List (List Token × List Token)}
    {branch : Expression × Expression}
    {branches : List (Expression × Expression)}
    {lastPiece : List Token}
    {otherwise : Expression}
    (positive : 1 ≤ level)
    (head : ReadsBranch level piece branch)
    (each : List.Forall₂ (ReadsBranch level) pieces branches)
    (last : Reads level lastPiece otherwise) :
    Reads outer
      (.keyword .case :: (piece :: pieces).flatMap branchTokens ++
        otherwiseTokens lastPiece)
      (.cases (branch :: branches) otherwise) := by
  intro stack rest _ _
  have continued : Ends level
      (pieces.flatMap branchTokens ++ (otherwiseTokens lastPiece ++ rest)) :=
    ends_branches positive pieces lastPiece
  calc
    resume (.awaiting stack)
          (.keyword .case :: (piece :: pieces).flatMap branchTokens ++
            otherwiseTokens lastPiece ++ rest) =
        resume (.awaiting (.condition [] :: stack))
          (piece.1 ++ (.keyword .then :: (piece.2 ++ (pieces.flatMap branchTokens ++
            (otherwiseTokens lastPiece ++ rest))))) := by
      simp only [List.flatMap_cons, branchTokens, List.append_assoc, List.cons_append]
      rfl
    _ = resume (.holding branch.2 (.value [] branch.1 :: stack))
          (pieces.flatMap branchTokens ++ (otherwiseTokens lastPiece ++ rest)) :=
      resume_branch positive head [] continued
    _ = _ := resume_branches positive each last [] branch

end Reading
end RuleClause
