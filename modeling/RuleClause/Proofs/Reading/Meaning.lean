import RuleClause.Proofs.Reading.Piece
import RuleClause.Sql.Render

/-!
# What written expressions denote

An expression denotes a value for each row when its text, in a dialect, reads as an
expression with that value.  The level says where the text may stand.  Each form of
expression denotes what its operator makes of the values of its operands.
-/

namespace RuleClause
namespace Reading

/-- A value for each row, whatever the database. -/
abbrev Meaning : Type :=
  Interpretation → Row → Value

/-- The text of an expression reads as an expression of a level with the given meaning. -/
def Denotes (dialect : Dialect) (level : Nat) (sql : Sql) (meaning : Meaning) : Prop :=
  ∃ tokens expression,
    tokenize (sql.render dialect) = some tokens ∧ Reads level tokens expression ∧
      ∀ interpretation row,
        expression.eval interpretation row = some (meaning interpretation row)

/-- The text of what denotes a value has this value. -/
theorem Denotes.evaluate_eq
    {dialect : Dialect}
    {level : Nat}
    {sql : Sql}
    {meaning : Meaning}
    (denotes : Denotes dialect level sql meaning)
    (interpretation : Interpretation)
    (row : Row) :
    evaluate interpretation row (sql.render dialect) = some (meaning interpretation row) := by
  obtain ⟨tokens, expression, tokenizes, reads, evaluates⟩ := denotes
  have complete : resume (.awaiting []) tokens = some expression := by
    have through := reads [] [] (by simp [Below]) ends_nil
    rwa [List.append_nil] at through
  simp [evaluate, read, tokenizes, complete, evaluates]

/-- Expressions that denote values are written, read and evaluated one by one. -/
theorem Denotes.each
    {dialect : Dialect}
    {level : Nat}
    {sqls : List Sql}
    {meanings : List Meaning}
    (denote : List.Forall₂ (Denotes dialect level) sqls meanings) :
    ∃ pieces expressions,
      List.Forall₂ (fun text piece => tokenize text = some piece)
        (sqls.map (Sql.render dialect)) pieces ∧
      List.Forall₂ (Reads level) pieces expressions ∧
      ∀ interpretation row, List.Forall₂
        (fun (expression : Expression) (meaning : Meaning) =>
          expression.eval interpretation row = some (meaning interpretation row))
        expressions meanings := by
  induction denote with
  | nil => exact ⟨[], [], .nil, .nil, fun _ _ => .nil⟩
  | cons head _ inductionHypothesis =>
      obtain ⟨tokens, expression, tokenizes, reads, evaluates⟩ := head
      obtain ⟨pieces, expressions, written, read, evaluated⟩ := inductionHypothesis
      exact ⟨tokens :: pieces, expression :: expressions, .cons tokenizes written,
        .cons reads read, fun interpretation row =>
          .cons (evaluates interpretation row) (evaluated interpretation row)⟩

namespace Denotes

variable
  {dialect : Dialect}
  {level outer : Nat}
  {sql : Sql}
  {meaning : Meaning}

theorem mono {lower : Nat} (denotes : Denotes dialect level sql meaning) (bound : lower ≤ level) :
    Denotes dialect lower sql meaning := by
  obtain ⟨tokens, expression, tokenizes, reads, evaluates⟩ := denotes
  exact ⟨tokens, expression, tokenizes, reads.mono bound, evaluates⟩

/-- What an expression denotes depends on its text only. -/
theorem of_render_eq
    {other : Sql}
    (denotes : Denotes dialect level sql meaning)
    (same : sql.render dialect = other.render dialect) :
    Denotes dialect level other meaning := by
  unfold Denotes at denotes ⊢
  rwa [← same]

/-! ## Literals and columns -/

theorem null : Denotes dialect level .null fun _ _ => .null :=
  ⟨_, _, (by decide : tokenize "NULL" = some [.keyword .null]), .null, fun _ _ => rfl⟩

theorem bool (value : Bool) : Denotes dialect level (.bool value) fun _ _ => .truth value := by
  refine ⟨_, _, ?_, .bool value, fun _ _ => rfl⟩
  cases value
  · exact (by decide : tokenize "FALSE" = some [.keyword .false])
  · exact (by decide : tokenize "TRUE" = some [.keyword .true])

theorem column {name : String} (identifier : IsIdentifier name) :
    Denotes dialect level (.column name) fun _ row => .ofNumber (row name) :=
  ⟨_, _, tokenize_of_isIdentifier identifier, .column name, fun _ _ => rfl⟩

theorem digits (value : Nat) :
    Denotes dialect level (.number (String.ofList (Nat.toDigits 10 value)))
      fun _ _ => .number value :=
  ⟨_, _, tokenize_toDigits value, .numeral value, fun _ _ => rfl⟩

theorem natural (value : Nat) : Denotes dialect level (.integer value) fun _ _ => .number value :=
  digits value

/-! ## One operand -/

variable {number : Interpretation → Row → Option Int} {truth : Interpretation → Row → Option Bool}

theorem minus
    (word : ∀ character ∈ (sql.render dialect).toList.head?, isWordCharacter character = true)
    (denotes : Denotes dialect 8 sql fun interpretation row =>
      .ofNumber (number interpretation row)) :
    Denotes dialect 7 (.minus sql) fun interpretation row =>
      .ofNumber ((number interpretation row).map fun value => -value) := by
  obtain ⟨tokens, expression, tokenizes, reads, evaluates⟩ := denotes
  refine ⟨_, _, tokenize_minus_append word tokenizes, reads.minus, fun interpretation row => ?_⟩
  simp [Expression.eval, evaluates]

theorem minusDigits (value : Nat) :
    Denotes dialect 7 (.number ("-" ++ String.ofList (Nat.toDigits 10 value)))
      fun _ _ => .number (-value) := by
  have plain : Denotes dialect 8 (.number (String.ofList (Nat.toDigits 10 value)))
      fun _ _ => .ofNumber (some value) :=
    digits value
  refine of_render_eq (minus ?_ plain) rfl
  intro character found
  have member : character ∈ Nat.toDigits 10 value :=
    List.mem_of_head? (by simpa [Sql.render] using found)
  exact isWordCharacter_of_isDigit
    (Nat.isDigit_of_mem_toDigits (by decide) (by decide) member)

theorem minusGroup
    (denotes : Denotes dialect level sql fun interpretation row =>
      .ofNumber (number interpretation row))
    (positive : 1 ≤ level) :
    Denotes dialect 7 (.minusGroup sql) fun interpretation row =>
      .ofNumber ((number interpretation row).map fun value => -value) := by
  obtain ⟨tokens, expression, tokenizes, reads, evaluates⟩ := denotes
  have written : tokenize ("-" ++ Dialect.parenthesized (sql.render dialect)) =
      some (.operator .subtract :: (.opening :: tokens ++ [.closing])) :=
    tokenize_append_of_startsApart (startsApart_append (startsApart_append (by decide)))
      (show _ = some [.operator .subtract] by decide) (tokenize_parenthesized tokenizes)
  refine ⟨_, _, written, (reads.parenthesized positive).minus, fun interpretation row => ?_⟩
  simp [Expression.eval, evaluates]

theorem not
    (denotes : Denotes dialect level sql fun interpretation row =>
      .ofTruth (truth interpretation row))
    (positive : 1 ≤ level) :
    Denotes dialect 3 (.not sql) fun interpretation row =>
      .ofTruth ((truth interpretation row).map fun value => ! value) := by
  obtain ⟨tokens, expression, tokenizes, reads, evaluates⟩ := denotes
  have written : tokenize ("NOT " ++ Dialect.parenthesized (sql.render dialect)) =
      some (.keyword .not :: (.opening :: tokens ++ [.closing])) :=
    tokenize_append_of_endsApart (by decide) (show _ = some [.keyword .not] by decide)
      (tokenize_parenthesized tokenizes)
  refine ⟨_, _, written, (reads.parenthesized positive).not, fun interpretation row => ?_⟩
  simp [Expression.eval, evaluates]

theorem test
    {result : Meaning}
    (denotes : Denotes dialect 4 sql meaning)
    (check : Test)
    (agrees : ∀ interpretation row,
      examine check (meaning interpretation row) = some (result interpretation row)) :
    Denotes dialect 4 (.test sql check) result := by
  obtain ⟨tokens, expression, tokenizes, reads, evaluates⟩ := denotes
  have written : tokenize (sql.render dialect ++ " " ++ check.keywords) =
      some (tokens ++ testTokens check) := by
    rw [String.append_assoc]
    refine tokenize_append_of_startsApart ?_ tokenizes ?_ <;> cases check <;> decide
  refine ⟨_, _, written, reads.test check, fun interpretation row => ?_⟩
  simp [Expression.eval, evaluates, agrees]

/-! ## Operators -/

theorem tokenize_symbol (operator : BinaryOp) :
    tokenize (" " ++ operator.symbol ++ " ") = some [.operator operator] := by
  cases operator <;> decide

theorem startsApart_symbol (operator : BinaryOp) :
    startsApart (" " ++ operator.symbol ++ " ") = true := by
  cases operator <;> decide

theorem endsApart_symbol (operator : BinaryOp) :
    endsApart (" " ++ operator.symbol ++ " ") = true := by
  cases operator <;> decide

/-- Operands with an operator between them have the value of combining theirs from the left. -/
theorem eval_foldl_binary
    (interpretation : Interpretation)
    (row : Row)
    (operator : BinaryOp)
    {operands : List Expression}
    {meanings : List Meaning}
    (each : List.Forall₂
      (fun (expression : Expression) (meaning : Meaning) =>
        expression.eval interpretation row = some (meaning interpretation row))
      operands meanings)
    (first : Expression) :
    (operands.foldl (.binary operator) first).eval interpretation row =
      (first.eval interpretation row).bind fun value =>
        (meanings.map (· interpretation row)).foldlM (combine interpretation operator) value := by
  induction each generalizing first with
  | nil => simp
  | cons head tail inductionHypothesis =>
      rw [List.foldl_cons, inductionHypothesis, Expression.eval]
      simp only [head, List.map_cons, List.foldlM_cons, Option.bind_eq_bind]
      cases first.eval interpretation row <;> rfl

/-- Texts of operands with an operator between them read as a chain of the operator. -/
theorem exists_chain
    {operator : BinaryOp}
    {sqls : List Sql}
    {meanings : List Meaning}
    {result : Meaning}
    (head : Denotes dialect (precedence operator) sql meaning)
    (each : List.Forall₂ (Denotes dialect (precedence operator + 1)) sqls meanings)
    (agrees : ∀ interpretation row,
      (meanings.map (· interpretation row)).foldlM (combine interpretation operator)
        (meaning interpretation row) = some (result interpretation row)) :
    ∃ tokens expression,
      tokenize (Dialect.between operator.symbol ((sql :: sqls).map (Sql.render dialect))) =
          some tokens ∧
        Reads (precedence operator) tokens expression ∧
        ∀ interpretation row,
          expression.eval interpretation row = some (result interpretation row) := by
  obtain ⟨piece, first, tokenizes, reads, evaluates⟩ := head
  obtain ⟨pieces, expressions, written, read, evaluated⟩ := Denotes.each each
  refine ⟨_, _, tokenize_intercalate (startsApart_symbol operator) (endsApart_symbol operator)
    (tokenize_symbol operator) (.cons tokenizes written), reads.chain read, ?_⟩
  intro interpretation row
  rw [eval_foldl_binary interpretation row operator (evaluated interpretation row), evaluates]
  exact agrees interpretation row

theorem binary
    {operator : BinaryOp}
    {left right : Sql}
    {leftMeaning rightMeaning result : Meaning}
    (leftSide : Denotes dialect (precedence operator) left leftMeaning)
    (rightSide : Denotes dialect (precedence operator + 1) right rightMeaning)
    (agrees : ∀ interpretation row,
      combine interpretation operator (leftMeaning interpretation row)
        (rightMeaning interpretation row) = some (result interpretation row)) :
    Denotes dialect (precedence operator) (.binary operator left right) result := by
  obtain ⟨tokens, expression, tokenizes, reads, evaluates⟩ :=
    exists_chain leftSide (.cons rightSide .nil) fun interpretation row =>
      (by simpa using agrees interpretation row)
  refine ⟨tokens, expression, ?_, reads, evaluates⟩
  rw [Sql.render]
  exact tokenizes

theorem group
    {operator : BinaryOp}
    {sqls : List Sql}
    {meanings : List Meaning}
    {result : Meaning}
    (head : Denotes dialect (precedence operator) sql meaning)
    (each : List.Forall₂ (Denotes dialect (precedence operator + 1)) sqls meanings)
    (agrees : ∀ interpretation row,
      (meanings.map (· interpretation row)).foldlM (combine interpretation operator)
        (meaning interpretation row) = some (result interpretation row)) :
    Denotes dialect outer (.group operator (sql :: sqls)) result := by
  obtain ⟨tokens, expression, tokenizes, reads, evaluates⟩ := exists_chain head each agrees
  have positive : 1 ≤ precedence operator := by
    cases operator <;> decide
  refine ⟨_, expression, ?_, reads.parenthesized positive, evaluates⟩
  rw [Sql.render, Sql.renderAll_eq_map]
  exact tokenize_parenthesized tokenizes

/-- Expressions with an operator between them may stand wherever each of them may. -/
theorem joined
    {operator : BinaryOp}
    {sqls : List Sql}
    {meanings : List Meaning}
    {result : Meaning}
    (bound : precedence operator + 1 ≤ level)
    (head : Denotes dialect level sql meaning)
    (each : List.Forall₂ (Denotes dialect level) sqls meanings)
    (agrees : ∀ interpretation row,
      (meanings.map (· interpretation row)).foldlM (combine interpretation operator)
        (meaning interpretation row) = some (result interpretation row)) :
    Denotes dialect level (.joined operator (sql :: sqls)) result := by
  cases each with
  | nil =>
      have same : meaning = result := by
        funext interpretation row
        simpa using agrees interpretation row
      exact same ▸ head
  | cons second rest =>
      exact group (head.mono (by omega))
        (.cons (second.mono bound) (rest.imp fun _ _ denotes => denotes.mono bound)) agrees

/-! ## Calls -/

theorem evalAll_of_forall₂
    {interpretation : Interpretation}
    {row : Row}
    {expressions : List Expression}
    {meanings : List Meaning}
    (each : List.Forall₂
      (fun (expression : Expression) (meaning : Meaning) =>
        expression.eval interpretation row = some (meaning interpretation row))
      expressions meanings) :
    Expression.evalAll interpretation row expressions =
      some (meanings.map (· interpretation row)) := by
  induction each with
  | nil => rfl
  | cons head _ inductionHypothesis => simp [Expression.evalAll, head, inductionHypothesis]

theorem tokenize_call
    {function : String}
    (identifier : IsIdentifier function)
    {texts : List String}
    {pieces : List (List Token)}
    (tokenizes : List.Forall₂ (fun text piece => tokenize text = some piece) texts pieces) :
    tokenize (Dialect.call function texts) =
      some (.name function :: .opening :: interleave [.comma] pieces ++ [.closing]) := by
  have listed : tokenize (Dialect.commas texts) = some (interleave [.comma] pieces) :=
    tokenize_intercalate (by decide) (by decide) (by decide) tokenizes
  have joined := tokenize_append_of_startsApart
    (startsApart_append (startsApart_append (by decide))) (tokenize_of_isIdentifier identifier)
    (tokenize_parenthesized listed)
  exact joined

theorem isIdentifier_name (function : Function) : IsIdentifier function.name := by
  cases function <;> decide

theorem call
    {function : Function}
    {sqls : List Sql}
    {meanings : List Meaning}
    {result : Meaning}
    (head : Denotes dialect level sql meaning)
    (each : List.Forall₂ (Denotes dialect level) sqls meanings)
    (positive : 1 ≤ level)
    (agrees : ∀ interpretation row,
      invoke interpretation function.name ((meaning :: meanings).map (· interpretation row)) =
        some (result interpretation row)) :
    Denotes dialect outer (.call function (sql :: sqls)) result := by
  obtain ⟨piece, first, tokenizes, reads, evaluates⟩ := head
  obtain ⟨pieces, expressions, written, read, evaluated⟩ := Denotes.each each
  refine ⟨_, _, ?_, reads.call positive read function.name, fun interpretation row => ?_⟩
  · rw [Sql.render, Sql.renderAll_eq_map]
    exact tokenize_call (isIdentifier_name function) (.cons tokenizes written)
  · rw [Expression.eval, evalAll_of_forall₂
      (.cons (evaluates interpretation row) (evaluated interpretation row))]
    exact agrees interpretation row

end Denotes

/-! ## Case expressions -/

/-- The text of a case expression from its first branch on. -/
def casesTail (dialect : Dialect) (branches : List (Sql × Sql)) (otherwise : Sql) : String :=
  Sql.renderBranches dialect branches ++ (" ELSE " ++ otherwise.render dialect ++ " END")

/-- The branches of a case expression, with its last value, read as such with a meaning. -/
structure DenotesBranches
    (dialect : Dialect)
    (branches : List (Sql × Sql))
    (otherwise : Sql)
    (meaning : Meaning) : Prop where
  startsApart : startsApart (casesTail dialect branches otherwise) = true
  reads : ∃ pieces lastPiece expressions last,
    tokenize (casesTail dialect branches otherwise) =
        some (pieces.flatMap branchTokens ++ otherwiseTokens lastPiece) ∧
      pieces.length = branches.length ∧
      List.Forall₂ (ReadsBranch 1) pieces expressions ∧ Reads 1 lastPiece last ∧
      ∀ interpretation row,
        Expression.evalBranches interpretation row expressions (last.eval interpretation row) =
          some (meaning interpretation row)

namespace DenotesBranches

variable {dialect : Dialect} {otherwise : Sql} {meaning : Meaning}

theorem nil (denotes : Denotes dialect 1 otherwise meaning) :
    DenotesBranches dialect [] otherwise meaning := by
  obtain ⟨tokens, expression, tokenizes, reads, evaluates⟩ := denotes
  have written : tokenize (" ELSE " ++ otherwise.render dialect ++ " END") =
      some (.keyword .else :: tokens ++ [.keyword .end]) :=
    tokenize_append_of_startsApart (by decide)
      (tokenize_append_of_endsApart (by decide) (show _ = some [.keyword .else] by decide)
        tokenizes)
      (by decide)
  refine ⟨?_, [], tokens, [], expression, ?_, rfl, .nil, reads, evaluates⟩
  · simpa [casesTail, Sql.renderBranches] using
      startsApart_append (startsApart_append (by decide))
  · simpa [casesTail, Sql.renderBranches, otherwiseTokens] using written

theorem cons
    {condition value : Sql}
    {branches : List (Sql × Sql)}
    {truth : Interpretation → Row → Option Bool}
    {chosen : Meaning}
    (denotesCondition : Denotes dialect 1 condition fun interpretation row =>
      .ofTruth (truth interpretation row))
    (denotesValue : Denotes dialect 1 value chosen)
    (rest : DenotesBranches dialect branches otherwise meaning) :
    DenotesBranches dialect ((condition, value) :: branches) otherwise fun interpretation row =>
      if truth interpretation row = some true then chosen interpretation row
      else meaning interpretation row := by
  obtain ⟨conditionTokens, conditionRead, tokenizesCondition, readsCondition, evaluatesCondition⟩ :=
    denotesCondition
  obtain ⟨valueTokens, valueRead, tokenizesValue, readsValue, evaluatesValue⟩ := denotesValue
  obtain ⟨apart, pieces, lastPiece, expressions, last, tokenizes, length, each, readsLast,
    evaluates⟩ := rest
  have text : casesTail dialect ((condition, value) :: branches) otherwise =
      " WHEN " ++ condition.render dialect ++ " THEN " ++ value.render dialect ++
        casesTail dialect branches otherwise := by
    simp only [casesTail, Sql.renderBranches, String.append_assoc]
  have opened : tokenize (" WHEN " ++ condition.render dialect ++ " THEN " ++
      value.render dialect) =
      some (.keyword .when :: conditionTokens ++ [.keyword .then] ++ valueTokens) :=
    tokenize_between (by decide) (by decide) (by decide)
      (tokenize_append_of_endsApart (by decide) (show _ = some [.keyword .when] by decide)
        tokenizesCondition) tokenizesValue
  refine ⟨?_, (conditionTokens, valueTokens) :: pieces, lastPiece,
    (conditionRead, valueRead) :: expressions, last, ?_, ?_, .cons ⟨readsCondition, readsValue⟩ each,
    readsLast, fun interpretation row => ?_⟩
  · rw [text]
    exact startsApart_append (startsApart_append (startsApart_append (startsApart_append
      (by decide))))
  · rw [text, tokenize_append_of_startsApart apart opened tokenizes]
    simp [branchTokens]
  · simp [length]
  · simp only [Expression.evalBranches, evaluatesCondition, evaluatesValue, evaluates,
      Option.bind_eq_bind, Option.bind_some, Value.truth?_ofTruth]
    split <;> rfl

/-- A case expression denotes what its branches do. -/
theorem cases
    {outer : Nat}
    {branch : Sql × Sql}
    {branches : List (Sql × Sql)}
    (denotes : DenotesBranches dialect (branch :: branches) otherwise meaning) :
    Denotes dialect outer (.cases (branch :: branches) otherwise) meaning := by
  obtain ⟨apart, pieces, lastPiece, expressions, last, tokenizes, length, each, readsLast,
    evaluates⟩ := denotes
  obtain ⟨piece, others, rfl⟩ : ∃ piece others, pieces = piece :: others :=
    List.exists_cons_of_length_eq_add_one length
  cases each with
  | cons head tail =>
      refine ⟨_, _, ?_, Reads.cases (by decide) head tail readsLast, evaluates⟩
      have text : (Sql.cases (branch :: branches) otherwise).render dialect =
          "CASE" ++ casesTail dialect (branch :: branches) otherwise := by
        simp only [Sql.render, casesTail, String.append_assoc]
      have written := tokenize_append_of_startsApart apart
        (show tokenize "CASE" = some [.keyword .case] by decide) tokenizes
      rw [text, written]
      rfl

end DenotesBranches
end Reading
end RuleClause
