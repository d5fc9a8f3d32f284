import RuleClause.Proofs.Compile.Origin
import RuleClause.Proofs.Target

/-!
# Errors point at their origin

A rule that does not compile holds an operation that is at fault.  Unless a rule is
too deep, the error names the operator of that operation and a place that the
operation speaks of: its own place, that of an operand, or that of an item of an
operand that is a list.  The operations around it report the error as it is.
-/

namespace RuleClause

namespace Target

theorem replies_context (target : Target) : target.context.Replies := by
  intro name called registered arguments
  obtain ⟨handler, _, rfl⟩ := (custom_context_eq_some_iff target name called).mp registered
  exact ⟨_, rfl⟩

/-- Behind the failure of an operation there is a job that raises the error. -/
theorem exists_origin_of_condition
    {target : Target}
    {operator : String}
    {arguments : Rule}
    {error : Error}
    (failed : target.condition (.rule (.operation operator arguments)) = .error error) :
    ∃ origin reason, (Job.whole (.operation operator arguments)).Runs target.context origin ∧
      origin.Raises target.context reason ∧ error.Retells reason := by
  rw [condition_rule_eq_error_iff] at failed
  exact Job.exists_origin target.replies_context failed

end Target

/--
An error stems from an operation inside a rule: the one at the end of the trail.  If
the handler of a custom operator has failed, the cause is its reply to the SQL of the
operands.
-/
structure Error.StemsFrom
    (error : Error)
    (target : Target)
    (rule : Rule)
    (trail : List (Rule × Nat))
    (operator : String)
    (arguments : Rule) : Prop where
  /-- The rule holds the operation. -/
  occurs : rule.Occurs trail (.operation operator arguments)
  /-- The error names its operator. -/
  named : error.operator = some operator
  /-- The operation fails with the error where it stands. -/
  raised : ∃ scope hint,
    (Job.mk (.operation operator arguments) (.ofTrail trail) scope hint).outcome target.context =
      .error error
  /-- The error gives a place of which the operation speaks. -/
  located : ∃ path, error.path = some path ∧
    Call.Covers ⟨operator, arguments, (Position.ofTrail trail).operationPath operator⟩ path
  /-- The error of a custom operator is the one of its handler. -/
  caused : error.code = .customOperatorFailed → ∃ handler scope parts cause,
    target.registry.get? operator = some handler ∧
    List.Forall₂ (fun operand part => operand.whole scope none = .ok part)
      (operandsAt target.context operator arguments (.ofTrail trail)) parts ∧
    handler.answer operator (Sql.renderAll target.dialect parts) target.dialect = .error cause ∧
    error.cause = some cause

namespace Job

variable {target : Target} {rule : Rule} {job outer inner : Job} {error reason : Error}

/-- What a job raises in the compilation of a rule stems from the operation of the job. -/
theorem Raises.stemsFrom
    (raises : job.Raises target.context error)
    (reached : (whole rule).Runs target.context job)
    (shallow : error.code ≠ .maxDepthExceeded) :
    ∃ trail operator arguments, error.StemsFrom target rule trail operator arguments := by
  obtain ⟨trail, occurs, position⟩ := reached.reaches.isPlaced
  obtain ⟨operator, arguments, path, operation, located, deep | ⟨_, named, covers⟩⟩ := raises.owned
  · exact absurd deep.1 shallow
  · have outcome := raises.outcome_eq_error
    rw [Job.outcome, operation, position] at outcome
    rw [operation] at occurs
    rw [position] at covers
    refine ⟨trail, operator, arguments, occurs, named, ⟨job.scope, job.hint, outcome⟩,
      ⟨path, located, covers⟩, ?_⟩
    intro code
    obtain ⟨_, _, called, parts, cause, same, registered, compiled, replied, caused⟩ :=
      raises.handler_of_code code
    obtain ⟨rfl, rfl⟩ := Rule.operation.inj (operation.symm.trans same)
    obtain ⟨handler, found, rfl⟩ :=
      (target.custom_context_eq_some_iff operator called).mp registered
    rw [position] at compiled
    exact ⟨handler, job.scope, parts, cause, found, compiled, Except.ok.inj replied, caused⟩

/--
A job that has begun another reports the failure of that one as it is.  Only an
operation that is too deep names no operator, and then the operation around it does.
-/
theorem Begins.exists_retells
    (begins : outer.Begins target.context inner)
    (failed : inner.outcome target.context = .error reason) :
    ∃ error, outer.outcome target.context = .error error ∧ error.Retells reason ∧
      (reason.code ≠ .maxDepthExceeded → error = reason) := by
  obtain ⟨origin, raised, _, raises, retells⟩ := exists_origin target.replies_context failed
  obtain ⟨operator, _, path, _, located, named⟩ := raises.owned
  have reported := retells_report outer (retells.path.trans located)
  refine ⟨outer.report reason, begins.outcome_eq_error failed, reported, ?_⟩
  intro shallow
  rw [retells.code_eq] at shallow
  rcases named with ⟨deep, _⟩ | ⟨_, named, _⟩
  · exact absurd deep shallow
  · exact reported.eq_of_operator (retells.operator operator named)

end Job

/--
Errors point at their origin.  If an operation does not compile and is not too deep,
the error stems from an operation inside of it; and whatever fails inside of another
job is reported there with the same fault, place, cause and operator.
-/
theorem condition_error_stems_from_operation
    (target : Target)
    (operator : String)
    (arguments : Rule)
    (error : Error)
    (failed : target.condition (.rule (.operation operator arguments)) = .error error)
    (shallow : error.code ≠ .maxDepthExceeded) :
    (∃ trail name operands,
      error.StemsFrom target (.operation operator arguments) trail name operands) ∧
    ∀ (outer inner : Job) (reason : Error), outer.Begins target.context inner →
      inner.outcome target.context = .error reason →
      ∃ passed, outer.outcome target.context = .error passed ∧ passed.Retells reason ∧
        (reason.code ≠ .maxDepthExceeded → passed = reason) := by
  refine ⟨?_, fun outer inner reason begins refused => begins.exists_retells refused⟩
  obtain ⟨origin, reason, runs, raises, retells⟩ := Target.exists_origin_of_condition failed
  rw [retells.code_eq] at shallow
  obtain ⟨trail, name, operands, stems⟩ := raises.stemsFrom runs shallow
  obtain rfl := retells.eq_of_operator stems.named
  exact ⟨trail, name, operands, stems⟩

/-- A target whose custom operator fails. -/
def ratingTarget : Target :=
  ⟨.spanner, none, Registry.empty.insert "rate" (.failing "no rating") (by decide), 8⟩

/-- A search through a list that holds a custom operator with a bare argument. -/
def ratedSearch : Rule :=
  .operation "in" (.list
    [.operation "var" (.string "level"),
     .list [.string "low", .operation "rate" (.operation "var" (.string "name"))]])

/-- The job of compiling the search as the second operand of a conjunction. -/
def ratedSearchJob : Job :=
  ⟨ratedSearch, ⟨Path.start.member "and", some 1, 1⟩, .row, none⟩

/-- The failure of the custom operator in that search. -/
def ratingError : Error :=
  { fault := .customFailed "rate"
    operator := some "rate"
    path := some ((((Path.start.member "and").member "in").item 1 |>.item 1).member "rate" |>.item 1)
    cause := some "no rating" }

theorem condition_error_stems_from_rating :
    ratingError.text =
      "[E102] at $.and.in[1][1].rate[1]: custom operator 'rate' failed: no rating" ∧
    (∃ trail name operands, ratingError.StemsFrom ratingTarget
      (.operation "and" (.list [.bool true, ratedSearch])) trail name operands) ∧
    ratedSearchJob.outcome ratingTarget.context = .error ratingError ∧
    (Job.whole (.operation "and" (.list [.bool true, ratedSearch]))).outcome
      ratingTarget.context = .error ratingError := by
  have failed :
      ratingTarget.condition (.rule (.operation "and" (.list [.bool true, ratedSearch]))) =
        .error ratingError := rfl
  have searched : ratedSearchJob.outcome ratingTarget.context = .error ratingError := rfl
  have shallow : ratingError.code ≠ .maxDepthExceeded := by decide
  have begins : (Job.whole (.operation "and" (.list [.bool true, ratedSearch]))).Begins
      ratingTarget.context ratedSearchJob :=
    @Job.Begins.request _ .and _ _ _ _ _ _ ⟨.operand 1, .row, none⟩ (Nat.zero_le _) rfl
      (.later rfl .here) rfl
  obtain ⟨stems, frames⟩ := condition_error_stems_from_operation _ _ _ _ failed shallow
  obtain ⟨passed, whole, _, same⟩ := frames _ _ _ begins searched
  rw [same shallow] at whole
  exact ⟨by decide, stems, searched, whole⟩

end RuleClause
