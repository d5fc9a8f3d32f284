import RuleClause.Proofs.ErrorOrigin
import RuleClause.Proofs.Rule.Conversion

/-!
# Reading and compiling count levels alike

Levels are counted once when a JSON value is read and once more when the rule is
compiled.  A compilation stands as deep in a rule as the trail is long, and the trail
is no longer than the levels that the reading has counted.  So a rule that has been
read is never too deep to be compiled with the same limit.
-/

namespace RuleClause
namespace Target

variable {target : Target} {rule : Rule} {error : Error}

/-- Only a rule with an operation that has too many levels around it is too deep. -/
theorem not_fits_of_condition
    (failed : target.condition (.rule rule) = .error error)
    (deep : error.code = .maxDepthExceeded) :
    ¬ rule.Fits 0 target.maxDepth := by
  intro fits
  cases rule with
  | operation operator arguments =>
      obtain ⟨origin, reason, runs, raises, retells⟩ := exists_origin_of_condition failed
      obtain ⟨trail, occurs, position⟩ := runs.reaches.isPlaced
      rw [retells.code_eq] at deep
      obtain ⟨name, operands, _, operation, _, ⟨_, below⟩ | ⟨shallow, _⟩⟩ := raises.owned
      · rw [operation] at occurs
        rw [position, Position.depth_ofTrail] at below
        change target.maxDepth < trail.length at below
        have bound := fits trail name operands occurs
        omega
      · exact absurd deep shallow
  | null | bool | number | string | list =>
      rw [condition_rule_eq_error_iff] at failed
      cases failed
      cases deep

/-- Only a rule that holds an operation below the limit is too deep. -/
theorem exists_deep_of_condition
    (failed : target.condition (.rule rule) = .error error)
    (deep : error.code = .maxDepthExceeded) :
    ∃ trail inner, rule.Occurs trail inner ∧ target.maxDepth < trail.length := by
  by_contra shallow
  apply not_fits_of_condition failed deep
  intro trail operator arguments occurs
  by_contra below
  exact shallow ⟨trail, .operation operator arguments, occurs, by omega⟩

end Target

/-- A rule that has been read is not too deep to be compiled with the same limit. -/
theorem code_ne_maxDepthExceeded_of_ofJson
    (target : Target)
    (value : Json)
    (rule : Rule)
    (read : Rule.ofJson target.maxDepth value = .ok rule)
    (error : Error)
    (failed : target.condition (.rule rule) = .error error) :
    error.code ≠ .maxDepthExceeded := by
  intro deep
  obtain ⟨written, bound⟩ := (Rule.ofJsonAt_eq_ok_iff _ value .start rule).mp read
  obtain ⟨trail, inner, occurs, below⟩ := Target.exists_deep_of_condition failed deep
  have length := occurs.length_add_levels_le
  rw [written] at length
  simp only [Position.start] at bound
  omega

/-- A reduction whose reducer searches a list for an operation that no target knows. -/
def deepReduction : Rule :=
  .operation "reduce" (.list
    [.operation "var" (.string "items"),
     .operation "+" (.list
      [.operation "var" (.string "accumulator"),
       .operation "!" (.operation "in" (.list
        [.string "low", .list [.operation "bogus" (.list [])]]))]),
     .null])

/-- The place of that operation, which has five levels around it. -/
def deepPlace : Path :=
  .item (.member (.item (.member (.item (.member (.item (.member (.member .start "reduce") "+") 1)
    "!") 1) "in") 1) "bogus") 0

/-- One level less is too little for the reduction, and five are enough. -/
theorem code_ne_maxDepthExceeded_deepReduction :
    ((Target.ofDialect .bigQuery).withMaxDepth 4).condition (.rule deepReduction) =
      .error ⟨.tooDeep 4, some "in", some deepPlace, none⟩ ∧
    Rule.ofJson 5 deepReduction.toJson = .ok deepReduction ∧
    ((Target.ofDialect .bigQuery).withMaxDepth 5).condition (.rule deepReduction) =
      .error ⟨.unsupportedOperator "bogus", some "bogus", some deepPlace, none⟩ ∧
    Fault.code (.unsupportedOperator "bogus") ≠ .maxDepthExceeded := by
  have read : Rule.ofJson 5 deepReduction.toJson = .ok deepReduction := rfl
  have failed :
      ((Target.ofDialect .bigQuery).withMaxDepth 5).condition (.rule deepReduction) =
        .error ⟨.unsupportedOperator "bogus", some "bogus", some deepPlace, none⟩ := rfl
  exact ⟨rfl, read, failed, code_ne_maxDepthExceeded_of_ofJson
    ((Target.ofDialect .bigQuery).withMaxDepth 5) _ _ read _ failed⟩

end RuleClause
