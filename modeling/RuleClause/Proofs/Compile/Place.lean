import RuleClause.Proofs.Compile.Reach

/-!
# Where rules stand

The trail that leads to a rule says where the rule stands in the whole: which
operators and which indices are on its path, and how many levels are around it.  A
compilation gives every rule that it comes to the position at the end of its trail.
-/

namespace RuleClause

namespace Position

/-- The position of a rule directly inside the one that stands at a position. -/
def child (position : Position) (parent : Rule) (index : Nat) : Position :=
  match parent with
  | .operation operator arguments => position.operand operator arguments index
  | _ => ⟨position.valuePath, some index, position.depth + 1⟩

/-- The position at the end of a trail, which leads outwards to a whole rule. -/
def ofTrail : List (Rule × Nat) → Position
  | [] => .start
  | (parent, index) :: trail => (ofTrail trail).child parent index

@[simp]
theorem ofTrail_nil : ofTrail [] = .start :=
  rfl

@[simp]
theorem ofTrail_cons (parent : Rule) (index : Nat) (trail : List (Rule × Nat)) :
    ofTrail ((parent, index) :: trail) = (ofTrail trail).child parent index :=
  rfl

theorem depth_child (position : Position) (parent : Rule) (index : Nat) :
    (position.child parent index).depth = position.depth + 1 := by
  cases parent with
  | operation operator arguments => exact position.operand_depth operator arguments index
  | null | bool | number | string | list => rfl

/-- There are as many levels around a rule as there are steps on its trail. -/
theorem depth_ofTrail (trail : List (Rule × Nat)) : (ofTrail trail).depth = trail.length := by
  induction trail with
  | nil => rfl
  | cons step trail inductionHypothesis =>
      rw [ofTrail_cons, depth_child, inductionHypothesis, List.length_cons]

/-- A part of an operand stands directly inside of it. -/
theorem part_eq_child
    {operand part : Rule}
    {index : Nat}
    (position : Position)
    (found : operand.parts[index]? = some part) :
    position.part operand index = position.child operand index := by
  cases operand with
  | operation operator arguments =>
      cases arguments with
      | list items => rfl
      | null | bool | number | string | operation => simp [Rule.parts] at found
  | null | bool | number | string | list => rfl

end Position

theorem Rule.children_getElem?_of_parts
    {rule part : Rule}
    {index : Nat}
    (found : rule.parts[index]? = some part) :
    rule.children[index]? = some part := by
  unfold parts at found
  split at found
  · exact found
  · exact found
  · simp at found

/-- What a selection picks stands at the end of a trail. -/
theorem Selection.exists_trail_of_pick?
    {root arguments rule : Rule}
    {operator : String}
    {trail : List (Rule × Nat)}
    {selection : Selection}
    {place : Position}
    (occurs : root.Occurs trail (.operation operator arguments))
    (picked : selection.pick? operator arguments (.ofTrail trail) = some (rule, place)) :
    ∃ inner, root.Occurs inner rule ∧ place = .ofTrail inner := by
  cases selection with
  | operand index =>
      obtain ⟨operand, found, same⟩ := Option.map_eq_some_iff.mp picked
      obtain ⟨rfl, rfl⟩ := Prod.mk.inj same
      exact ⟨_, occurs.inside found, rfl⟩
  | part index inner =>
      obtain ⟨operand, found, picked⟩ := Option.bind_eq_some_iff.mp picked
      obtain ⟨part, foundPart, same⟩ := Option.map_eq_some_iff.mp picked
      obtain ⟨rfl, rfl⟩ := Prod.mk.inj same
      have outer : root.Occurs _ operand := occurs.inside found
      refine ⟨_, outer.inside (Rule.children_getElem?_of_parts foundPart), ?_⟩
      rw [Position.part_eq_child _ foundPart]
      rfl

namespace Job

/-- The rule of a job occurs in a whole rule, and the job knows where. -/
def IsPlaced (root : Rule) (job : Job) : Prop :=
  ∃ trail, root.Occurs trail job.rule ∧ job.position = .ofTrail trail

variable {context : Context (Except Error)} {root : Rule} {job inner : Job}

theorem isPlaced_whole (rule : Rule) : (whole rule).IsPlaced rule :=
  ⟨[], .here, rfl⟩

theorem Starts.isPlaced
    (starts : job.Starts context inner)
    (placed : job.IsPlaced root) :
    inner.IsPlaced root := by
  obtain ⟨trail, occurs, position⟩ := placed
  cases starts with
  | item found =>
      cases position
      exact ⟨_, occurs.inside found, rfl⟩
  | argument _ found =>
      cases position
      exact ⟨_, occurs.inside found, rfl⟩
  | request _ _ picked =>
      cases position
      exact Selection.exists_trail_of_pick? occurs picked

/-- Whatever a compilation of a whole rule comes to stands where its trail says. -/
theorem Reaches.isPlaced (reaches : (whole root).Reaches context job) : job.IsPlaced root := by
  induction reaches with
  | refl => exact isPlaced_whole root
  | tail _ starts inductionHypothesis => exact starts.isPlaced inductionHypothesis

end Job
end RuleClause
