import RuleClause.Proofs.Compile.Place
import RuleClause.Proofs.OperatorNames
import RuleClause.Proofs.Rule.Conversion

/-!
# Places are unambiguous

The index of an operation is written after its operator, a single argument has no index,
and the indices of nested lists follow each other.  So the same text could be meant for an
operation with an index or for an item of its list.  Which of the two it is follows from
the rule around it: either all rules directly inside a rule have an index, or there is only
one of them.  Hence the paths of two operations of one rule are never the same.
-/

namespace RuleClause

/-! ## Texts of paths -/

namespace Path

/-- A character begins a step of a path. -/
def BeginsStep (character : Char) : Prop :=
  character = '.' ∨ character = '['

/-- The characters belong to one step. -/
def IsUnbroken (characters : List Char) : Prop :=
  ∀ character ∈ characters, ¬ BeginsStep character

/-- The text of every name on a path, and of its root, belongs to one step. -/
def IsLegible : Path → Prop
  | .root text => IsUnbroken text.toList
  | .member parent name => parent.IsLegible ∧ IsUnbroken name.toList
  | .item parent _ => parent.IsLegible

/-- The last step of a text can be told from what is before it. -/
theorem last_step_inj
    {front otherFront step otherStep : List Char}
    {start otherStart : Char}
    (unbroken : IsUnbroken step)
    (otherUnbroken : IsUnbroken otherStep)
    (begins : BeginsStep start)
    (otherBegins : BeginsStep otherStart)
    (same : front ++ start :: step = otherFront ++ otherStart :: otherStep) :
    front = otherFront ∧ start = otherStart ∧ step = otherStep := by
  rcases List.append_eq_append_iff.mp same with ⟨middle, fronts, steps⟩ | ⟨middle, fronts, steps⟩
  · cases middle with
    | nil =>
        obtain ⟨starts, steps⟩ := List.cons.inj steps
        exact ⟨by simp [fronts], starts, steps⟩
    | cons character rest =>
        obtain ⟨_, inside⟩ := List.cons.inj steps
        exact absurd otherBegins (unbroken otherStart (by simp [inside]))
  · cases middle with
    | nil =>
        obtain ⟨starts, steps⟩ := List.cons.inj steps
        exact ⟨by simp [fronts], starts.symm, steps.symm⟩
    | cons character rest =>
        obtain ⟨_, inside⟩ := List.cons.inj steps
        exact absurd begins (otherUnbroken start (by simp [inside]))

theorem isUnbroken_digits (index : Nat) : IsUnbroken (Nat.toDigits 10 index ++ [']']) := by
  intro character member begins
  rcases List.mem_append.mp member with digit | closing
  · have isDigit := Nat.isDigit_of_mem_toDigits (by decide) (by decide) digit
    rcases begins with rfl | rfl
    · exact absurd isDigit (by decide)
    · exact absurd isDigit (by decide)
  · rw [List.mem_singleton.mp closing] at begins
    exact absurd begins (by unfold BeginsStep; decide)

theorem toList_text_member (parent : Path) (name : String) :
    (parent.member name).text.toList = parent.text.toList ++ '.' :: name.toList := by
  simp [text]

theorem toList_text_item (parent : Path) (index : Nat) :
    (parent.item index).text.toList =
      parent.text.toList ++ '[' :: (Nat.toDigits 10 index ++ [']']) := by
  simp [text, Nat.repr]

/-- A text without steps is not one that ends with a step. -/
theorem ne_append_step
    {characters front step : List Char}
    {start : Char}
    (unbroken : IsUnbroken characters)
    (begins : BeginsStep start) :
    characters ≠ front ++ start :: step := by
  rintro rfl
  exact unbroken start (by simp) begins

/-- A legible path can be told from its text. -/
theorem IsLegible.eq_of_toList_text
    {path other : Path}
    (legible : path.IsLegible)
    (otherLegible : other.IsLegible)
    (same : path.text.toList = other.text.toList) :
    path = other := by
  have dot : BeginsStep '.' := .inl rfl
  have bracket : BeginsStep '[' := .inr rfl
  induction path generalizing other with
  | root text =>
      cases other with
      | root otherText => exact congrArg Path.root (String.toList_inj.mp same)
      | member =>
          rw [toList_text_member] at same
          exact absurd same (ne_append_step legible dot)
      | item =>
          rw [toList_text_item] at same
          exact absurd same (ne_append_step legible bracket)
  | member parent name inductionHypothesis =>
      rw [toList_text_member] at same
      cases other with
      | root otherText => exact absurd same.symm (ne_append_step otherLegible dot)
      | member otherParent otherName =>
          rw [toList_text_member] at same
          obtain ⟨fronts, _, names⟩ := last_step_inj legible.2 otherLegible.2 dot dot same
          have parents : parent = otherParent :=
            inductionHypothesis legible.1 otherLegible.1 fronts
          rw [parents, String.toList_inj.mp names]
      | item otherParent index =>
          rw [toList_text_item] at same
          obtain ⟨_, starts, _⟩ :=
            last_step_inj legible.2 (isUnbroken_digits index) dot bracket same
          exact absurd starts (by decide)
  | item parent index inductionHypothesis =>
      rw [toList_text_item] at same
      cases other with
      | root otherText => exact absurd same.symm (ne_append_step otherLegible bracket)
      | member otherParent otherName =>
          rw [toList_text_member] at same
          obtain ⟨_, starts, _⟩ :=
            last_step_inj (isUnbroken_digits index) otherLegible.2 bracket dot same
          exact absurd starts (by decide)
      | item otherParent otherIndex =>
          rw [toList_text_item] at same
          obtain ⟨fronts, _, digits⟩ := last_step_inj (isUnbroken_digits index)
            (isUnbroken_digits otherIndex) bracket bracket same
          have parents : parent = otherParent := inductionHypothesis legible otherLegible fronts
          have indices := congrArg (Nat.ofDigitChars 10 · 0) (List.append_cancel_right digits)
          simp only [Nat.ofDigitChars_ten_toDigits] at indices
          rw [parents, indices]

end Path

/-! ## Bases and indices -/

namespace Position

/-- The place from which the rules directly inside a rule are counted. -/
def base (position : Position) : Rule → Path
  | .operation operator _ => position.operationPath operator
  | _ => position.valuePath

theorem operationPath_ne_start (position : Position) (operator : String) :
    position.operationPath operator ≠ .start := by
  obtain ⟨parent, index, depth⟩ := position
  cases index <;> simp [operationPath, Path.slot, Path.start]

/-- A list of its own is counted from the root. -/
theorem base_start_list (items : List Rule) : start.base (.list items) = .root "$" :=
  rfl

theorem isLegible_valuePath
    {position : Position}
    (legible : position.parent.IsLegible) :
    position.valuePath.IsLegible := by
  obtain ⟨parent, index, depth⟩ := position
  cases index with
  | none => exact legible
  | some index => exact legible

theorem isLegible_operationPath
    {position : Position}
    {operator : String}
    (legible : position.parent.IsLegible)
    (unbroken : Path.IsUnbroken operator.toList) :
    (position.operationPath operator).IsLegible := by
  obtain ⟨parent, index, depth⟩ := position
  cases index with
  | none => exact ⟨legible, unbroken⟩
  | some index => exact ⟨legible, unbroken⟩

theorem operationPath_eq_item_iff
    (position : Position)
    (operator : String)
    (path : Path)
    (index : Nat) :
    position.operationPath operator = path.item index ↔
      position.index = some index ∧ path = position.parent.member operator := by
  obtain ⟨parent, place, depth⟩ := position
  cases place <;> simp [operationPath, Path.slot, eq_comm, and_comm]

theorem operationPath_eq_member_iff
    (position : Position)
    (operator : String)
    (path : Path)
    (name : String) :
    position.operationPath operator = path.member name ↔
      position.index = none ∧ position.parent = path ∧ operator = name := by
  obtain ⟨parent, place, depth⟩ := position
  cases place <;> simp [operationPath, Path.slot]

theorem operationPath_inj
    {position other : Position}
    {operator otherOperator : String}
    (same : position.operationPath operator = other.operationPath otherOperator) :
    position.parent = other.parent ∧ operator = otherOperator ∧ position.index = other.index := by
  obtain ⟨parent, index, depth⟩ := position
  obtain ⟨otherParent, otherIndex, otherDepth⟩ := other
  cases index <;> cases otherIndex <;>
    simp_all [operationPath, Path.slot]

end Position

namespace Rule

/-- The rules directly inside a rule have an index, unless it is one argument by itself. -/
def numbersChildren : Rule → Bool
  | .operation _ (.list _) => true
  | .operation .. => false
  | _ => true

/-- A list is never an argument by itself. -/
theorem numbersChildren_of_list
    {parent : Rule}
    {items : List Rule}
    {index : Nat}
    (found : parent.children[index]? = some (.list items)) :
    parent.numbersChildren = true := by
  cases parent with
  | operation operator arguments =>
      cases arguments with
      | list => rfl
      | null | bool | number | string | operation =>
          have member := List.mem_of_getElem? found
          simp [children, operands] at member
  | null | bool | number | string | list => rfl

/-- Without an index there is only one rule directly inside. -/
theorem index_eq_zero_of_numbersChildren
    {parent child : Rule}
    {index : Nat}
    (single : parent.numbersChildren = false)
    (found : parent.children[index]? = some child) :
    index = 0 := by
  obtain ⟨bound, _⟩ := List.getElem?_eq_some_iff.mp found
  cases parent with
  | operation operator arguments =>
      cases arguments with
      | list => simp [numbersChildren] at single
      | null | bool | number | string | operation =>
          simp only [children, operands, List.length_singleton] at bound
          omega
  | null | bool | number | string | list => simp [numbersChildren] at single

theorem isLiteral_of_children
    {parent child : Rule}
    {index : Nat}
    (found : parent.children[index]? = some child) :
    parent.isLiteral = false := by
  cases parent with
  | list | operation => rfl
  | null | bool | number | string => simp [children] at found

/-- A trail leads to one rule. -/
theorem Occurs.unique
    {root node other : Rule}
    {trail : List (Rule × Nat)}
    (occurs : root.Occurs trail node)
    (otherOccurs : root.Occurs trail other) :
    node = other := by
  cases occurs with
  | here =>
      cases otherOccurs with
      | here => rfl
  | inside _ found =>
      cases otherOccurs with
      | inside _ otherFound => exact Option.some.inj (found.symm.trans otherFound)

end Rule

namespace Position

@[simp]
theorem parent_child (position : Position) (parent : Rule) (index : Nat) :
    (position.child parent index).parent = position.base parent := by
  cases parent with
  | operation operator arguments => cases arguments <;> rfl
  | null | bool | number | string | list => rfl

@[simp]
theorem index_child (position : Position) (parent : Rule) (index : Nat) :
    (position.child parent index).index =
      if parent.numbersChildren then some index else none := by
  cases parent with
  | operation operator arguments => cases arguments <;> rfl
  | null | bool | number | string | list => rfl

/-- A list directly inside a rule is reached by its index alone. -/
theorem base_child_list
    (position : Position)
    {parent : Rule}
    {items : List Rule}
    {index : Nat}
    (found : parent.children[index]? = some (.list items)) :
    (position.child parent index).base (.list items) = (position.base parent).item index := by
  rw [base, valuePath, parent_child, index_child, Rule.numbersChildren_of_list found, if_pos rfl]
  · rfl
  · simp

end Position

/-! ## Rules with the same base -/

namespace Rule

variable {root : Rule} {bound : Nat} {first second : List (Rule × Nat)}

/-- Where the whole rule is an operation, nothing else is counted from the root. -/
theorem Occurs.base_ne_start
    {operator : String}
    {arguments node : Rule}
    (occurs : (Rule.operation operator arguments).Occurs first node)
    (compound : node.isLiteral = false) :
    (Position.ofTrail first).base node ≠ .start := by
  cases node with
  | operation name others => exact Position.operationPath_ne_start _ name
  | list items =>
      cases occurs with
      | inside _ found =>
          rw [Position.ofTrail_cons, Position.base_child_list _ found]
          simp [Path.start]
  | null | bool | number | string => simp [isLiteral] at compound

/-- Rules with the same base are one rule, as far as their trails are short enough. -/
def Separates (root : Rule) (bound : Nat) : Prop :=
  ∀ (first second : List (Rule × Nat)) (node other : Rule),
    first.length + second.length < bound →
    root.Occurs first node → root.Occurs second other →
    node.isLiteral = false → other.isLiteral = false →
    (Position.ofTrail first).base node = (Position.ofTrail second).base other →
    first = second

/-- Rules with the same index directly inside of rules with the same base are one rule. -/
theorem Separates.inside
    (separates : root.Separates bound)
    {parent otherParent node other : Rule}
    {index otherIndex : Nat}
    (short : first.length + second.length < bound)
    (occurs : root.Occurs ((parent, index) :: first) node)
    (otherOccurs : root.Occurs ((otherParent, otherIndex) :: second) other)
    (bases : (Position.ofTrail first).base parent = (Position.ofTrail second).base otherParent)
    (indices : (Position.ofTrail ((parent, index) :: first)).index =
      (Position.ofTrail ((otherParent, otherIndex) :: second)).index) :
    (parent, index) :: first = (otherParent, otherIndex) :: second := by
  cases occurs with
  | inside outer found =>
  cases otherOccurs with
  | inside otherOuter otherFound =>
  have trails := separates _ _ _ _ short outer otherOuter (isLiteral_of_children found)
    (isLiteral_of_children otherFound) bases
  subst trails
  obtain rfl := outer.unique otherOuter
  simp only [Position.ofTrail_cons, Position.index_child] at indices
  cases numbered : parent.numbersChildren with
  | true =>
      obtain rfl : index = otherIndex := by simpa [numbered] using indices
      rfl
  | false =>
      rw [index_eq_zero_of_numbersChildren numbered found,
        index_eq_zero_of_numbersChildren numbered otherFound]

/-- The base of a list is not that of a single argument, which has no index. -/
theorem Occurs.base_list_ne_member
    {items : List Rule}
    (occurs : root.Occurs first (.list items))
    (path : Path)
    (name : String) :
    (Position.ofTrail first).base (.list items) ≠ path.member name := by
  cases occurs with
  | here => simp [Position.base, Position.valuePath, Position.start, Path.slot, Path.start]
  | inside _ found => simp [Position.base_child_list _ found]

/-- An operation and a list have different bases. -/
theorem Separates.base_operation_ne_base_list
    (separates : root.Separates bound)
    {operator : String}
    {arguments : Rule}
    {items : List Rule}
    (short : first.length + second.length ≤ bound)
    (occurs : root.Occurs first (.operation operator arguments))
    (otherOccurs : root.Occurs second (.list items)) :
    (Position.ofTrail first).base (.operation operator arguments) ≠
      (Position.ofTrail second).base (.list items) := by
  intro same
  cases otherOccurs with
  | here => exact Position.operationPath_ne_start _ operator same
  | @inside second parent _ index otherOuter otherFound =>
  rw [Position.ofTrail_cons, Position.base_child_list _ otherFound] at same
  obtain ⟨indexed, member⟩ := (Position.operationPath_eq_item_iff _ _ _ _).mp same
  cases occurs with
  | here => cases indexed
  | @inside first holder _ place outer found =>
  rw [Position.ofTrail_cons, Position.parent_child] at member
  have numbered : holder.numbersChildren = true := by
    by_contra single
    simp [single] at indexed
  -- the list is an item of an operation that stands by itself, at the place of the first one
  cases parent with
  | list others => exact otherOuter.base_list_ne_member _ _ member
  | operation name others =>
      obtain ⟨unindexed, bases, _⟩ := (Position.operationPath_eq_member_iff _ _ _ _).mp member
      cases otherOuter with
      | here => exact outer.base_ne_start (isLiteral_of_children found) bases.symm
      | @inside third grandparent _ step outermost outermostFound =>
          rw [Position.ofTrail_cons, Position.parent_child] at bases
          simp only [List.length_cons] at short
          have trails := separates third first grandparent holder (by omega) outermost outer
            (isLiteral_of_children outermostFound) (isLiteral_of_children found) bases
          subst trails
          obtain rfl := outermost.unique outer
          simp [numbered] at unindexed
  | null | bool | number | string => simp [children] at otherFound

/-- Operations with the same path are one operation. -/
theorem Separates.eq_of_operationPath
    (separates : root.Separates bound)
    {operator otherOperator : String}
    {arguments otherArguments : Rule}
    (short : first.length + second.length ≤ bound)
    (occurs : root.Occurs first (.operation operator arguments))
    (otherOccurs : root.Occurs second (.operation otherOperator otherArguments))
    (same : (Position.ofTrail first).operationPath operator =
      (Position.ofTrail second).operationPath otherOperator) :
    first = second := by
  obtain ⟨parents, _, indices⟩ := Position.operationPath_inj same
  cases occurs with
  | here =>
      cases otherOccurs with
      | here => rfl
      | inside outer found =>
          rw [Position.ofTrail_cons, Position.parent_child] at parents
          exact absurd parents.symm (outer.base_ne_start (isLiteral_of_children found))
  | inside outer found =>
      cases otherOccurs with
      | here =>
          rw [Position.ofTrail_cons, Position.parent_child] at parents
          exact absurd parents (outer.base_ne_start (isLiteral_of_children found))
      | inside otherOuter otherFound =>
          simp only [Position.ofTrail_cons, Position.parent_child] at parents
          simp only [List.length_cons] at short
          exact separates.inside (by omega) (.inside outer found) (.inside otherOuter otherFound)
            parents indices

/-- Lists with the same base are one list. -/
theorem Separates.eq_of_base_list
    (separates : root.Separates bound)
    {items others : List Rule}
    (short : first.length + second.length ≤ bound)
    (occurs : root.Occurs first (.list items))
    (otherOccurs : root.Occurs second (.list others))
    (same : (Position.ofTrail first).base (.list items) =
      (Position.ofTrail second).base (.list others)) :
    first = second := by
  cases occurs with
  | here =>
      cases otherOccurs with
      | here => rfl
      | inside _ found => simp [Position.base_child_list _ found, Position.base_start_list] at same
  | inside outer found =>
      rw [Position.ofTrail_cons, Position.base_child_list _ found] at same
      cases otherOccurs with
      | here => simp [Position.base_start_list] at same
      | inside otherOuter otherFound =>
          rw [Position.ofTrail_cons, Position.base_child_list _ otherFound] at same
          obtain ⟨bases, rfl⟩ := Path.item.inj same
          simp only [List.length_cons] at short
          refine separates.inside (by omega) (.inside outer found) (.inside otherOuter otherFound)
            bases ?_
          simp [numbersChildren_of_list found, numbersChildren_of_list otherFound]

/-- Whatever their trails are, rules with the same base are one rule. -/
theorem separates (root : Rule) (bound : Nat) : root.Separates bound := by
  induction bound with
  | zero =>
      intro first second node other short
      omega
  | succ bound inductionHypothesis =>
      intro first second node other short occurs otherOccurs compound otherCompound same
      have near : first.length + second.length ≤ bound := by omega
      have swapped : second.length + first.length ≤ bound := by omega
      cases node with
      | operation =>
          cases other with
          | operation => exact inductionHypothesis.eq_of_operationPath near occurs otherOccurs same
          | list =>
              exact absurd same
                (inductionHypothesis.base_operation_ne_base_list near occurs otherOccurs)
          | null | bool | number | string => simp [isLiteral] at otherCompound
      | list =>
          cases other with
          | operation =>
              exact absurd same.symm
                (inductionHypothesis.base_operation_ne_base_list swapped otherOccurs occurs)
          | list => exact inductionHypothesis.eq_of_base_list near occurs otherOccurs same
          | null | bool | number | string => simp [isLiteral] at otherCompound
      | null | bool | number | string => simp [isLiteral] at compound

end Rule

/-! ## Legible places -/

/-- Names that belong to one step each make the places of a rule legible. -/
theorem Rule.Occurs.isLegible
    {root node : Rule}
    {trail : List (Rule × Nat)}
    (plain : ∀ name, root.Names name → Path.IsUnbroken name.toList)
    (occurs : root.Occurs trail node) :
    (Position.ofTrail trail).parent.IsLegible := by
  induction occurs with
  | here =>
      intro character member
      obtain rfl : character = '$' := by simpa [Position.start, Path.start] using member
      simp [Path.BeginsStep]
  | @inside trail parent _ _ outer _ inductionHypothesis =>
      rw [Position.ofTrail_cons, Position.parent_child]
      cases parent with
      | operation operator arguments =>
          exact Position.isLegible_operationPath inductionHypothesis
            (plain operator ⟨arguments, trail, outer⟩)
      | null | bool | number | string | list => exact Position.isLegible_valuePath inductionHypothesis

/-! ## Places of what is read -/

namespace Rule

variable {root : Rule} {limit : Nat} {error : Error}

/-- A place that is too deep is reported as it is. -/
theorem of_checkDepth_bind
    {α : Type}
    {position : Position}
    {next : Except Error α}
    (failed : (checkDepth limit position >>= fun _ => next) = .error error) :
    error.path = some position.valuePath ∨ next = .error error := by
  unfold checkDepth at failed
  split at failed
  · cases failed
    exact .inl rfl
  · exact .inr failed

/-- Only reading itself can fail, not putting together what has been read. -/
theorem of_bind_pure
    {α β : Type}
    {read : Except Error α}
    {build : α → β}
    (failed : (read >>= fun value => pure (build value)) = .error error) :
    read = .error error := by
  cases read with
  | error refused => exact congrArg Except.error (Except.error.inj failed)
  | ok value => cases failed

theorem exists_item_of_ofJsonItems
    {items : List Rule}
    {path : Path}
    {depth start : Nat}
    (failed : ofJsonItems limit (items.map toJson) path depth start = .error error) :
    ∃ index item, items[index]? = some item ∧
      ofJsonAt limit item.toJson ⟨path, some (start + index), depth⟩ = .error error := by
  induction items generalizing start with
  | nil => cases failed
  | cons item rest inductionHypothesis =>
      rw [List.map_cons, ofJsonItems] at failed
      cases first : ofJsonAt limit item.toJson ⟨path, some start, depth⟩ with
      | error refused =>
          rw [first] at failed
          cases failed
          exact ⟨0, item, rfl, first⟩
      | ok rule =>
          rw [first] at failed
          obtain ⟨index, other, found, refused⟩ := inductionHypothesis (of_bind_pure failed)
          refine ⟨index + 1, other, found, ?_⟩
          rw [← refused, show start + (index + 1) = start + 1 + index by omega]

/-- A rule is refused where it stands, or because of a rule directly inside of it. -/
theorem refused_or_child
    {rule : Rule}
    {position : Position}
    (failed : ofJsonAt limit rule.toJson position = .error error) :
    error.path = some position.valuePath ∨
      ∃ index child, rule.children[index]? = some child ∧
        ofJsonAt limit child.toJson (position.child rule index) = .error error := by
  cases rule with
  | null | bool | number | string =>
      rw [toJson, ofJsonAt] at failed
      rcases of_checkDepth_bind failed with place | impossible
      · exact .inl place
      · cases impossible
  | list items =>
      rw [toJson, ofJsonAt, toJsonItems_eq_map] at failed
      refine (of_checkDepth_bind failed).imp_right fun inside => ?_
      obtain ⟨index, child, found, refused⟩ := exists_item_of_ofJsonItems (of_bind_pure inside)
      rw [Nat.zero_add] at refused
      exact ⟨index, child, found, refused⟩
  | operation operator arguments =>
      cases arguments with
      | list items =>
          rw [toJson, toJson, ofJsonAt, toJsonItems_eq_map] at failed
          refine (of_checkDepth_bind failed).imp_right fun inside => ?_
          obtain ⟨index, child, found, refused⟩ := exists_item_of_ofJsonItems (of_bind_pure inside)
          rw [Nat.zero_add] at refused
          exact ⟨index, child, found, refused⟩
      | null | bool | number | string | operation =>
          rw [toJson, ofJsonAt_bare limit operator (by simp [toJson])] at failed
          refine (of_checkDepth_bind failed).imp_right fun inside => ?_
          exact ⟨0, _, rfl, of_bind_pure inside⟩

/-- Whatever is refused when a rule is read stands at the end of a trail. -/
theorem exists_trail_of_ofJsonAt
    {rule : Rule}
    {trail : List (Rule × Nat)}
    (occurs : root.Occurs trail rule)
    (failed : ofJsonAt limit rule.toJson (.ofTrail trail) = .error error) :
    ∃ inner node, root.Occurs inner node ∧
      error.path = some (Position.ofTrail inner).valuePath := by
  rcases refused_or_child failed with place | ⟨index, child, found, refused⟩
  · exact ⟨trail, rule, occurs, place⟩
  · have smaller := sizeOf_child_lt (List.mem_of_getElem? found)
    exact exists_trail_of_ofJsonAt (occurs.inside found) refused
termination_by sizeOf rule

end Rule

/--
Paths are unambiguous.  In a rule whose operator names contain neither a dot nor an opening
bracket, operations whose paths have the same text are one operation.  It is these paths that
are reported: a compilation puts whatever it comes to at the end of its trail, and so does
the reading of the rule with whatever it refuses.
-/
theorem operation_determined_by_path_text
    (root : Rule)
    (plain : ∀ name, root.Names name → '.' ∉ name.toList ∧ '[' ∉ name.toList) :
    (∀ (first second : List (Rule × Nat)) (operator otherOperator : String)
      (arguments otherArguments : Rule),
      root.Occurs first (.operation operator arguments) →
      root.Occurs second (.operation otherOperator otherArguments) →
      ((Position.ofTrail first).operationPath operator).text =
        ((Position.ofTrail second).operationPath otherOperator).text →
      first = second) ∧
    (∀ (context : Context (Except Error)) (job : Job),
      (Job.whole root).Reaches context job →
      ∃ trail, root.Occurs trail job.rule ∧ job.position = .ofTrail trail) ∧
    ∀ (limit : Nat) (error : Error),
      Rule.ofJson limit root.toJson = .error error →
      ∃ trail node, root.Occurs trail node ∧
        error.path = some (Position.ofTrail trail).valuePath := by
  have unbroken (name : String) (names : root.Names name) : Path.IsUnbroken name.toList := by
    obtain ⟨dot, bracket⟩ := plain name names
    rintro character member (rfl | rfl)
    · exact dot member
    · exact bracket member
  have legible {trail : List (Rule × Nat)} {operator : String} {arguments : Rule}
      (occurs : root.Occurs trail (.operation operator arguments)) :
      ((Position.ofTrail trail).operationPath operator).IsLegible :=
    Position.isLegible_operationPath (occurs.isLegible unbroken)
      (unbroken operator ⟨arguments, trail, occurs⟩)
  refine ⟨?_, fun _ _ reaches => reaches.isPlaced, fun _ _ => Rule.exists_trail_of_ofJsonAt .here⟩
  intro first second operator otherOperator arguments otherArguments occurs otherOccurs same
  have paths := (legible occurs).eq_of_toList_text (legible otherOccurs)
    (congrArg String.toList same)
  exact (root.separates _).eq_of_operationPath (Nat.le_refl _) occurs otherOccurs paths

/-- A negation among the operands of a disjunction, and one in a list among them. -/
def looseDisjunction : Rule :=
  .operation "or" (.list [.operation "!" (.bool true), .list [.operation "!" (.bool false)]])

/-- The disjunction inside of a conjunction. -/
def looseConjunction : Rule :=
  .operation "and" (.list [looseDisjunction])

/-- The trail to the second negation. -/
def looseTrail : List (Rule × Nat) :=
  [(.list [.operation "!" (.bool false)], 0), (looseDisjunction, 1), (looseConjunction, 0)]

/-- No other operation has the path of the second negation, not even the first one. -/
theorem operation_determined_by_path_of_looseTrail :
    ((Position.ofTrail [(looseDisjunction, 0), (looseConjunction, 0)]).operationPath "!").text =
      "$.and.or[0].![0]" ∧
    ((Position.ofTrail looseTrail).operationPath "!").text = "$.and.or[0][1].![0]" ∧
    ∀ trail operator arguments,
      looseConjunction.Occurs trail (.operation operator arguments) →
      ((Position.ofTrail trail).operationPath operator).text = "$.and.or[0][1].![0]" →
      trail = looseTrail := by
  have plain : ∀ name, looseConjunction.Names name → '.' ∉ name.toList ∧ '[' ∉ name.toList := by
    intro name names
    rw [← Rule.mem_operatorNames_iff] at names
    revert name
    decide
  have occurs : looseConjunction.Occurs looseTrail (.operation "!" (.bool false)) :=
    .inside (.inside (.inside .here rfl) rfl) rfl
  refine ⟨rfl, rfl, ?_⟩
  intro trail operator arguments other same
  exact (operation_determined_by_path_text looseConjunction plain).1 trail looseTrail operator "!"
    arguments (.bool false) other occurs same

end RuleClause
