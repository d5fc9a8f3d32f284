import RuleClause.Operator
import RuleClause.Rule.Basic

/-!
# Rules inside a rule

A rule occurs inside another at the end of a trail of lists and operations.  The
trail starts at the occurrence and leads outwards, so that its first steps say
where the rule stands: which operand it is, and of which operation.
-/

namespace RuleClause
namespace Rule

/-- The rules directly inside a rule: the items of a list, the operands of an operation. -/
def children : Rule → List Rule
  | .list items => items
  | .operation _ arguments => arguments.operands
  | _ => []

/-- A rule occurs inside another, at the end of a trail of rules and numbers of children. -/
inductive Occurs (rule : Rule) : List (Rule × Nat) → Rule → Prop
  | here : Occurs rule [] rule
  | inside
      {trail : List (Rule × Nat)}
      {parent child : Rule}
      {index : Nat}
      (outer : Occurs rule trail parent)
      (found : parent.children[index]? = some child) :
      Occurs rule ((parent, index) :: trail) child

/-- A rule occurs somewhere inside another. -/
def Contains (rule inner : Rule) : Prop :=
  ∃ trail, rule.Occurs trail inner

namespace Contains

theorem refl (rule : Rule) : rule.Contains rule :=
  ⟨[], .here⟩

theorem of_mem_children {rule child : Rule} (member : child ∈ rule.children) :
    rule.Contains child := by
  obtain ⟨index, found⟩ := List.mem_iff_getElem?.mp member
  exact ⟨_, .inside .here found⟩

theorem trans
    {rule middle inner : Rule}
    (outer : rule.Contains middle)
    (nested : middle.Contains inner) :
    rule.Contains inner := by
  obtain ⟨trail, occurs⟩ := nested
  induction occurs with
  | here => exact outer
  | inside _ found inductionHypothesis =>
      obtain ⟨path, reached⟩ := inductionHypothesis
      exact ⟨_, .inside reached found⟩

/-- Whatever occurs in a rule is the rule, or it occurs in one of the rules directly inside. -/
theorem iff_eq_or_mem_children (rule inner : Rule) :
    rule.Contains inner ↔ inner = rule ∨ ∃ child ∈ rule.children, child.Contains inner := by
  constructor
  · rintro ⟨trail, occurs⟩
    induction occurs with
    | here => exact .inl rfl
    | @inside _ parent node _ _ found inductionHypothesis =>
        have member := List.mem_of_getElem? found
        rcases inductionHypothesis with rfl | ⟨child, outer, nested⟩
        · exact .inr ⟨node, member, refl node⟩
        · exact .inr ⟨child, outer, nested.trans (of_mem_children member)⟩
  · rintro (rfl | ⟨child, member, nested⟩)
    · exact refl inner
    · exact (of_mem_children member).trans nested

@[simp]
theorem list_iff (items : List Rule) (inner : Rule) :
    (Rule.list items).Contains inner ↔
      inner = .list items ∨ ∃ item ∈ items, item.Contains inner :=
  iff_eq_or_mem_children _ _

@[simp]
theorem operation_iff (operator : String) (arguments inner : Rule) :
    (Rule.operation operator arguments).Contains inner ↔
      inner = .operation operator arguments ∨
        ∃ operand ∈ arguments.operands, operand.Contains inner :=
  iff_eq_or_mem_children _ _

@[simp]
theorem string_iff (text : String) (inner : Rule) :
    (Rule.string text).Contains inner ↔ inner = .string text := by
  rw [iff_eq_or_mem_children]
  simp [children]

end Contains

theorem sizeOf_child_lt {rule child : Rule} (member : child ∈ rule.children) :
    sizeOf child < sizeOf rule := by
  cases rule with
  | list items =>
      have smaller := List.sizeOf_lt_of_mem (show child ∈ items from member)
      simp only [list.sizeOf_spec]
      omega
  | operation operator arguments =>
      simp only [operation.sizeOf_spec]
      cases arguments with
      | list items =>
          have smaller := List.sizeOf_lt_of_mem (show child ∈ items from member)
          simp only [list.sizeOf_spec]
          omega
      | null | bool | number | string | operation =>
          obtain rfl := List.mem_singleton.mp member
          omega
  | null | bool | number | string => simp [children] at member

namespace Occurs

/-- What occurs in a rule directly inside another occurs one level deeper in that one. -/
theorem of_child
    {rule child node : Rule}
    {trail : List (Rule × Nat)}
    (member : child ∈ rule.children)
    (occurs : child.Occurs trail node) :
    ∃ outer, rule.Occurs outer node ∧ outer.length = trail.length + 1 := by
  induction occurs with
  | here =>
      obtain ⟨index, found⟩ := List.mem_iff_getElem?.mp member
      exact ⟨_, .inside .here found, rfl⟩
  | inside _ found inductionHypothesis =>
      obtain ⟨outer, reached, length⟩ := inductionHypothesis
      exact ⟨_, .inside reached found, by simp [length]⟩

/-- What occurs in a rule is the rule, or it occurs one level less deep in one inside. -/
theorem eq_or_child
    {rule node : Rule}
    {trail : List (Rule × Nat)}
    (occurs : rule.Occurs trail node) :
    (trail = [] ∧ node = rule) ∨
      ∃ child ∈ rule.children, ∃ inner, child.Occurs inner node ∧
        trail.length = inner.length + 1 := by
  induction occurs with
  | here => exact .inl ⟨rfl, rfl⟩
  | @inside _ _ node _ _ found inductionHypothesis =>
      rcases inductionHypothesis with ⟨rfl, rfl⟩ | ⟨child, member, inner, reached, length⟩
      · exact .inr ⟨node, List.mem_of_getElem? found, [], .here, rfl⟩
      · exact .inr ⟨child, member, _, .inside reached found, by simp [length]⟩

end Occurs

/-- At a depth, no operation of a rule has more levels around it than the limit. -/
def Fits (rule : Rule) (depth limit : Nat) : Prop :=
  ∀ trail operator arguments, rule.Occurs trail (.operation operator arguments) →
    depth + trail.length ≤ limit

namespace Fits

variable {depth limit : Nat}

@[simp]
theorem operation_iff (operator : String) (arguments : Rule) :
    (Rule.operation operator arguments).Fits depth limit ↔
      depth ≤ limit ∧ ∀ operand ∈ arguments.operands, operand.Fits (depth + 1) limit := by
  constructor
  · intro fits
    refine ⟨fits [] operator arguments .here, ?_⟩
    intro operand member trail inner others occurs
    obtain ⟨outer, reached, length⟩ := occurs.of_child
      (show operand ∈ (Rule.operation operator arguments).children from member)
    have bound := fits outer inner others reached
    omega
  · rintro ⟨bound, each⟩ trail inner others occurs
    rcases occurs.eq_or_child with ⟨rfl, _⟩ | ⟨child, member, trail', reached, length⟩
    · simpa using bound
    · have deeper := each child member trail' inner others reached
      omega

/-- A literal holds no operation. -/
theorem of_isLiteral {rule : Rule} (literal : rule.isLiteral = true) : rule.Fits depth limit := by
  intro trail operator arguments occurs
  rcases occurs.eq_or_child with ⟨_, same⟩ | ⟨child, member, _⟩
  · rw [← same] at literal
    simp [isLiteral] at literal
  · cases rule <;> simp_all [isLiteral, children]

@[simp]
theorem string (value : String) : (Rule.string value).Fits depth limit :=
  of_isLiteral rfl

@[simp]
theorem number (value : Number) : (Rule.number value).Fits depth limit :=
  of_isLiteral rfl

@[simp]
theorem null : Rule.null.Fits depth limit :=
  of_isLiteral rfl

end Fits

/--
The outcome of an operation is known without its operands: the truth of a written
list, or a search through a list that is empty.
-/
def IsFolded : Rule → Prop
  | .operation operator arguments =>
      (operator = Operator.truthy.name ∧ ∃ items, arguments.operands = [.list items]) ∨
        (operator = Operator.membership.name ∧ ∃ needle,
          arguments.operands = [needle, .list []])
  | _ => False

end Rule

/-- The operator compiles its second operand once for all elements of an array. -/
def Operator.iterates : Operator → Bool
  | .map | .filter | .reduce | .all | .some | .none => true
  | _ => false

namespace Rule

/-- A step leads out of the body of an iteration. -/
def LeavesBody (step : Rule × Nat) : Prop :=
  step.2 = 1 ∧ ∃ iteration : Operator, iteration.iterates = true ∧
    ∃ arguments, step.1 = .operation iteration.name arguments

/-- A trail lies outside of all bodies of iterations. -/
def OutsideBodies (trail : List (Rule × Nat)) : Prop :=
  ∀ step ∈ trail, ¬ LeavesBody step

end Rule
end RuleClause
