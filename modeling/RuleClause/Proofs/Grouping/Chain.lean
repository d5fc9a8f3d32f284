import RuleClause.Proofs.Fragment.Operators

/-!
# Trees and the chains that they are written as

A tree is an arithmetic expression with comparisons, each operator with two operands.
Arithmetic is written in parentheses and a comparison is not, so a comparison that
stands right inside of another loses its grouping: what is written is a chain of names
and groups with comparisons between them.  A text has one chain only.  Hence a tree
can be told from its text exactly if it has no comparison right inside of another.
-/

namespace RuleClause
namespace Grouping

open Fragment (Calculation)
open Reading (isWordCharacter)

/-- A name that is written as one word, as identifiers are. -/
abbrev Word : Type :=
  { name : String // name ≠ "" ∧ ∀ character ∈ name.toList, isWordCharacter character = true }

/-- A comparison of two operands. -/
inductive Relation where
  | equal
  | notEqual
  | less
  | lessEqual
  | greater
  | greaterEqual
deriving DecidableEq, Repr

/-- The symbol of a relation. -/
def Relation.symbol : Relation → BinaryOp
  | .equal => .equal
  | .notEqual => .notEqual
  | .less => .less
  | .lessEqual => .lessEqual
  | .greater => .greater
  | .greaterEqual => .greaterEqual

/-- An expression in which every operator has two operands. -/
inductive Tree where
  | field (name : Word)
  | calculation (operator : Calculation) (left right : Tree)
  | relation (operator : Relation) (left right : Tree)
deriving DecidableEq

/-! ## Chains -/

mutual

/-- A name, or arithmetic in parentheses. -/
inductive Atom where
  | name (name : Word)
  | group (calculation : Calculation) (left right : Chain)

/-- Atoms with relations between them. -/
inductive Chain where
  | single (atom : Atom)
  | link (atom : Atom) (relation : Relation) (rest : Chain)

end

/-- Two chains with a relation between them. -/
def Chain.join : Chain → Relation → Chain → Chain
  | .single atom, relation, other => .link atom relation other
  | .link atom first rest, relation, other => .link atom first (rest.join relation other)

theorem Chain.join_assoc (first second third : Chain) (before after : Relation) :
    (first.join before second).join after third = first.join before (second.join after third) := by
  match first with
  | .single atom => rfl
  | .link atom relation rest => simp [join, join_assoc rest]

/-- A chain of several atoms is not a single one. -/
theorem Chain.join_ne_single (left right : Chain) (relation : Relation) (atom : Atom) :
    left.join relation right ≠ .single atom := by
  cases left <;> simp [join]

/-- The chain that a tree is written as. -/
def Tree.chain : Tree → Chain
  | .field name => .single (.name name)
  | .calculation operator left right => .single (.group operator left.chain right.chain)
  | .relation operator left right => left.chain.join operator right.chain

/-! ## Grouped trees -/

namespace Tree

/-- The tree is a comparison. -/
def isRelation : Tree → Bool
  | .relation .. => true
  | .field _ | .calculation .. => false

/-- No comparison stands right inside of another. -/
def Grouped : Tree → Prop
  | .field _ => True
  | .calculation _ left right => left.Grouped ∧ right.Grouped
  | .relation _ left right =>
      (left.isRelation = false ∧ right.isRelation = false) ∧ left.Grouped ∧ right.Grouped

instance decidableGrouped : DecidablePred Grouped
  | .field _ => inferInstanceAs (Decidable True)
  | .calculation _ left right =>
      have := decidableGrouped left
      have := decidableGrouped right
      inferInstanceAs (Decidable (left.Grouped ∧ right.Grouped))
  | .relation _ left right =>
      have := decidableGrouped left
      have := decidableGrouped right
      inferInstanceAs (Decidable ((left.isRelation = false ∧ right.isRelation = false) ∧
        left.Grouped ∧ right.Grouped))

theorem exists_chain_eq_single {tree : Tree} (atomic : tree.isRelation = false) :
    ∃ atom, tree.chain = .single atom := by
  cases tree with
  | field name => exact ⟨_, rfl⟩
  | calculation operator left right => exact ⟨_, rfl⟩
  | relation operator left right => simp [isRelation] at atomic

/-- A grouped tree is the only one with its chain. -/
theorem Grouped.eq_of_chain_eq
    {tree other : Tree}
    (grouped : tree.Grouped)
    (same : other.chain = tree.chain) :
    other = tree := by
  induction tree generalizing other with
  | field name =>
      cases other with
      | field => simpa [chain] using same
      | calculation => simp [chain] at same
      | relation => exact absurd same (Chain.join_ne_single _ _ _ _)
  | calculation operator left right inductionLeft inductionRight =>
      cases other with
      | field => simp [chain] at same
      | calculation =>
          simp only [chain, Chain.single.injEq, Atom.group.injEq] at same
          rw [same.1, inductionLeft grouped.1 same.2.1, inductionRight grouped.2 same.2.2]
      | relation => exact absurd same (Chain.join_ne_single _ _ _ _)
  | relation operator left right inductionLeft inductionRight =>
      obtain ⟨⟨atomicLeft, atomicRight⟩, groupedLeft, groupedRight⟩ := grouped
      obtain ⟨first, chainLeft⟩ := exists_chain_eq_single atomicLeft
      obtain ⟨last, chainRight⟩ := exists_chain_eq_single atomicRight
      have whole : other.chain = .link first operator (.single last) := by
        rw [same, chain, chainLeft, chainRight, Chain.join]
      cases other with
      | field | calculation => simp [chain] at whole
      | relation middle otherLeft otherRight =>
          -- Two atoms leave no room for a comparison on the left.
          cases front : otherLeft.chain with
          | link atom between rest =>
              simp only [chain, front, Chain.join, Chain.link.injEq] at whole
              exact absurd whole.2.2 (Chain.join_ne_single _ _ _ _)
          | single atom =>
              simp only [chain, front, Chain.join, Chain.link.injEq] at whole
              obtain ⟨rfl, rfl, back⟩ := whole
              rw [inductionLeft groupedLeft (front.trans chainLeft.symm),
                inductionRight groupedRight (back.trans chainRight.symm)]

theorem exists_eq_relation {tree : Tree} (compares : tree.isRelation = true) :
    ∃ operator left right, tree = .relation operator left right := by
  cases tree with
  | relation operator left right => exact ⟨operator, left, right, rfl⟩
  | field | calculation => simp [isRelation] at compares

/-- Three operands can be grouped from the left or from the right, with one chain. -/
theorem chain_relation_relation (inner outer : Relation) (first second third : Tree) :
    (relation outer (relation inner first second) third).chain =
      (relation inner first (relation outer second third)).chain :=
  Chain.join_assoc _ _ _ _ _

/-- The two ways to group three operands are different. -/
theorem relation_relation_ne (inner outer : Relation) (first second third : Tree) :
    relation outer (relation inner first second) third ≠
      relation inner first (relation outer second third) := by
  intro same
  have size := congrArg sizeOf (Tree.relation.inj same).2.1
  simp only [relation.sizeOf_spec] at size
  omega

/-- Another tree has the chain of a tree that is not grouped. -/
theorem exists_ne_of_not_grouped {tree : Tree} (ungrouped : ¬ tree.Grouped) :
    ∃ other, other ≠ tree ∧ other.chain = tree.chain := by
  induction tree with
  | field name => exact absurd trivial ungrouped
  | calculation operator left right inductionLeft inductionRight =>
      by_cases groupedLeft : left.Grouped
      · have ungroupedRight : ¬ right.Grouped := fun grouped => ungrouped ⟨groupedLeft, grouped⟩
        obtain ⟨other, differs, same⟩ := inductionRight ungroupedRight
        exact ⟨.calculation operator left other, by simpa using differs, by simp [chain, same]⟩
      · obtain ⟨other, differs, same⟩ := inductionLeft groupedLeft
        exact ⟨.calculation operator other right, by simpa using differs, by simp [chain, same]⟩
  | relation operator left right inductionLeft inductionRight =>
      by_cases groupedLeft : left.Grouped
      · by_cases groupedRight : right.Grouped
        · -- Both sides are grouped, so that one of them is a comparison: group the other way.
          by_cases comparesLeft : left.isRelation = true
          · obtain ⟨inner, first, second, rfl⟩ := exists_eq_relation comparesLeft
            exact ⟨_, (relation_relation_ne inner operator first second right).symm,
              (chain_relation_relation inner operator first second right).symm⟩
          · by_cases comparesRight : right.isRelation = true
            · obtain ⟨inner, second, third, rfl⟩ := exists_eq_relation comparesRight
              exact ⟨_, relation_relation_ne operator inner left second third,
                chain_relation_relation operator inner left second third⟩
            · refine absurd ⟨⟨?_, ?_⟩, groupedLeft, groupedRight⟩ ungrouped
              · simpa using comparesLeft
              · simpa using comparesRight
        · obtain ⟨other, differs, same⟩ := inductionRight groupedRight
          exact ⟨.relation operator left other, by simpa using differs, by simp [chain, same]⟩
      · obtain ⟨other, differs, same⟩ := inductionLeft groupedLeft
        exact ⟨.relation operator other right, by simpa using differs, by simp [chain, same]⟩

end Tree

/-! ## Writing chains -/

/-- An operator with a space on each side. -/
def spaced (operator : BinaryOp) : List Char :=
  ' ' :: (operator.symbol.toList ++ [' '])

mutual

/-- An atom as it is written. -/
def Atom.write : Atom → List Char
  | .name name => name.val.toList
  | .group calculation left right =>
      '(' :: (left.write ++ (spaced calculation.symbol ++ (right.write ++ [')'])))

/-- A chain as it is written. -/
def Chain.write : Chain → List Char
  | .single atom => atom.write
  | .link atom relation rest => atom.write ++ (spaced relation.symbol ++ rest.write)

end

theorem Chain.write_join (left right : Chain) (relation : Relation) :
    (left.join relation right).write =
      left.write ++ (spaced relation.symbol ++ right.write) := by
  match left with
  | .single atom => rfl
  | .link atom first rest => simp [join, write, write_join rest]

/-! ## Reading chains -/

/-- What two texts start with is the same up to where a property of characters ends. -/
theorem append_inj_of_all
    {holds : Char → Bool}
    {first second rest other : List Char}
    (allFirst : ∀ character ∈ first, holds character = true)
    (allSecond : ∀ character ∈ second, holds character = true)
    (endsFirst : ∀ character ∈ rest.head?, holds character = false)
    (endsSecond : ∀ character ∈ other.head?, holds character = false)
    (same : first ++ rest = second ++ other) :
    first = second ∧ rest = other := by
  have front {front back : List Char}
      (all : ∀ character ∈ front, holds character = true)
      (ends : ∀ character ∈ back.head?, holds character = false) :
      (front ++ back).takeWhile holds = front := by
    rw [List.takeWhile_append_of_pos all]
    cases back with
    | nil => simp
    | cons character back => simp [ends character rfl]
  have equal : first = second := by
    rw [← front allFirst endsFirst, same, front allSecond endsSecond]
  subst equal
  exact ⟨rfl, List.append_cancel_left same⟩

theorem symbol_injective {first second : BinaryOp} (same : first.symbol = second.symbol) :
    first = second := by
  cases first <;> cases second <;> first | rfl | simp [BinaryOp.symbol] at same

/-- An operator can be told from what is written. -/
theorem spaced_append_inj
    {first second : BinaryOp}
    {rest other : List Char}
    (same : spaced first ++ rest = spaced second ++ other) :
    first = second ∧ rest = other := by
  have unbroken (operator : BinaryOp) :
      ∀ character ∈ operator.symbol.toList, (character != ' ') = true := by
    apply List.all_eq_true.mp
    cases operator <;> rfl
  simp only [spaced, List.cons_append, List.cons.injEq, true_and, List.append_assoc,
    List.nil_append] at same
  obtain ⟨symbols, spaces⟩ := append_inj_of_all (unbroken first) (unbroken second)
    (by simp) (by simp) same
  exact ⟨symbol_injective (String.toList_inj.mp symbols), (List.cons.inj spaces).2⟩

/-- A text that does not go on with a word. -/
def Apart (rest : List Char) : Prop :=
  ∀ character ∈ rest.head?, isWordCharacter character = false

/-- A text that goes on neither with a word nor with a relation. -/
def Stops (rest : List Char) : Prop :=
  Apart rest ∧ ∀ (relation : Relation) (other : List Char),
    rest ≠ spaced relation.symbol ++ other

theorem apart_spaced (operator : BinaryOp) (rest : List Char) : Apart (spaced operator ++ rest) := by
  simp [Apart, spaced]
  decide

theorem stops_nil : Stops [] := by
  simp [Stops, Apart, spaced]

theorem stops_closing (rest : List Char) : Stops (')' :: rest) := by
  refine ⟨?_, fun relation other => by simp [spaced]⟩
  simp [Apart]
  decide

theorem stops_calculation (calculation : Calculation) (rest : List Char) :
    Stops (spaced calculation.symbol ++ rest) := by
  refine ⟨apart_spaced _ _, fun relation other same => ?_⟩
  have symbols := (spaced_append_inj same).1
  cases calculation <;> cases relation <;> cases symbols

theorem Word.head_isWordCharacter (name : Word) :
    ∃ character rest, name.val.toList = character :: rest ∧ isWordCharacter character = true := by
  cases written : name.val.toList with
  | nil => exact absurd (String.toList_eq_nil_iff.mp written) name.property.1
  | cons character rest =>
      exact ⟨character, rest, rfl, name.property.2 character (by simp [written])⟩

/-- A name does not start like a group. -/
theorem name_append_ne_group (name : Word) (rest other : List Char) :
    name.val.toList ++ rest ≠ '(' :: other := by
  obtain ⟨character, tail, written, word⟩ := name.head_isWordCharacter
  intro same
  rw [written, List.cons_append, List.cons.injEq] at same
  rw [same.1] at word
  exact absurd word (by decide)

mutual

/-- An atom can be told from what is written, whatever follows that is not a word. -/
theorem Atom.write_append_inj (atom other : Atom)
    {rest tail : List Char}
    (apart : Apart rest)
    (apartTail : Apart tail)
    (same : atom.write ++ rest = other.write ++ tail) :
    atom = other ∧ rest = tail := by
  match atom, other with
  | .name name, .name otherName =>
      obtain ⟨names, rests⟩ := append_inj_of_all name.property.2 otherName.property.2
        apart apartTail same
      exact ⟨congrArg Atom.name (Subtype.ext (String.toList_inj.mp names)), rests⟩
  | .name name, .group _ _ _ => exact absurd same (name_append_ne_group name _ _)
  | .group _ _ _, .name otherName => exact absurd same.symm (name_append_ne_group otherName _ _)
  | .group calculation left right, .group otherCalculation otherLeft otherRight =>
      simp only [Atom.write, List.cons_append, List.append_assoc, List.nil_append, List.cons.injEq,
        true_and] at same
      obtain ⟨rfl, afterLeft⟩ := left.write_append_inj otherLeft
        (stops_calculation _ _) (stops_calculation _ _) same
      obtain ⟨symbols, afterSymbol⟩ := spaced_append_inj afterLeft
      obtain rfl : calculation = otherCalculation := by
        cases calculation <;> cases otherCalculation <;> first | rfl | cases symbols
      obtain ⟨rfl, afterRight⟩ := right.write_append_inj otherRight
        (stops_closing _) (stops_closing _) afterSymbol
      exact ⟨rfl, (List.cons.inj afterRight).2⟩

/-- A chain can be told from what is written, whatever follows that does not continue it. -/
theorem Chain.write_append_inj (chain other : Chain)
    {rest tail : List Char}
    (stops : Stops rest)
    (stopsTail : Stops tail)
    (same : chain.write ++ rest = other.write ++ tail) :
    chain = other ∧ rest = tail := by
  match chain, other with
  | .single atom, .single otherAtom =>
      obtain ⟨rfl, rests⟩ := atom.write_append_inj otherAtom stops.1 stopsTail.1 same
      exact ⟨rfl, rests⟩
  | .single atom, .link otherAtom relation others =>
      simp only [Chain.write, List.append_assoc] at same
      obtain ⟨_, goesOn⟩ := atom.write_append_inj otherAtom stops.1 (apart_spaced _ _) same
      exact absurd goesOn (stops.2 relation _)
  | .link atom relation others, .single otherAtom =>
      simp only [Chain.write, List.append_assoc] at same
      obtain ⟨_, goesOn⟩ := atom.write_append_inj otherAtom (apart_spaced _ _) stopsTail.1 same
      exact absurd goesOn.symm (stopsTail.2 relation _)
  | .link atom relation others, .link otherAtom otherRelation otherRest =>
      simp only [Chain.write, List.append_assoc] at same
      obtain ⟨rfl, afterAtom⟩ := atom.write_append_inj otherAtom
        (apart_spaced _ _) (apart_spaced _ _) same
      obtain ⟨symbols, afterSymbol⟩ := spaced_append_inj afterAtom
      obtain rfl : relation = otherRelation := by
        cases relation <;> cases otherRelation <;> first | rfl | cases symbols
      obtain ⟨rfl, rests⟩ := others.write_append_inj otherRest stops stopsTail afterSymbol
      exact ⟨rfl, rests⟩

end

/-- A text has one chain only. -/
theorem Chain.write_injective {chain other : Chain} (same : chain.write = other.write) :
    chain = other := by
  refine (chain.write_append_inj other stops_nil stops_nil ?_).1
  rw [List.append_nil, List.append_nil, same]

end Grouping
end RuleClause
