import RuleClause.Proofs.Compile.Success
import RuleClause.Proofs.Plan.Outcome
import RuleClause.Proofs.Reading.Signed
import RuleClause.Proofs.Target

/-!
# Parts of texts by integer offsets

A rule counts places in a text from zero, a negative start from the end of the text, and a
negative length leaves characters off the end.  SQL counts places from one and knows neither.
For offsets that are written as integers, the place and the length that are handed to SQL select
the characters that the rule means, whatever the text; and no number on the way to them leaves
the range of 64-bit integers.  Offsets for which this cannot be are refused, and no others.
-/

namespace RuleClause
namespace Strings

open Reading
open Number (isSigned isSigned_iff signedBound signedBound_eq)

/-! ## What a rule and what SQL select -/

/-- The characters that a rule selects: from a place on, counted from zero or from the end. -/
def part (text : List Char) (start : Int) (size : Option Int) : List Char :=
  let rest := text.drop (if 0 ≤ start then start else max (text.length + start) 0).toNat
  match size with
  | none => rest
  | some size => if 0 ≤ size then rest.take size.toNat else rest.take (rest.length - size.natAbs)

/-- The characters that SQL selects: from a place on, counted from one. -/
def window (text : List Char) (first : Int) (size : Option Int) : List Char :=
  let rest := text.drop (first - 1).toNat
  match size with
  | none => rest
  | some size => rest.take size.toNat

/-- A part of a text by integer offsets, as a rule. -/
def substrRule (text : Rule) (start : Int) (size : Option Int) : Rule :=
  .operation Operator.substr.name
    (.list (text :: .number (.integer start) :: (size.map (.number <| .integer ·)).toList))

/-- The place of the start, counted from one or from the end, is no 64-bit integer. -/
def StartOutOfRange (start : Int) : Prop :=
  start = signedBound - 1 ∨ start = -signedBound

/-- The characters to leave out, or those and the ones before the start, are too many. -/
def SizeOutOfRange (start size : Int) : Prop :=
  size = -signedBound ∨ (0 ≤ start ∧ size < 0 ∧ signedBound - 1 < start + -size)

/-- The offsets that have no place among the 64-bit integers. -/
def OutOfRange (start : Int) (size : Option Int) : Prop :=
  StartOutOfRange start ∨ ∃ given ∈ size, SizeOutOfRange start given

instance (start : Int) : Decidable (StartOutOfRange start) :=
  inferInstanceAs (Decidable (_ ∨ _))

instance (start size : Int) : Decidable (SizeOutOfRange start size) :=
  inferInstanceAs (Decidable (_ ∨ _))

instance (start : Int) (size : Option Int) : Decidable (OutOfRange start size) :=
  inferInstanceAs (Decidable (_ ∨ ∃ given ∈ size, SizeOutOfRange start given))

/-! ## The expressions for a place and a length -/

/-- The place at which a part starts, around an expression for the length of the text. -/
def placeFrom (start : Int) (length : Sql) : Sql :=
  if 0 ≤ start then .integer (start + 1)
  else
    .call .greatest
      [.binary .add (.binary .subtract length (.integer (-start))) (.integer 1), .integer 1]

/-- The length of a part, around an expression for the length of the text. -/
def lengthFrom (start : Int) (length : Sql) (size : Int) : Sql :=
  if 0 ≤ size then .integer size
  else if start < 0 then
    .call .greatest
      [.binary .subtract (.call .least [length, .integer (-start)]) (.integer (-size)), .integer 0]
  else .call .greatest [.binary .subtract length (.integer (start + -size)), .integer 0]

section

variable
  {answer : Request → Except Error Sql}
  {setting : Setting}
  {call : Call}
  {text : Rule}
  {source : Sql}
  {start : Int}

/-- A number that is checked either ends the plan or is gone on with. -/
theorem bind_inRange
    {α : Type}
    {refused : Prop} [Decidable refused]
    {value : Int}
    (fits : isSigned value = true ↔ ¬ refused)
    (next : Int → Plan α) :
    (inRange call value >>= next) =
      if refused then call.fail .offsetOutOfRange else next value := by
  by_cases out : refused
  · rw [inRange, if_neg (fun signed => fits.mp signed out), if_pos out]
    rfl
  · rw [inRange, if_pos (fits.mpr out), if_neg out]
    rfl

theorem integer?_integer {value : Int} (signed : isSigned value = true) :
    integer? (.number (.integer value)) = some value := by
  simp [integer?, Number.toSigned?, signed]

theorem start_literal (signed : isSigned start = true) (length : Sql) :
    Strings.start call length (.literal start) =
      if StartOutOfRange start then call.fail .offsetOutOfRange
      else .done (placeFrom start length) := by
  have range := signedBound_eq
  rw [isSigned_iff] at signed
  simp only [Strings.start, placeFrom]
  split
  · refine bind_inRange ?_ _
    rw [isSigned_iff, StartOutOfRange]
    omega
  · refine bind_inRange ?_ _
    rw [isSigned_iff, StartOutOfRange]
    omega

theorem partLength_literal
    {size : Int}
    (signedSize : isSigned size = true)
    (signed : isSigned start = true)
    (inside : ¬ StartOutOfRange start)
    (length : Sql) :
    partLength setting call length (.literal start) (.number (.integer size)) =
      if SizeOutOfRange start size then call.fail .offsetOutOfRange
      else .done (lengthFrom start length size) := by
  have range := signedBound_eq
  have written := integer?_integer signedSize
  rw [isSigned_iff] at signedSize signed
  rw [StartOutOfRange] at inside
  simp only [partLength, written, lengthFrom]
  split
  · rw [if_neg (by rw [SizeOutOfRange]; omega)]
  -- the characters to leave out are counted first, and then what they are taken from
  have fits : isSigned (-size) = true ↔ ¬ size = -signedBound := by
    rw [isSigned_iff]
    omega
  rw [bind_inRange fits]
  split
  · rename_i out
    rw [if_pos (.inl out)]
  rw [lengthWithout]
  split
  · -- a start from the end has been checked already, and checking it again cannot fail
    rw [inRange, if_pos (by rw [isSigned_iff]; omega), if_neg (by rw [SizeOutOfRange]; omega)]
    rfl
  · refine bind_inRange ?_ _
    rw [isSigned_iff, SizeOutOfRange]
    omega

theorem admits_number (usage : Usage) (value : Number) :
    setting.Admits usage (.number value) := by
  obtain ⟨schema, scope⟩ := setting
  cases scope <;> cases schema <;> simp [Setting.Admits, Setting.field?, Rule.variableName?]

/-- What is left to do of a plan when the text and the start are known. -/
def selection
    (setting : Setting)
    (call : Call)
    (source : Sql)
    (shift : Offset)
    (length : Option Rule) : Plan Sql := do
  let first ← Strings.start call (.textLength source) shift
  match length with
  | none => return .substring source first none
  | some length =>
      return .substring source first
        (some (← partLength setting call (.textLength source) shift length))

/-- Taking a part compiles the text, then the start, and goes on with them. -/
theorem run_substr_eq
    {place : Rule}
    {length : Option Rule}
    {shift : Offset}
    (listed : call.arguments = .list (text :: place :: length.toList))
    (admitted : setting.Admits .string text)
    (admittedPlace : setting.Admits .numeric place)
    (admittedLength : ∀ operand ∈ length, setting.Admits .numeric operand)
    (asked : answer (setting.operandRequest none 0) = .ok source)
    (shifted : (offset setting 1 place).run answer = .ok shift) :
    (substr setting call).run answer = (selection setting call source shift length).run answer := by
  have gate (usage : Usage) (index : Nat) (rule : Rule) (admits : setting.Admits usage rule) :
      (setting.gate call usage index rule).run answer = .ok () :=
    (Setting.run_gate_eq_ok_iff ..).mpr admits
  have given : (setting.ask 0 none).run answer = .ok source := by
    rw [Setting.run_ask, asked]
  rw [substr, Plan.run_bind_of_run_eq_ok ((Call.run_listed_eq_ok_iff ..).mpr listed)]
  cases length with
  | none =>
      simp only [Option.toList_none]
      rw [Plan.run_bind_of_run_eq_ok (gate _ _ _ admitted),
        Plan.run_bind_of_run_eq_ok (gate _ _ _ admittedPlace), Plan.run_bind_of_run_eq_ok given,
        Plan.run_bind_of_run_eq_ok shifted]
      rfl
  | some length =>
      simp only [Option.toList_some]
      rw [Plan.run_bind_of_run_eq_ok (gate _ _ _ admitted),
        Plan.run_bind_of_run_eq_ok (gate _ _ _ admittedPlace),
        Plan.run_bind_of_run_eq_ok (gate _ _ _ (admittedLength length rfl)),
        Plan.run_bind_of_run_eq_ok given, Plan.run_bind_of_run_eq_ok shifted]
      rfl

theorem run_offset_integer (signed : isSigned start = true) (index : Nat) :
    (offset setting index (.number (.integer start))).run answer = .ok (.literal start) := by
  simp [offset, integer?_integer signed]

/-- Integer offsets give the place and the length if they are in range. -/
theorem run_selection_integers
    {size : Option Int}
    (signed : isSigned start = true)
    (signedSize : ∀ given ∈ size, isSigned given = true) :
    (selection setting call source (.literal start) (size.map (.number <| .integer ·))).run answer =
      if OutOfRange start size then .error (call.error .offsetOutOfRange)
      else
        .ok (.substring source (placeFrom start (.textLength source))
          (size.map (lengthFrom start (.textLength source)))) := by
  rw [selection, start_literal signed]
  by_cases out : StartOutOfRange start
  · rw [if_pos out, if_pos (.inl out)]
    rfl
  rw [if_neg out, Plan.run_bind_of_run_eq_ok (Plan.run_done _)]
  cases size with
  | none =>
      rw [if_neg (by simp [OutOfRange, out])]
      rfl
  | some size =>
      simp only [Option.map_some, partLength_literal (signedSize size rfl) signed out]
      by_cases long : SizeOutOfRange start size
      · rw [if_pos long, if_pos (.inr ⟨size, rfl, long⟩)]
        rfl
      · rw [if_neg long, if_neg (by simp [OutOfRange, out, long])]
        rfl

end

/-! ## Their values -/

section

variable
  {dialect : Dialect}
  {start : Int}
  {length : Nat}

/-- The place of a start among a number of characters, counted from one. -/
def placeAmong (length : Nat) (start : Int) : Int :=
  if 0 ≤ start then start + 1 else max (length - -start + 1) 1

/-- The number of characters from a start on, among a number of characters. -/
def sizeAmong (length : Nat) (start size : Int) : Int :=
  if 0 ≤ size then size
  else if start < 0 then max (min (length : Int) (-start) - -size) 0
  else max (length - (start + -size)) 0

theorem one_le_placeAmong (length : Nat) (start : Int) : 1 ≤ placeAmong length start := by
  unfold placeAmong
  split <;> omega

theorem sizeAmong_nonneg (length : Nat) (start size : Int) : 0 ≤ sizeAmong length start size := by
  unfold sizeAmong
  split
  · assumption
  · split <;> omega

theorem amounts_placeFrom
    (signed : isSigned start = true)
    (inside : ¬ StartOutOfRange start)
    (signedLength : isSigned length = true) :
    Amounts dialect 1 (placeFrom start (.integer length)) (placeAmong length start) := by
  have range := signedBound_eq
  rw [isSigned_iff] at signed
  have most := (isSigned_iff _).mp signedLength
  rw [StartOutOfRange] at inside
  rw [placeFrom, placeAmong]
  split
  · exact .integer (by rw [isSigned_iff]; omega) (by omega)
  · have total : Amounts dialect 5 (.integer length) length := .integer signedLength (by omega)
    have fromEnd : Amounts dialect 6 (.integer (-start)) (-start) :=
      .integer (by rw [isSigned_iff]; omega) (by omega)
    have remaining := total.subtract fromEnd (by rw [isSigned_iff]; omega)
    have one : Amounts dialect 6 (.integer 1) 1 := .integer rfl (by decide)
    have counted := remaining.add one (by rw [isSigned_iff]; omega)
    exact (counted.mono (by decide)).greatest (.integer rfl (by decide))

theorem amounts_lengthFrom
    {size : Int}
    (signed : isSigned start = true)
    (signedSize : isSigned size = true)
    (insideStart : ¬ StartOutOfRange start)
    (inside : ¬ SizeOutOfRange start size)
    (signedLength : isSigned length = true) :
    Amounts dialect 1 (lengthFrom start (.integer length) size) (sizeAmong length start size) := by
  have range := signedBound_eq
  have most := (isSigned_iff _).mp signedLength
  have small := (isSigned_iff _).mp signedSize
  rw [isSigned_iff] at signed
  rw [StartOutOfRange] at insideStart
  rw [SizeOutOfRange] at inside
  rw [lengthFrom, sizeAmong]
  split
  · exact .integer signedSize (by omega)
  split
  · have total : Amounts dialect 1 (.integer length) length := .integer signedLength (by omega)
    have fromEnd : Amounts dialect 1 (.integer (-start)) (-start) :=
      .integer (by rw [isSigned_iff]; omega) (by omega)
    have dropped : Amounts dialect 6 (.integer (-size)) (-size) :=
      .integer (by rw [isSigned_iff]; omega) (by omega)
    have kept := (total.least fromEnd).subtract dropped (by rw [isSigned_iff]; omega)
    exact (kept.mono (by decide)).greatest (.integer rfl (by decide))
  · have total : Amounts dialect 5 (.integer length) length := .integer signedLength (by omega)
    have without : Amounts dialect 6 (.integer (start + -size)) (start + -size) :=
      .integer (by rw [isSigned_iff]; omega) (by omega)
    have kept := total.subtract without (by rw [isSigned_iff]; omega)
    exact (kept.mono (by decide)).greatest (.integer rfl (by decide))

/-- What is selected in SQL is what the rule selects. -/
theorem window_eq_part (text : List Char) (start : Int) (size : Option Int) :
    window text (placeAmong text.length start) (size.map (sizeAmong text.length start)) =
      part text start size := by
  have skipped : (placeAmong text.length start - 1).toNat =
      (if 0 ≤ start then start else max (text.length + start) 0).toNat := by
    unfold placeAmong
    split <;> omega
  cases size with
  | none => simp only [window, part, Option.map_none, skipped]
  | some size =>
      simp only [window, part, Option.map_some, skipped, sizeAmong]
      split
      · rfl
      · congr 1
        rw [List.length_drop]
        split <;> split <;> omega

end

/--
For a text that compiles and any two 64-bit integers for its start and its length, taking the
part fails as an invalid argument exactly if the offsets are out of range.  Otherwise it compiles,
and for every text of fewer than 2^63 characters the place and the length that are handed to SQL
are integers that are worked out within 64 bits, a place from one on and a length from zero on;
what SQL selects by them is what the rule selects.
-/
theorem substr_selects_part
    (target : Target)
    (position : Position)
    (scope : Scope)
    (hint : Option FieldType)
    (text : Rule)
    (source : Sql)
    (start : Int)
    (size : Option Int)
    (signed : isSigned start = true)
    (signedSize : ∀ given ∈ size, isSigned given = true)
    (bound : position.depth ≤ target.maxDepth)
    (admitted : Setting.Admits ⟨target.schema, scope⟩ .string text)
    (compiled : compileAt target.context text (position.argument Operator.substr.name (some 0))
      scope none = .ok source) :
    ((∃ error,
        compileAt target.context (substrRule text start size) position scope hint = .error error ∧
          error.code = .invalidArgument) ↔ OutOfRange start size) ∧
      (¬ OutOfRange start size →
        compileAt target.context (substrRule text start size) position scope hint =
            .ok (.substring source (placeFrom start (.textLength source))
              (size.map (lengthFrom start (.textLength source)))) ∧
          ∀ characters : List Char, isSigned characters.length = true →
            ∃ (first : Int) (count : Option Int),
              evaluateSigned
                  ((placeFrom start (.integer characters.length)).render target.dialect) =
                some first ∧
              (size.map fun size => evaluateSigned
                  ((lengthFrom start (.integer characters.length) size).render target.dialect)) =
                count.map some ∧
              1 ≤ first ∧ (∀ given ∈ count, 0 ≤ given) ∧
              window characters first count = part characters start size) := by
  have ends : compileAt target.context (substrRule text start size) position scope hint = _ :=
    (compileAt_operator_eq (target.custom_context_operator_name .substr) _ bound scope hint).trans
      (congrArg _ ((run_substr_eq rfl admitted (admits_number _ _) (by simp [admits_number])
        ((answer_operand rfl ..).trans compiled) (run_offset_integer signed 1)).trans
        (run_selection_integers signed signedSize)))
  rw [ends]
  by_cases out : OutOfRange start size
  · rw [if_pos out]
    exact ⟨⟨fun _ => out, fun _ => ⟨_, rfl, rfl⟩⟩, fun inside => absurd out inside⟩
  · rw [if_neg out]
    refine ⟨⟨?_, fun refused => absurd refused out⟩, fun _ => ⟨rfl, ?_⟩⟩
    · rintro ⟨_, failed, _⟩
      simp [Except.mapError] at failed
    intro characters signedLength
    obtain ⟨insideStart, insideSize⟩ := not_or.mp out
    refine ⟨placeAmong characters.length start, size.map (sizeAmong characters.length start),
      (amounts_placeFrom signed insideStart signedLength).evaluateSigned_eq, ?_,
      one_le_placeAmong _ _, ?_, window_eq_part characters start size⟩
    · rw [Option.map_map]
      refine Option.map_congr fun given member => ?_
      exact (amounts_lengthFrom signed (signedSize given member) insideStart
        (fun long => insideSize ⟨given, member, long⟩) signedLength).evaluateSigned_eq
    · rintro given member
      obtain ⟨_, _, rfl⟩ := Option.map_eq_some_iff.mp member
      exact sizeAmong_nonneg _ _ _

/-- A start before the first character and a length that leaves out the last one. -/
theorem substr_selects_part_of_greeting :
    isSigned (-10) = true ∧ isSigned (-1) = true ∧ ¬ OutOfRange (-10) (some (-1)) ∧
      compileAt (Target.ofDialect .postgreSQL).context
          (substrRule (.operation "var" (.string "greeting")) (-10) (some (-1))) .start .row none =
        .ok (.substring (.column "greeting")
          (.call .greatest
            [.binary .add (.binary .subtract (.textLength (.column "greeting")) (.integer 10))
              (.integer 1), .integer 1])
          (some (.call .greatest
            [.binary .subtract
              (.call .least [.textLength (.column "greeting"), .integer 10]) (.integer 1),
             .integer 0]))) ∧
      ∃ (first : Int) (count : Option Int),
        evaluateSigned "GREATEST(5 - 10 + 1, 1)" = some first ∧
        some (evaluateSigned "GREATEST(LEAST(5, 10) - 1, 0)") = count.map some ∧
        window ['h', 'e', 'l', 'l', 'o'] first count = ['h', 'e', 'l', 'l'] := by
  have inside : ¬ OutOfRange (-10) (some (-1)) := by decide
  have admitted : Setting.Admits ⟨none, .row⟩ .string (.operation "var" (.string "greeting")) := by
    simp [Setting.Admits, Setting.field?]
  have selected := (substr_selects_part (.ofDialect .postgreSQL) .start .row none
    (.operation "var" (.string "greeting")) (.column "greeting") (-10) (some (-1)) (by decide)
    (by decide) (by decide) admitted rfl).2 inside
  obtain ⟨first, count, place, length, _, _, selects⟩ :=
    selected.2 ['h', 'e', 'l', 'l', 'o'] (by decide)
  exact ⟨by decide, by decide, inside, selected.1, first, count, place, length, selects⟩

end Strings
end RuleClause
