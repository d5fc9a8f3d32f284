import RuleClause.Proofs.Lexical.Numeral
import RuleClause.Proofs.TextWindow

/-!
# Offsets that are whole numbers

One whole number can be held in several ways: as a signed 64-bit integer, as an unsigned one, or
as a floating-point number.  Only the first counts as an integer when a part of a text is taken;
the others go to SQL as they are.  This module says what a call gives in either case, and for
which numbers the two cases agree.
-/

namespace RuleClause

namespace Number

/-- The magnitude of a double-precision number in multiples of the least one, from its bits. -/
def multiples (bits : Nat) : Nat :=
  let biased := bits / Decimal.leadingBit % Decimal.exponentCount
  let fraction := bits % Decimal.leadingBit
  if biased = 0 then fraction else (Decimal.leadingBit + fraction) * Nat.pow 2 (biased - 1)

/-- One as a multiple of the least double-precision number. -/
def unitMultiples : Nat := Nat.pow 2 1074

/-- A double-precision number, given by its bits, has a value. -/
def isFinite (bits : Nat) : Bool :=
  bits / Decimal.leadingBit % Decimal.exponentCount + 1 < Decimal.exponentCount

/-- The whole number that a number equals, however it is held. -/
def whole? : Number → Option Int
  | .integer value => some value
  | .float value =>
      let bits := value.toBits.toNat
      let magnitude := multiples bits / unitMultiples
      if isFinite bits ∧ multiples bits % unitMultiples = 0 then
        some (if bits < signBit then magnitude else -magnitude)
      else none

example :
    (Number.float (-2.0)).whole? = some (-2) ∧ (Number.float 2.5).whole? = none ∧
      (Number.float 18446744073709551616.0).whole? = some 18446744073709551616 := by
  decide +kernel

theorem toSigned?_eq_some_iff (number : Number) (value : Int) :
    number.toSigned? = some value ↔ number = .integer value ∧ isSigned value = true := by
  cases number with
  | integer held =>
      simp only [toSigned?, Option.ite_none_right_eq_some, Option.some.injEq, integer.injEq]
      constructor
      · rintro ⟨signed, rfl⟩
        exact ⟨rfl, signed⟩
      · rintro ⟨rfl, signed⟩
        exact ⟨signed, rfl⟩
  | float held => simp [toSigned?]

/-- What a whole number is held as decides whether it counts as an integer. -/
theorem toSigned?_eq_none_of_ne
    {number : Number}
    {value : Int}
    (whole : number.whole? = some value)
    (other : number.toSigned? ≠ some value) :
    number.toSigned? = none := by
  cases number with
  | integer held =>
      obtain rfl : held = value := by simpa [whole?] using whole
      by_cases signed : isSigned held = true
      · exact absurd (by simp [toSigned?, signed]) other
      · simp [toSigned?, signed]
  | float held => rfl

end Number

namespace Strings

open Number (isSigned isSigned_iff signedBound)

/-! ## Calls that differ in one number -/

/-- The part of a text, as a rule. -/
def partRule (text place : Rule) (length : Option Rule) : Rule :=
  .operation Operator.substr.name (.list (text :: place :: length.toList))

/-- The place of a number among the arguments, with what stands at the other place. -/
inductive Slot where
  /-- The start, in front of a length if there is one. -/
  | start (length : Option Rule)
  /-- The length, after a start. -/
  | length (place : Rule)

namespace Slot

/-- The part of a text, with a number in the slot. -/
def rule (text : Rule) (number : Number) : Slot → Rule
  | .start size => partRule text (.number number) size
  | .length place => partRule text place (some (.number number))

/--
A number does in a slot what the integer of its value does: it is held as that integer, or it is
a length whose text is the one of that integer.
-/
def Keeps (slot : Slot) (number : Number) (value : Int) : Prop :=
  number.toSigned? = some value ∨
    match slot with
    | .start _ => False
    | .length _ =>
        0 ≤ value ∧ isSigned value = true ∧ number.canonicalText = (Number.integer value).text

end Slot

/--
A call gives what the call with an integer for its number gives; where that integer does not fit
64 bits, it fails as an invalid argument.
-/
def Alike (dialect : Dialect) (value : Int) (given withInteger : Except Error Sql) : Prop :=
  if isSigned value then given.map (·.render dialect) = withInteger.map (·.render dialect)
  else ∃ error, given = .error error ∧ error.code = .invalidArgument

/-- A call that compiles is like another if that compiles to the same text. -/
theorem alike_ok_iff
    (dialect : Dialect)
    (value : Int)
    (expression : Sql)
    (withInteger : Except Error Sql) :
    Alike dialect value (.ok expression) withInteger ↔
      isSigned value = true ∧ ∃ other, withInteger = .ok other ∧
        expression.render dialect = other.render dialect := by
  unfold Alike
  split
  · rename_i signed
    cases withInteger <;> simp [Except.map, signed]
  · rename_i unsigned
    simp [unsigned]

section

variable
  {answer other : Request → Except Error Sql}
  {setting : Setting}
  {call : Call}
  {source first expression : Sql}
  {shift : Offset}
  {number : Number}
  {value : Int}

/-- A part that is taken has passed the checks of its operands, and the rest goes through. -/
theorem of_run_substr_listed
    {text place : Rule}
    {length : Option Rule}
    (listed : call.arguments = .list (text :: place :: length.toList))
    (ended : (substr setting call).run answer = .ok expression) :
    (setting.Admits .string text ∧ setting.Admits .numeric place ∧
        ∀ operand ∈ length, setting.Admits .numeric operand) ∧
      ∃ source shift, answer (setting.operandRequest none 0) = .ok source ∧
        (offset setting 1 place).run answer = .ok shift ∧
        (selection setting call source shift length).run answer = .ok expression := by
  obtain ⟨_, _, source, shift, first, admitted, admittedPlace, asked, shifted, started, ended⟩ :=
    of_run_substr ended
  rcases ended with ⟨arguments, rfl⟩ | ⟨operand, size, arguments, admittedLength, measured, rfl⟩
  · rw [listed, Rule.list.injEq, List.cons.injEq, List.cons.injEq] at arguments
    obtain ⟨rfl, rfl, none⟩ := arguments
    obtain rfl : length = Option.none := by simpa using none
    refine ⟨⟨admitted, admittedPlace, by simp⟩, source, shift, asked, shifted, ?_⟩
    rw [selection, Plan.run_bind_of_run_eq_ok started]
    rfl
  · rw [listed, Rule.list.injEq, List.cons.injEq, List.cons.injEq] at arguments
    obtain ⟨rfl, rfl, single⟩ := arguments
    obtain rfl : length = some operand := by simpa using single
    refine ⟨⟨admitted, admittedPlace, ?_⟩, source, shift, asked, shifted, ?_⟩
    · rintro _ ⟨⟩
      exact admittedLength
    · rw [selection, Plan.run_bind_of_run_eq_ok started, Plan.run_bind_of_run_eq_ok measured]
      rfl

/-- A number that is no signed 64-bit integer goes to SQL as it is. -/
theorem run_offset_number
    (unsigned : number.toSigned? = none)
    {index : Nat}
    (asked : answer (setting.operandRequest (some .number) index) = .ok (.ofNumber number)) :
    (offset setting index (.number number)).run answer = .ok (.dynamic (.ofNumber number)) := by
  simp only [offset, integer?, unsigned, Plan.run_bind_eq_ok_iff, Setting.run_ask]
  exact ⟨_, asked, rfl⟩

theorem run_offset_congr
    {index : Nat}
    (agree : other (setting.operandRequest (some .number) index) =
      answer (setting.operandRequest (some .number) index))
    (operand : Rule) :
    (offset setting index operand).run other = (offset setting index operand).run answer := by
  unfold offset
  split
  · rfl
  · change ((setting.ask index (some .number)).bind _).run other =
      ((setting.ask index (some .number)).bind _).run answer
    rw [Plan.run_bind, Plan.run_bind, Setting.run_ask, Setting.run_ask, agree]
    rfl

/-- A length that is measured from the front is measured from any expression. -/
theorem exists_run_partLength_dynamic
    {length size : Sql}
    {operand : Rule}
    (ended : (partLength setting call length (.literal 0) operand).run answer = .ok size)
    (agree : other (setting.operandRequest (some .number) 2) =
      answer (setting.operandRequest (some .number) 2))
    (next : Call)
    (place : Sql) :
    ∃ size, (partLength setting next length (.dynamic place) operand).run other = .ok size := by
  unfold partLength at ended ⊢
  split
  · rename_i given written
    simp only [written] at ended
    split
    · exact ⟨_, rfl⟩
    · rename_i negative
      simp only [if_neg negative, Plan.run_bind_eq_ok_iff] at ended
      obtain ⟨dropped, fits, _⟩ := ended
      have signed : isSigned (-given) = true := by
        by_contra unsigned
        simp [inRange, unsigned, Call.fail] at fits
      rw [inRange, if_pos signed]
      exact ⟨_, rfl⟩
  · rename_i unwritten
    simp only [unwritten, Setting.run_ask] at ended ⊢
    exact ⟨size, agree.trans ended⟩

/-- Nothing is refused about a start that goes to SQL as it is. -/
theorem run_selection_dynamic
    {length : Option Rule}
    (ended : (selection setting call source (.literal 0) length).run answer = .ok expression)
    (agree : other (setting.operandRequest (some .number) 2) =
      answer (setting.operandRequest (some .number) 2))
    (next : Call)
    (place : Sql) :
    ∃ size, (selection setting next source (.dynamic place) length).run other =
      .ok (.substring source (.group .add [place, .integer 1]) size) := by
  rw [selection, Plan.run_bind_eq_ok_iff] at ended
  obtain ⟨first, _, ended⟩ := ended
  cases length with
  | none => exact ⟨none, rfl⟩
  | some operand =>
      simp only [Plan.run_bind_eq_ok_iff] at ended
      obtain ⟨_, measured, _⟩ := ended
      obtain ⟨size, measured⟩ := exists_run_partLength_dynamic measured agree next place
      refine ⟨some size, ?_⟩
      rw [selection, Strings.start, Plan.run_bind_of_run_eq_ok (Plan.run_done _),
        Plan.run_bind_of_run_eq_ok measured]
      rfl

/-- An integer start is the place that it stands for. -/
theorem of_run_selection_literal
    {length : Option Rule}
    (signed : isSigned value = true)
    (ended : (selection setting call source (.literal value) length).run answer = .ok expression) :
    ∃ size, expression = .substring source (placeFrom value (.textLength source)) size := by
  rw [selection, start_literal signed, Plan.run_bind_eq_ok_iff] at ended
  obtain ⟨first, started, ended⟩ := ended
  obtain rfl : placeFrom value (.textLength source) = first := by
    split at started
    · simp [Call.fail] at started
    · simpa using started
  cases length with
  | none => exact ⟨none, by simpa using ended.symm⟩
  | some operand =>
      simp only [Plan.run_bind_eq_ok_iff] at ended
      obtain ⟨size, _, ended⟩ := ended
      exact ⟨some size, by simpa using ended.symm⟩

/-- A length that leaves characters off is clamped. -/
theorem of_run_partLength_negative
    {length size : Sql}
    (signed : isSigned value = true)
    (negative : value < 0)
    (ended : (partLength setting call length shift (.number (.integer value))).run answer =
      .ok size) :
    ∃ arguments, size = .call .greatest arguments := by
  have written := integer?_integer signed
  have below : ¬ 0 ≤ value := by omega
  simp only [partLength, written, if_neg below, Plan.run_bind_eq_ok_iff] at ended
  obtain ⟨dropped, _, ended⟩ := ended
  unfold lengthWithout at ended
  split at ended
  · split at ended
    · rw [Plan.run_bind_eq_ok_iff] at ended
      obtain ⟨_, _, ended⟩ := ended
      exact ⟨_, by simpa using ended.symm⟩
    · rw [Plan.run_bind_eq_ok_iff] at ended
      obtain ⟨_, _, ended⟩ := ended
      exact ⟨_, by simpa using ended.symm⟩
  · exact ⟨_, by simpa using ended.symm⟩

/-- Whether a number is in range does not depend on who asks. -/
theorem run_inRange_congr
    {middle : Int}
    (fits : (inRange call value).run answer = .ok middle)
    (next : Call) :
    (inRange next value).run other = .ok middle := by
  unfold inRange at fits ⊢
  split at fits
  · rename_i signed
    rw [if_pos signed]
    exact fits
  · simp [Call.fail] at fits

/-- Where a part starts does not depend on who asks. -/
theorem run_start_of_run_start
    {length : Sql}
    (started : (Strings.start call length shift).run answer = .ok first)
    (next : Call) :
    (Strings.start next length shift).run other = .ok first := by
  cases shift with
  | dynamic place => exact started
  | literal value =>
      simp only [Strings.start] at started ⊢
      split at started
      · rename_i natural
        rw [if_pos natural]
        rw [Plan.run_bind_eq_ok_iff] at started ⊢
        obtain ⟨middle, fits, ended⟩ := started
        exact ⟨middle, run_inRange_congr fits next, ended⟩
      · rename_i negative
        rw [if_neg negative]
        rw [Plan.run_bind_eq_ok_iff] at started ⊢
        obtain ⟨middle, fits, ended⟩ := started
        exact ⟨middle, run_inRange_congr fits next, ended⟩

theorem run_selection_some_eq_ok_iff (operand : Rule) :
    (selection setting call source shift (some operand)).run answer = .ok expression ↔
      ∃ first size, (Strings.start call (.textLength source) shift).run answer = .ok first ∧
        (partLength setting call (.textLength source) shift operand).run answer = .ok size ∧
        .substring source first (some size) = expression := by
  simp only [selection, Plan.run_bind_eq_ok_iff, Plan.run_pure, Except.ok.injEq]
  constructor
  · rintro ⟨first, started, size, measured, rfl⟩
    exact ⟨first, size, started, measured, rfl⟩
  · rintro ⟨first, size, started, measured, rfl⟩
    exact ⟨first, started, size, measured, rfl⟩

end

/-! ## Texts that differ -/

section

variable {dialect : Dialect} {source : Sql}

/-- Around the start and the length, the text of a part is always the same. -/
theorem exists_substring_eq (dialect : Dialect) (text : String) :
    ∃ front between, ∀ start length,
      dialect.substring text start length =
        front ++ (start ++ length.elim ")" fun length => between ++ length ++ ")") := by
  cases form : dialect.forms.substring with
  | call function =>
      refine ⟨function ++ "(" ++ text ++ ", ", ", ", fun start length => ?_⟩
      cases length <;>
        simp [Dialect.substring, form, Dialect.call, Dialect.parenthesized, Dialect.commas,
          String.append_assoc]
  | keywords =>
      refine ⟨"SUBSTRING(" ++ text ++ " FROM ", " FOR ", fun start length => ?_⟩
      cases length <;> simp [Dialect.substring, form, String.append_assoc]

theorem render_substring (first : Sql) (size : Option Sql) :
    (Sql.substring source first size).render dialect =
      dialect.substring (source.render dialect) (first.render dialect)
        (size.map (·.render dialect)) := by
  cases size <;> simp [Sql.render]

theorem render_group_head (operator : BinaryOp) (terms : List Sql) :
    ((Sql.group operator terms).render dialect).toList.head? = some '(' := by
  simp [Sql.render, Dialect.parenthesized]

/-- A place that is worked out does not stand in parentheses. -/
theorem render_placeFrom_head (dialect : Dialect) (start : Int) (length : Sql) :
    ∃ character, ((placeFrom start length).render dialect).toList.head? = some character ∧
      character ≠ '(' := by
  unfold placeFrom
  split
  · obtain ⟨natural, next⟩ : ∃ natural : Nat, start + 1 = natural := ⟨(start + 1).toNat, by omega⟩
    rw [next]
    change ∃ character, (Nat.repr natural).toList.head? = some character ∧ character ≠ '('
    rw [Nat.toList_repr]
    cases digits : Nat.toDigits 10 natural with
    | nil => exact absurd digits Nat.toDigits_ne_nil
    | cons character rest =>
        refine ⟨character, rfl, ?_⟩
        rintro rfl
        exact isCalm_of_mem_toDigits (by rw [digits]; exact List.mem_cons_self) (by decide)
  · exact ⟨'G', by simp [Sql.render, Dialect.call, Function.name], by decide⟩

/-- A start in parentheses cannot be mistaken for a place that is worked out. -/
theorem render_substring_group_ne
    (operator : BinaryOp)
    (terms : List Sql)
    (start : Int)
    (length : Sql)
    (size other : Option Sql) :
    (Sql.substring source (.group operator terms) size).render dialect ≠
      (Sql.substring source (placeFrom start length) other).render dialect := by
  intro same
  obtain ⟨front, between, written⟩ := exists_substring_eq dialect (source.render dialect)
  rw [render_substring, render_substring, written, written, String.append_right_inj] at same
  obtain ⟨character, starts, apart⟩ := render_placeFrom_head dialect start length
  have heads := congrArg (·.toList.head?) same
  simp only [String.toList_append, List.head?_append, render_group_head, starts, Option.some_or,
    Option.some.injEq] at heads
  exact apart heads.symm

theorem render_substring_size_inj (first size other : Sql) :
    (Sql.substring source first (some size)).render dialect =
        (Sql.substring source first (some other)).render dialect ↔
      size.render dialect = other.render dialect := by
  obtain ⟨front, between, written⟩ := exists_substring_eq dialect (source.render dialect)
  simp [render_substring, written]

theorem render_integer {value : Int} (dialect : Dialect) (natural : 0 ≤ value) :
    (Sql.integer value).render dialect = (Number.integer value).text := by
  obtain ⟨count, rfl⟩ := Int.eq_ofNat_of_zero_le natural
  rfl

/-- No number is written with a function. -/
theorem canonicalText_ne_call (number : Number) (function : Function) (arguments : List Sql) :
    number.canonicalText ≠ (Sql.call function arguments).render dialect := by
  intro same
  have plain := (inert_canonicalText number).plain '('
  rw [same] at plain
  exact plain (by simp [Sql.render, Dialect.call, Dialect.parenthesized]) (by decide)

end

/-! ## Compiling -/

section

variable
  {target : Target}
  {position : Position}
  {scope : Scope}
  {hint : Option FieldType}
  {text place other : Rule}
  {length : Option Rule}
  {expression : Sql}

/-- The call that takes a part of a text at a position. -/
def partCall (position : Position) (text place : Rule) (length : Option Rule) : Call :=
  ⟨Operator.substr.name, .list (text :: place :: length.toList),
    position.operationPath Operator.substr.name⟩

/-- The answers to the requests of that call. -/
def partAnswer
    (target : Target)
    (position : Position)
    (text place : Rule)
    (length : Option Rule) : Request → Except Error Sql :=
  OperandCompiler.answer (operandsAt target.context Operator.substr.name
    (.list (text :: place :: length.toList)) position)

theorem partAnswer_text (hint : Option FieldType) :
    partAnswer target position text place length ⟨.operand 0, scope, hint⟩ =
      compileAt target.context text (position.argument Operator.substr.name (some 0)) scope hint :=
  answer_operand rfl scope hint

theorem partAnswer_place (hint : Option FieldType) :
    partAnswer target position text place length ⟨.operand 1, scope, hint⟩ =
      compileAt target.context place (position.argument Operator.substr.name (some 1)) scope hint :=
  answer_operand rfl scope hint

theorem partAnswer_length (hint : Option FieldType) :
    partAnswer target position text place (some other) ⟨.operand 2, scope, hint⟩ =
      compileAt target.context other (position.argument Operator.substr.name (some 2)) scope hint :=
  answer_operand rfl scope hint

theorem partAnswer_length_congr (place other : Rule) (hint : Option FieldType) :
    partAnswer target position text place length ⟨.operand 2, scope, hint⟩ =
      partAnswer target position text other length ⟨.operand 2, scope, hint⟩ := by
  cases length <;> rfl

/-- Taking a part compiles if the text and the start do and the rest goes through. -/
theorem compileAt_partRule_eq_ok_iff :
    compileAt target.context (partRule text place length) position scope hint = .ok expression ↔
      position.depth ≤ target.maxDepth ∧
        (Setting.Admits ⟨target.schema, scope⟩ .string text ∧
          Setting.Admits ⟨target.schema, scope⟩ .numeric place ∧
          ∀ operand ∈ length, Setting.Admits ⟨target.schema, scope⟩ .numeric operand) ∧
        ∃ source shift,
          compileAt target.context text (position.argument Operator.substr.name (some 0)) scope
            none = .ok source ∧
          (offset ⟨target.schema, scope⟩ 1 place).run
            (partAnswer target position text place length) = .ok shift ∧
          (selection ⟨target.schema, scope⟩ (partCall position text place length) source shift
            length).run (partAnswer target position text place length) = .ok expression := by
  rw [partRule, compileAt_operator_eq_ok_iff (target.custom_context_operator_name _)]
  refine and_congr_right fun bound => ?_
  change (substr ⟨target.schema, scope⟩ (partCall position text place length)).run
    (partAnswer target position text place length) = .ok expression ↔ _
  constructor
  · intro ended
    obtain ⟨admitted, source, shift, asked, shifted, ended⟩ := of_run_substr_listed rfl ended
    exact ⟨admitted, source, shift, (partAnswer_text none).symm.trans asked, shifted, ended⟩
  · rintro ⟨⟨admitted, admittedPlace, admittedLength⟩, source, shift, compiled, shifted, ended⟩
    rw [run_substr_eq rfl admitted admittedPlace admittedLength
      ((partAnswer_text none).trans compiled) shifted, ended]

/-- A start that is no signed 64-bit integer compiles wherever zero does, in parentheses. -/
theorem compileAt_start_number
    {number : Number}
    (value : Int)
    (unsigned : number.toSigned? = none)
    (sound : compileAt target.context (partRule text (.number (.integer 0)) length) position scope
      hint = .ok expression) :
    ∃ source size,
      compileAt target.context (partRule text (.number number) length) position scope hint =
          .ok (.substring source (.group .add [.ofNumber number, .integer 1]) size) ∧
        (isSigned value = true → ∀ other,
          compileAt target.context (partRule text (.number (.integer value)) length) position scope
              hint = .ok other →
            ∃ size, other = .substring source (placeFrom value (.textLength source)) size) := by
  obtain ⟨bound, ⟨admitted, _, admittedLength⟩, source, shift, compiled, shifted, ended⟩ :=
    compileAt_partRule_eq_ok_iff.mp sound
  obtain rfl : .literal 0 = shift :=
    Except.ok.inj ((run_offset_integer (by decide) 1).symm.trans shifted)
  obtain ⟨size, given⟩ := run_selection_dynamic ended (partAnswer_length_congr ..)
    (partCall position text (.number number) length) (.ofNumber number)
  refine ⟨source, size, ?_, fun signed other ended => ?_⟩
  · exact compileAt_partRule_eq_ok_iff.mpr ⟨bound, ⟨admitted, admits_number _ _, admittedLength⟩,
      source, _, compiled, run_offset_number unsigned (partAnswer_place _), given⟩
  · obtain ⟨_, _, again, shift, recompiled, shifted, ended⟩ :=
      compileAt_partRule_eq_ok_iff.mp ended
    obtain rfl : source = again := Except.ok.inj (compiled.symm.trans recompiled)
    obtain rfl : .literal value = shift :=
      Except.ok.inj ((run_offset_integer signed 1).symm.trans shifted)
    exact of_run_selection_literal signed ended

/-- A length that is no signed 64-bit integer compiles wherever zero does, as it is written. -/
theorem compileAt_length_number
    {number : Number}
    (value : Int)
    (unsigned : number.toSigned? = none)
    (sound : compileAt target.context (partRule text place (some (.number (.integer 0)))) position
      scope hint = .ok expression) :
    ∃ source first,
      compileAt target.context (partRule text place (some (.number number))) position scope hint =
          .ok (.substring source first (some (.ofNumber number))) ∧
        (isSigned value = true → 0 ≤ value →
          compileAt target.context (partRule text place (some (.number (.integer value)))) position
              scope hint = .ok (.substring source first (some (.integer value)))) ∧
        (isSigned value = true → value < 0 → ∀ other,
          compileAt target.context (partRule text place (some (.number (.integer value)))) position
              scope hint = .ok other →
            ∃ arguments, other = .substring source first (some (.call .greatest arguments))) := by
  obtain ⟨bound, ⟨admitted, admittedPlace, _⟩, source, shift, compiled, shifted, ended⟩ :=
    compileAt_partRule_eq_ok_iff.mp sound
  obtain ⟨first, _, started, _, _⟩ := (run_selection_some_eq_ok_iff _).mp ended
  -- the text and the start are compiled alike, whatever the length is
  have shiftedBy (operand : Rule) :
      (offset ⟨target.schema, scope⟩ 1 place).run
        (partAnswer target position text place (some operand)) = .ok shift :=
    (run_offset_congr ((partAnswer_place _).trans (partAnswer_place _).symm) place).trans shifted
  have gives
      {number : Number}
      {size : Sql}
      (measured : (partLength ⟨target.schema, scope⟩
        (partCall position text place (some (.number number))) (.textLength source) shift
        (.number number)).run (partAnswer target position text place (some (.number number))) =
          .ok size) :
      compileAt target.context (partRule text place (some (.number number))) position scope hint =
        .ok (.substring source first (some size)) := by
    refine compileAt_partRule_eq_ok_iff.mpr ⟨bound, ⟨admitted, admittedPlace, ?_⟩,
      source, shift, compiled, shiftedBy _, ?_⟩
    · rintro _ ⟨⟩
      exact admits_number _ _
    · exact (run_selection_some_eq_ok_iff _).mpr
        ⟨first, size, run_start_of_run_start started _, measured, rfl⟩
  refine ⟨source, first, gives ?_, fun signed natural => gives ?_,
    fun signed negative other ended => ?_⟩
  · simp only [partLength, integer?, unsigned]
    exact (Setting.run_ask ..).trans (partAnswer_length _)
  · simp only [partLength, integer?_integer signed, if_pos natural]
    rfl
  · obtain ⟨_, _, again, shifting, recompiled, reshifted, ended⟩ :=
      compileAt_partRule_eq_ok_iff.mp ended
    obtain rfl : source = again := Except.ok.inj (compiled.symm.trans recompiled)
    obtain rfl : shift = shifting := Except.ok.inj ((shiftedBy _).symm.trans reshifted)
    obtain ⟨begun, size, restarted, measured, rfl⟩ := (run_selection_some_eq_ok_iff _).mp ended
    obtain rfl : first = begun :=
      Except.ok.inj ((run_start_of_run_start started _).symm.trans restarted)
    obtain ⟨arguments, rfl⟩ := of_run_partLength_negative signed negative measured
    exact ⟨arguments, rfl⟩

end

/--
For every number that equals a whole number, in either slot of a call that compiles with zero
there: the call gives what the integer of that value gives, or fails where the value does not
fit 64 bits, exactly if the number is held as a signed 64-bit integer or is a length whose text
is the one of that integer.  A number that is held in another way is never refused.
-/
theorem offset_alike_iff_keeps
    (target : Target)
    (position : Position)
    (scope : Scope)
    (hint : Option FieldType)
    (text : Rule)
    (slot : Slot)
    (number : Number)
    (value : Int)
    (whole : number.whole? = some value)
    (sound : ∃ expression, compileAt target.context (slot.rule text (.integer 0)) position scope
      hint = .ok expression) :
    (Alike target.dialect value
        (compileAt target.context (slot.rule text number) position scope hint)
        (compileAt target.context (slot.rule text (.integer value)) position scope hint) ↔
      slot.Keeps number value) ∧
      (number.toSigned? = none → ∃ expression,
        compileAt target.context (slot.rule text number) position scope hint =
          .ok expression) := by
  obtain ⟨expression, sound⟩ := sound
  by_cases held : number.toSigned? = some value
  · obtain ⟨rfl, signed⟩ := (Number.toSigned?_eq_some_iff _ _).mp held
    refine ⟨⟨fun _ => .inl held, fun _ => ?_⟩, fun unsigned => ?_⟩
    · rw [Alike, if_pos signed]
    · simp [held] at unsigned
  have unsigned := Number.toSigned?_eq_none_of_ne whole held
  cases slot with
  | start length =>
      obtain ⟨source, size, compiled, asInteger⟩ := compileAt_start_number value unsigned sound
      simp only [Slot.rule, compiled, alike_ok_iff, Slot.Keeps, held, or_self, iff_false]
      refine ⟨?_, fun _ => ⟨_, rfl⟩⟩
      rintro ⟨signed, other, ended, same⟩
      obtain ⟨_, rfl⟩ := asInteger signed other ended
      exact render_substring_group_ne _ _ _ _ _ _ same
  | length place =>
      obtain ⟨source, first, compiled, natural, negative⟩ :=
        compileAt_length_number value unsigned sound
      simp only [Slot.rule, compiled, alike_ok_iff, Slot.Keeps, held, false_or]
      refine ⟨⟨?_, ?_⟩, fun _ => ⟨_, rfl⟩⟩
      · rintro ⟨signed, other, ended, same⟩
        rcases Int.lt_or_le value 0 with below | above
        · obtain ⟨_, rfl⟩ := negative signed below other ended
          exact absurd ((render_substring_size_inj ..).mp same) (canonicalText_ne_call _ _ _)
        · obtain rfl := Except.ok.inj ((natural signed above).symm.trans ended)
          exact ⟨above, signed,
            ((render_substring_size_inj ..).mp same).trans (render_integer _ above)⟩
      · rintro ⟨above, signed, same⟩
        exact ⟨signed, _, natural signed above,
          (render_substring_size_inj ..).mpr (same.trans (render_integer _ above).symm)⟩

/-- Three characters are three characters as a float, and two from the end are not. -/
theorem offset_alike_iff_keeps_of_code :
    (Number.float 3.0).whole? = some 3 ∧
      Alike .postgreSQL 3
        (compileAt (Target.ofDialect .postgreSQL).context
          ((Slot.length (.number (.integer 1))).rule (.string "code") (.float 3.0)) .start .row
          none)
        (compileAt (Target.ofDialect .postgreSQL).context
          ((Slot.length (.number (.integer 1))).rule (.string "code") (.integer 3)) .start .row
          none) ∧
      (Number.float (-2.0)).whole? = some (-2) ∧
      ¬ Alike .postgreSQL (-2)
        (compileAt (Target.ofDialect .postgreSQL).context
          ((Slot.start none).rule (.string "code") (.float (-2.0))) .start .row none)
        (compileAt (Target.ofDialect .postgreSQL).context
          ((Slot.start none).rule (.string "code") (.integer (-2))) .start .row none) := by
  have three : (Number.float 3.0).whole? = some 3 := by decide +kernel
  have minusTwo : (Number.float (-2.0)).whole? = some (-2) := by decide +kernel
  have kept : (Slot.length (.number (.integer 1))).Keeps (.float 3.0) 3 :=
    .inr ⟨by decide, by decide, by decide +kernel⟩
  have lost : ¬ (Slot.start none).Keeps (.float (-2.0)) (-2) := by
    simp [Slot.Keeps, Number.toSigned?]
  exact ⟨three,
    (offset_alike_iff_keeps (.ofDialect .postgreSQL) .start .row none (.string "code")
      (.length (.number (.integer 1))) _ _ three ⟨_, rfl⟩).1.mpr kept,
    minusTwo,
    mt (offset_alike_iff_keeps (.ofDialect .postgreSQL) .start .row none (.string "code")
      (.start none) _ _ minusTwo ⟨_, rfl⟩).1.mp lost⟩

/-- A start before the end that is held as a float counts from before the front. -/
theorem floatOffset_counts_from_front :
    (Target.ofDialect .postgreSQL).condition
        (.rule ((Slot.start none).rule (.operation "var" (.string "s")) (.float (-2.0)))) =
      .ok "SUBSTRING(s FROM (-2 + 1))" ∧
    (Target.ofDialect .postgreSQL).condition
        (.rule ((Slot.start none).rule (.operation "var" (.string "s")) (.integer (-2)))) =
      .ok "SUBSTRING(s FROM GREATEST(LENGTH(s) - 2 + 1, 1))" ∧
    (Target.ofDialect .postgreSQL).condition
        (.rule ((Slot.start none).rule (.operation "var" (.string "s"))
          (.integer 9223372036854775808))) =
      .ok "SUBSTRING(s FROM (9223372036854775808 + 1))" := by
  decide +kernel

end Strings
end RuleClause
