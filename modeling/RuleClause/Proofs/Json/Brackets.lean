import Mathlib.Tactic.SplitIfs
import RuleClause.Json.Nesting
import RuleClause.Proofs.Json.Nesting

/-!
# The scan of brackets measures nesting

The scan of brackets and the scanner of tokens go over the same characters.  They agree
on what is inside of a string, and every bracket outside of strings is a token.  So the
scan finds a well-formed text too deep exactly if its value nests deeper than the limit.
-/

namespace RuleClause
namespace Json

/-! ## Characters outside of strings -/

/-- Characters that neither mark anything nor begin a string mean nothing to the scan. -/
theorem bracketsExceedFrom_outside
    {character : Char}
    (unmarked : mark? character = none)
    (unquoted : character ≠ '"')
    (limit depth : Nat)
    (rest : List Char) :
    bracketsExceedFrom limit .outside depth (character :: rest) =
      bracketsExceedFrom limit .outside depth rest := by
  have opening : ¬ (character = '[' ∨ character = '\x7b') := by
    rintro (rfl | rfl) <;> cases unmarked
  have closing : ¬ (character = ']' ∨ character = '\x7d') := by
    rintro (rfl | rfl) <;> cases unmarked
  rw [bracketsExceedFrom, if_neg unquoted, if_neg opening, if_neg closing]

/-- A mark changes the depth of the scan as its token changes the number of open brackets. -/
theorem bracketsExceedFrom_mark
    {character : Char}
    {token : Token}
    {limit depth : Nat}
    (marked : mark? character = some token)
    (shallow : depth ≤ limit)
    (rest : List Char) :
    bracketsExceedFrom limit .outside depth (character :: rest) =
      (decide (limit < token.after depth) ||
        bracketsExceedFrom limit .outside (token.after depth) rest) := by
  have still : ¬ limit < depth := Nat.not_lt.mpr shallow
  have less : ¬ limit < depth - 1 := by omega
  unfold mark? at marked
  split at marked
  all_goals cases marked
  all_goals by_cases deep : limit < depth + 1
  all_goals simp [bracketsExceedFrom, Token.after, still, less, deep]

/-- The characters that mark something, and the quote. -/
def specialCharacters : List Char :=
  ['[', ']', '\x7b', '\x7d', ',', ':', '"']

/-- No mark and no quote is in a class of characters that leaves all of them out. -/
theorem unmarked_of_class
    {isMember : Char → Bool}
    {character : Char}
    (excluded : specialCharacters.any isMember = false)
    (member : isMember character = true) :
    mark? character = none ∧ character ≠ '"' := by
  have other : ∀ special ∈ specialCharacters, character ≠ special := by
    rintro special listed rfl
    exact List.any_eq_false.mp excluded character listed member
  simp only [specialCharacters, List.forall_mem_cons] at other
  obtain ⟨first, second, third, fourth, fifth, sixth, quote, _⟩ := other
  refine ⟨?_, quote⟩
  unfold mark?
  split
  · exact absurd rfl first
  · exact absurd rfl second
  · exact absurd rfl third
  · exact absurd rfl fourth
  · exact absurd rfl fifth
  · exact absurd rfl sixth
  · rfl

/-! ## Characters inside of strings -/

/-- Where the scan is inside a string that is under way. -/
def OpenString.quoting (text : OpenString) : Quoting :=
  match text.escape with
  | .backslash => .escaped
  | .none | .unit _ _ => .inside

theorem bracketsExceedFrom_inside
    {character : Char}
    (plain : character ≠ '\\')
    (unquoted : character ≠ '"')
    (limit depth : Nat)
    (rest : List Char) :
    bracketsExceedFrom limit .inside depth (character :: rest) =
      bracketsExceedFrom limit .inside depth rest := by
  rw [bracketsExceedFrom, if_neg plain, if_neg unquoted]

theorem OpenString.quoting_of_addUnit?
    {text next : OpenString}
    {unit : Nat}
    (added : text.addUnit? unit = some next) :
    next.quoting = .inside := by
  unfold addUnit? at added
  split at added
  · split at added
    · cases added
      rfl
    · cases added
  · split_ifs at added
    · cases added
      rfl
    · cases added
      rfl

/-- The scan stays inside a string as long as the string is under way. -/
theorem OpenString.bracketsExceedFrom_of_step?
    {text next : OpenString}
    {character : Char}
    (goesOn : text.isEnd character = false)
    (stepped : text.step? character = some next)
    (limit depth : Nat)
    (rest : List Char) :
    bracketsExceedFrom limit text.quoting depth (character :: rest) =
      bracketsExceedFrom limit next.quoting depth rest := by
  unfold step? at stepped
  split at stepped
  · rename_i escape
    split_ifs at stepped with backslash refused
    · cases stepped
      rw [quoting, escape, bracketsExceedFrom, if_pos backslash]
      rfl
    · cases stepped
      have unquoted : character ≠ '"' := by
        rintro rfl
        simp_all [isEnd]
      simp only [quoting, escape]
      exact bracketsExceedFrom_inside backslash unquoted limit depth rest
  · rename_i escape
    have inside : next.quoting = .inside := by
      split_ifs at stepped
      · cases stepped
        rfl
      · obtain ⟨escaped, _, rfl⟩ := Option.map_eq_some_iff.mp stepped
        rfl
    rw [quoting, escape, inside]
    rfl
  · rename_i digitsLeft value escape
    obtain ⟨digit, hexadecimal, stepped⟩ := Option.bind_eq_some_iff.mp stepped
    have plain : character ≠ '\\' := by
      rintro rfl
      cases hexadecimal
    have unquoted : character ≠ '"' := by
      rintro rfl
      cases hexadecimal
    have inside : next.quoting = .inside := by
      simp only at stepped
      split at stepped
      · exact quoting_of_addUnit? stepped
      · cases stepped
        rfl
    rw [quoting, escape, inside]
    exact bracketsExceedFrom_inside plain unquoted limit depth rest

/-! ## The scanner -/

/-- Where the scan is while a token is under way. -/
def Mode.quoting : Mode → Quoting
  | .string text => text.quoting
  | .rest | .number _ | .word _ => .outside

theorem Token.after_of_wordToken?
    {letters : List Char}
    {token : Token}
    (found : wordToken? letters = some token)
    (depth : Nat) :
    token.after depth = depth := by
  unfold wordToken? at found
  split_ifs at found
  all_goals cases found
  all_goals rfl

namespace Scanner

/-- The number of brackets that are open after the tokens so far. -/
def depth (scanner : Scanner) : Nat :=
  openBrackets scanner.tokens

/-- The most brackets that were open at once. -/
def peak (scanner : Scanner) : Nat :=
  mostBrackets scanner.tokens

theorem depth_le_peak (scanner : Scanner) : scanner.depth ≤ scanner.peak :=
  openBrackets_le_mostBrackets scanner.tokens

/-- What the scan of brackets finds from a scanner on. -/
def exceeds (limit : Nat) (scanner : Scanner) (characters : List Char) : Bool :=
  bracketsExceedFrom limit scanner.mode.quoting scanner.depth characters

/-- The scan goes along with the scanner over a character. -/
structure Along (limit : Nat) (scanner : Scanner) (character : Char) (next : Scanner) : Prop where
  /-- The scan stops at a bracket too many, and otherwise goes on from the next scanner. -/
  exceeds_cons : scanner.depth ≤ limit → ∀ rest,
    scanner.exceeds limit (character :: rest) =
      (decide (limit < next.depth) || next.exceeds limit rest)
  /-- The next scanner has counted the brackets that are open now. -/
  peak_eq : next.peak = max scanner.peak next.depth

variable {limit : Nat} {scanner next last : Scanner} {character : Char}

/-- A character that leaves the brackets as they are. -/
theorem Along.of_same
    (depth : next.depth = scanner.depth)
    (peak : next.peak = scanner.peak)
    (scan : ∀ depth rest,
      bracketsExceedFrom limit scanner.mode.quoting depth (character :: rest) =
        bracketsExceedFrom limit next.mode.quoting depth rest) :
    Along limit scanner character next where
  exceeds_cons shallow rest := by
    have within : ¬ limit < next.depth := by omega
    rw [exceeds, scan, exceeds, depth, decide_eq_false (depth ▸ within), Bool.false_or]
  peak_eq := by
    have bound := scanner.depth_le_peak
    omega

/-- A character outside of strings from a class without marks and quotes. -/
theorem Along.of_class
    {isMember : Char → Bool}
    (excluded : specialCharacters.any isMember = false)
    (member : isMember character = true)
    (tokens : next.tokens = scanner.tokens)
    (outside : scanner.mode.quoting = .outside)
    (still : next.mode.quoting = .outside) :
    Along limit scanner character next := by
  obtain ⟨unmarked, unquoted⟩ := unmarked_of_class excluded member
  refine .of_same (by rw [depth, tokens, depth]) (by rw [peak, tokens, peak]) ?_
  intro depth rest
  rw [outside, still]
  exact bracketsExceedFrom_outside unmarked unquoted limit depth rest

theorem depth_add (scanner : Scanner) (token : Token) :
    (scanner.add token).depth = token.after scanner.depth :=
  rfl

theorem peak_add (scanner : Scanner) (token : Token) :
    (scanner.add token).peak = max scanner.peak (token.after scanner.depth) :=
  rfl

/-- A token that is no bracket leaves the brackets as they are. -/
theorem add_of_plain
    (scanner : Scanner)
    (token : Token)
    (plain : ∀ depth, token.after depth = depth) :
    (scanner.add token).depth = scanner.depth ∧ (scanner.add token).peak = scanner.peak := by
  have bound := scanner.depth_le_peak
  rw [depth_add, peak_add, plain]
  exact ⟨rfl, Nat.max_eq_left bound⟩

theorem of_settle? (settled : scanner.settle? = some next) :
    next.depth = scanner.depth ∧ next.peak = scanner.peak ∧
      scanner.mode.quoting = .outside ∧ next.mode.quoting = .outside := by
  unfold settle? at settled
  split at settled
  · rename_i mode
    cases settled
    rw [mode]
    exact ⟨rfl, rfl, rfl, rfl⟩
  · cases settled
  · rename_i collected mode
    obtain ⟨value, _, rfl⟩ := Option.map_eq_some_iff.mp settled
    obtain ⟨depth, peak⟩ := scanner.add_of_plain (.number value) fun _ => rfl
    rw [mode]
    exact ⟨depth, peak, rfl, rfl⟩
  · rename_i collected mode
    obtain ⟨token, word, rfl⟩ := Option.map_eq_some_iff.mp settled
    obtain ⟨depth, peak⟩ := scanner.add_of_plain token (Token.after_of_wordToken? word)
    rw [mode]
    exact ⟨depth, peak, rfl, rfl⟩

/-- A character that ends a number or a word is scanned as if there were none. -/
theorem Along.of_settle?
    {settled : Scanner}
    (found : scanner.settle? = some settled)
    (along : Along limit settled character next) :
    Along limit scanner character next := by
  obtain ⟨depth, peak, outside, still⟩ := Scanner.of_settle? found
  constructor
  · intro shallow rest
    have scanned := along.exceeds_cons (depth ▸ shallow) rest
    rwa [exceeds, still, depth, ← outside] at scanned
  · rw [← peak]
    exact along.peak_eq

/-- A character outside of strings that is taken up between tokens. -/
theorem along_of_begin?
    (outside : scanner.mode.quoting = .outside)
    (began : scanner.begin? character = some next) :
    Along limit scanner character next := by
  unfold begin? at began
  split_ifs at began with space quote digit letter
  · cases began
    exact .of_class rfl space rfl outside rfl
  · cases began
    refine .of_same rfl rfl fun depth rest => ?_
    rw [outside, bracketsExceedFrom, if_pos quote]
    rfl
  · cases began
    have part : isNumberPart character = true := by
      rcases digit with digit | rfl
      · simp [isNumberPart, digit]
      · rfl
    exact .of_class rfl part rfl outside rfl
  · cases began
    exact .of_class rfl letter rfl outside rfl
  · obtain ⟨token, marked, rfl⟩ := Option.map_eq_some_iff.mp began
    constructor
    · intro shallow rest
      rw [exceeds, outside, bracketsExceedFrom_mark marked shallow]
      rfl
    · rfl

/-- A character of a string, or the quote at its end. -/
theorem along_of_string
    {text : OpenString}
    (mode : scanner.mode = .string text)
    (stepped : scanner.step? character = some next) :
    Along limit scanner character next := by
  simp only [step?, mode] at stepped
  split_ifs at stepped with ended
  · cases stepped
    obtain ⟨depth, peak⟩ := scanner.add_of_plain (.string text.text) fun _ => rfl
    refine .of_same depth peak fun depth rest => ?_
    simp only [OpenString.isEnd, Bool.and_eq_true, beq_iff_eq] at ended
    obtain ⟨⟨rfl, escape⟩, _⟩ := ended
    rw [mode, Mode.quoting, OpenString.quoting, escape]
    rfl
  · obtain ⟨following, goesOn, rfl⟩ := Option.map_eq_some_iff.mp stepped
    refine .of_same rfl rfl fun depth rest => ?_
    rw [mode]
    exact OpenString.bracketsExceedFrom_of_step? (by simpa using ended) goesOn limit depth rest

theorem along_of_step? (stepped : scanner.step? character = some next) :
    Along limit scanner character next := by
  cases mode : scanner.mode with
  | rest =>
      simp only [step?, mode] at stepped
      exact along_of_begin? (by rw [mode]; rfl) stepped
  | string text => exact along_of_string mode stepped
  | number collected =>
      simp only [step?, mode] at stepped
      split_ifs at stepped with part
      · cases stepped
        exact .of_class rfl part rfl (by rw [mode]; rfl) rfl
      · obtain ⟨settled, found, began⟩ := Option.bind_eq_some_iff.mp stepped
        exact .of_settle? found (along_of_begin? (Scanner.of_settle? found).2.2.2 began)
  | word collected =>
      simp only [step?, mode] at stepped
      split_ifs at stepped with part
      · cases stepped
        exact .of_class rfl part rfl (by rw [mode]; rfl) rfl
      · obtain ⟨settled, found, began⟩ := Option.bind_eq_some_iff.mp stepped
        exact .of_settle? found (along_of_begin? (Scanner.of_settle? found).2.2.2 began)

theorem peak_le_of_run?
    {characters : List Char}
    (ran : scanner.run? characters = some last) :
    scanner.peak ≤ last.peak := by
  induction characters generalizing scanner with
  | nil =>
      cases ran
      exact Nat.le_refl _
  | cons character rest inductionHypothesis =>
      obtain ⟨next, stepped, ran⟩ := Option.bind_eq_some_iff.mp ran
      have later := inductionHypothesis ran
      have along : Along 0 scanner character next := along_of_step? stepped
      have first := along.peak_eq
      omega

/-- The scan tells whether more brackets were open at once than the limit. -/
theorem exceeds_of_run?
    {characters : List Char}
    (ran : scanner.run? characters = some last)
    (within : scanner.peak ≤ limit) :
    scanner.exceeds limit characters = decide (limit < last.peak) := by
  induction characters generalizing scanner with
  | nil =>
      cases ran
      rw [decide_eq_false (Nat.not_lt.mpr within)]
      rfl
  | cons character rest inductionHypothesis =>
      obtain ⟨next, stepped, ran⟩ := Option.bind_eq_some_iff.mp ran
      have along : Along limit scanner character next := along_of_step? stepped
      have bound := scanner.depth_le_peak
      rw [along.exceeds_cons (by omega)]
      by_cases deep : limit < next.depth
      -- the scan stops here; the scanner goes on, but its peak never falls
      · have counted := next.depth_le_peak
        have later := peak_le_of_run? ran
        rw [decide_eq_true deep, decide_eq_true (by omega : limit < last.peak), Bool.true_or]
      · have peak := along.peak_eq
        rw [decide_eq_false deep, Bool.false_or]
        exact inductionHypothesis ran (by omega)

end Scanner

/-- The scan finds a well-formed text too deep exactly if its value nests too deep. -/
theorem bracketsExceed_eq_of_parse?
    {text : String}
    {value : Json}
    (read : parse? text = some value)
    (limit : Nat) :
    bracketsExceed limit text = decide (limit < value.nesting) := by
  obtain ⟨tokens, scanned, spelled⟩ := Option.bind_eq_some_iff.mp read
  obtain ⟨settled, found, rfl⟩ := Option.map_eq_some_iff.mp scanned
  obtain ⟨last, ran, ended⟩ := Option.bind_eq_some_iff.mp found
  rw [nesting_eq_mostBrackets spelled]
  change Scanner.start.exceeds limit text.toList = decide (limit < settled.peak)
  rw [Scanner.exceeds_of_run? ran (Nat.zero_le limit), (Scanner.of_settle? ended).2.1]

end Json
end RuleClause
