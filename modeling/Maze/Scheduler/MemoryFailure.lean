import Maze.Library.Regex
import Maze.Python.AmountText
import Maze.Scheduler.TaskRuntime

namespace Maze.Scheduler.MemoryFailure

open Maze.Python
open Maze.Python.Json
open Maze.Library.Regex
open Maze.Python.Number (isDigit isAmount IsNumeral amountValue)

/-!
# Memory failures in messages

`memory_failure_from_message` looks for amounts of memory in the text of an error that
looks like one of a device that has run out of memory. The patterns ignore the case of
letters, and they admit more amounts and units than the conversions behind them.
-/

/-! ## The patterns -/

/-- A character in lower case, as far as this is an ASCII letter. -/
def lowerChar (character : CodePoint) : CodePoint :=
  if character.val = 0x212a then point 'k'
  else if character.val = 0x130 then point 'i'
  else Number.lower character

/-- A letter of a pattern that ignores case: the long s and the dotless i are included. -/
def ignoringCase
    (letter : Char)
    (character : CodePoint) :
    Bool :=
  lowerChar character = point letter.toLower ||
    (letter.toLower = 'i' && character.val = 0x131) ||
    (letter.toLower = 's' && character.val = 0x17f)

/-- A text that is matched without regard to case. -/
def literal (text : String) : Pattern CodePoint :=
  .word (text.toList.map ignoringCase)

/-- `\s+`. -/
def blanks : Pattern CodePoint :=
  .many1 Number.isSpace

/-- `[KMGT]`. -/
def isScale (character : CodePoint) : Bool :=
  ['K', 'M', 'G', 'T'].any fun letter => ignoringCase letter character

/-- `([\d.]+)\s*([KMGT]?i?B)`. -/
def measured : Pattern CodePoint :=
  .seq (.group (.many1 isAmount))
    (.seq (.many Number.isSpace)
      (.group (.seq (.opt (.set isScale))
        (.seq (.opt (.set (ignoringCase 'i'))) (.set (ignoringCase 'B'))))))

/-- `(?:tried to allocate|allocating)\s+` and an amount. -/
def attemptedAllocation : Pattern CodePoint :=
  .seq (.alt (literal "tried to allocate") (literal "allocating")) (.seq blanks measured)

/-- An amount and `\s+is allocated by PyTorch`. -/
def allocated : Pattern CodePoint :=
  .seq measured (.seq blanks (literal "is allocated by PyTorch"))

/-- `total capacity of\s+` and an amount. -/
def capacity : Pattern CodePoint :=
  .seq (literal "total capacity of") (.seq blanks measured)

/-- `patterns`. -/
def patterns : List (PyStr × Pattern CodePoint) :=
  [("attempted_allocation_bytes", attemptedAllocation), ("allocated_bytes", allocated),
    ("capacity_bytes", capacity)]

/-- `units`. -/
def units : List (PyStr × ℕ) :=
  [("B", 1), ("KB", 1000), ("MB", 1000 ^ 2), ("GB", 1000 ^ 3), ("TB", 1000 ^ 4),
    ("KIB", 1024), ("MIB", 1024 ^ 2), ("GIB", 1024 ^ 3), ("TIB", 1024 ^ 4)]

/-- A character of a unit in upper case. -/
def upperChar (character : CodePoint) : CodePoint :=
  if 0x61 ≤ character.val ∧ character.val ≤ 0x7a then character - 0x20
  else if character.val = 0x131 then point 'I'
  else character

/-! ## The functions -/

/-- `text.lower()`, as far as ASCII letters come out of it. -/
def lowered (text : PyStr) : List CodePoint :=
  text.chars.flatMap fun character =>
    if character.val = 0x130 then [point 'i', 0x307] else [lowerChar character]

/-- `part in text`. -/
def includes
    (text : List CodePoint)
    (part : PyStr) :
    Bool :=
  text.tails.any fun rest => part.chars.isPrefixOf rest

/-- `looks_like_oom`. -/
def looksLikeOom (text : PyStr) : Bool :=
  let text := lowered text
  let devices : List PyStr := ["cuda", "gpu", "hip"]
  let markers : List PyStr :=
    ["cuda out of memory", "outofmemoryerror", "cublas_status_alloc_failed",
      "hip out of memory", "memory allocation failed"]
  (includes text "out of memory" && devices.any (includes text)) ||
    markers.any (includes text)

/-- `units[unit.upper()]`. -/
def factorOf (unit : List CodePoint) : Except PyErr ℕ :=
  match units.lookup ⟨unit.map upperChar⟩ with
  | some factor => .ok factor
  | none => .error .keyError

/-- `int(float(match[1]) * units[match[2].upper()])`. -/
def bytesOf (found : Match CodePoint) : Except PyErr ℤ :=
  match found.captures with
  | amount :: unit :: _ => do
      let number ← Number.floatOfText ⟨amount⟩
      let factor ← factorOf unit
      (number.mul factor).trunc
  | _ => .error .indexError

/-- One pattern is looked for. -/
def addAmount
    (text : PyStr)
    (failure : PyDict)
    (entry : PyStr × Pattern CodePoint) :
    Except PyErr PyDict :=
  match entry.2.search text.chars with
  | none => .ok failure
  | some found => do
      let bytes ← bytesOf found
      .ok (failure.set entry.1 (.int bytes))

/-- `memory_failure_from_message`. -/
def memoryFailureFromMessage
    (scope text : PyStr) :
    Except PyErr (Option PyDict) :=
  if looksLikeOom text then do
    let devices : List PyStr := ["cuda", "gpu", "cublas", "hip"]
    let deviceType : PyStr :=
      if devices.any (includes (lowered text)) then "cuda" else "unknown"
    let failure ← patterns.foldlM (addAmount text)
      [("scope", .str scope), ("device_type", .str deviceType)]
    .ok (some failure)
  else
    .ok none

example :
    memoryFailureFromMessage "task" "CUDA out of memory. Tried to allocate 2.00 GiB" =
      .ok (some [("scope", .str "task"), ("device_type", .str "cuda"),
        ("attempted_allocation_bytes", .int 2147483648)]) := by
  decide +kernel

/-- The text of a value that `str` is applied to. -/
def textOf (str : PyVal → PyStr) : PyVal → PyStr
  | .str text => text
  | value => str value

/-- `enrich_error_for_task` with the reading of its message. -/
def enrichErrorFromMessage
    (str : PyVal → PyStr)
    (error : PyDict)
    (task : TaskRuntime)
    (hasModelRoute : Bool)
    (timestamp : PyStr) :
    Except PyErr PyDict := do
  let text := textOf str ((error.get? "message").getD (.str ""))
  let failure ←
    if (error.get "memory_failure").truthy || hasModelRoute then .ok none
    else memoryFailureFromMessage "task" text
  .ok (enrichErrorForTask error task failure timestamp)

/--
`exception_to_error_envelope` with the reading of the exception's text, unless the
exception brings a memory failure.
-/
def exceptionToErrorFromText
    (errorType text traceback exceptionType : PyStr)
    (memoryFailure : PyDict)
    (attempt : PyVal)
    (timestamp : PyStr) :
    Except PyErr PyDict := do
  let failure ←
    if memoryFailure.isEmpty then memoryFailureFromMessage "task" text
    else .ok (some memoryFailure)
  .ok (exceptionToErrorEnvelope errorType ⟨text, traceback, exceptionType, failure⟩ attempt
    timestamp)

/-! ## What the patterns match -/

/-- The characters that a letter of a unit matches. -/
theorem lowerChar_eq
    {character letter : CodePoint}
    (same : lowerChar character = letter) :
    character.val = 0x212a ∧ letter = point 'k' ∨
      character.val = 0x130 ∧ letter = point 'i' ∨
      (0x41 ≤ character.val ∧ character.val ≤ 0x5a ∧
        character.val + 0x20 = letter.val) ∨ character = letter := by
  unfold lowerChar at same
  split at same
  · next kelvin => exact .inl ⟨kelvin, same.symm⟩
  · split at same
    · next dotted => exact .inr (.inl ⟨dotted, same.symm⟩)
    · unfold Number.lower at same
      split at same
      · next upperCase =>
        rw [Fin.ext_iff, Fin.val_add] at same
        have shift : ((0x20 : CodePoint)).val = 0x20 := rfl
        rw [shift] at same
        exact .inr (.inr (.inl ⟨upperCase.1, upperCase.2, by omega⟩))
      · exact .inr (.inr (.inr same))

/-- The scale of a unit is one of these characters. -/
def scaleChars : List CodePoint :=
  [0x4b, 0x6b, 0x212a, 0x4d, 0x6d, 0x47, 0x67, 0x54, 0x74]

/-- The mark of a binary unit is one of these characters. -/
def binaryChars : List CodePoint :=
  [0x49, 0x69, 0x130, 0x131]

/-- The last character of a unit is one of these. -/
def byteChars : List CodePoint :=
  [0x42, 0x62]

theorem ignoringCase_val
    {letter : Char}
    {character : CodePoint}
    (matched : ignoringCase letter character = true)
    (low : ℕ)
    (lowIs : (point letter.toLower).val = low) :
    character.val = low ∨ character.val + 0x20 = low ∨
      (character.val = 0x212a ∧ low = 0x6b) ∨ (character.val = 0x130 ∧ low = 0x69) ∨
      (character.val = 0x131 ∧ low = 0x69) ∨ (character.val = 0x17f ∧ low = 0x73) := by
  simp only [ignoringCase, Bool.or_eq_true, Bool.and_eq_true, decide_eq_true_eq] at matched
  have kelvin : (point 'k').val = 0x6b := rfl
  have dotted : (point 'i').val = 0x69 := rfl
  have long : (point 's').val = 0x73 := rfl
  rcases matched with (same | ⟨isI, dotless⟩) | ⟨isS, longS⟩
  · rcases lowerChar_eq same with ⟨here, isK⟩ | ⟨here, isI⟩ | ⟨_, _, shifted⟩ | same
    · rw [isK] at lowIs
      omega
    · rw [isI] at lowIs
      omega
    · omega
    · rw [← same] at lowIs
      exact .inl lowIs
  · rw [isI] at lowIs
    omega
  · rw [isS] at lowIs
    omega

/-- A character is in a list if its number is in the list of the numbers. -/
theorem mem_of_val
    {character : CodePoint}
    {characters : List CodePoint}
    {numbers : List ℕ}
    (same : characters.map Fin.val = numbers)
    (member : character.val ∈ numbers) :
    character ∈ characters := by
  rw [← same] at member
  obtain ⟨other, known, equal⟩ := List.mem_map.mp member
  rwa [← Fin.ext equal]

theorem mem_scaleChars
    {character : CodePoint}
    (scale : isScale character = true) :
    character ∈ scaleChars := by
  have numbers : scaleChars.map Fin.val =
      [0x4b, 0x6b, 0x212a, 0x4d, 0x6d, 0x47, 0x67, 0x54, 0x74] := rfl
  refine mem_of_val numbers ?_
  simp only [isScale, List.any_cons, List.any_nil, Bool.or_false, Bool.or_eq_true] at scale
  simp only [List.mem_cons, List.not_mem_nil, or_false]
  rcases scale with matched | matched | matched | matched
  · have := ignoringCase_val matched 0x6b rfl
    omega
  · have := ignoringCase_val matched 0x6d rfl
    omega
  · have := ignoringCase_val matched 0x67 rfl
    omega
  · have := ignoringCase_val matched 0x74 rfl
    omega

theorem mem_binaryChars
    {character : CodePoint}
    (binary : ignoringCase 'i' character = true) :
    character ∈ binaryChars := by
  have numbers : binaryChars.map Fin.val = [0x49, 0x69, 0x130, 0x131] := rfl
  refine mem_of_val numbers ?_
  simp only [List.mem_cons, List.not_mem_nil, or_false]
  have := ignoringCase_val binary 0x69 rfl
  omega

theorem mem_byteChars
    {character : CodePoint}
    (byte : ignoringCase 'B' character = true) :
    character ∈ byteChars := by
  have numbers : byteChars.map Fin.val = [0x42, 0x62] := rfl
  refine mem_of_val numbers ?_
  simp only [List.mem_cons, List.not_mem_nil, or_false]
  have := ignoringCase_val byte 0x62 rfl
  omega

/-- A part of a unit that may be missing. -/
def optional (characters : List CodePoint) : List (List CodePoint) :=
  [] :: characters.map fun character => [character]

/-- The texts that the patterns take for units. -/
def unitTexts : List (List CodePoint) :=
  (optional scaleChars).flatMap fun scale =>
    (optional binaryChars).flatMap fun binary =>
      byteChars.map fun byte => scale ++ (binary ++ [byte])

/--
The unit is spelled without the Kelvin sign and the dotted capital i, and the mark of a
binary unit has a scale in front of it.
-/
def IsUnit (unit : List CodePoint) : Prop :=
  (∀ character ∈ unit, character ≠ 0x212a ∧ character ≠ 0x130) ∧
    (unit.length = 2 → ∀ character ∈ unit.take 1, isScale character = true)

instance (unit : List CodePoint) : Decidable (IsUnit unit) :=
  @instDecidableAnd _ _ (List.decidableBAll _ _)
    (@instDecidableForall _ _ _ (List.decidableBAll _ _))

/-- The table has just these units. -/
theorem lookup_units :
    (unitTexts.all fun unit =>
      (units.lookup ⟨unit.map upperChar⟩).isSome == decide (IsUnit unit)) = true := by
  decide +kernel

theorem mem_optional_iff
    (characters part : List CodePoint) :
    part ∈ optional characters ↔
      part = [] ∨ ∃ character ∈ characters, part = [character] := by
  rw [optional, List.mem_cons, List.mem_map]
  constructor
  · rintro (rfl | ⟨character, member, rfl⟩)
    · exact .inl rfl
    · exact .inr ⟨character, member, rfl⟩
  · rintro (rfl | ⟨character, member, rfl⟩)
    · exact .inl rfl
    · exact .inr ⟨character, member, rfl⟩

/-- What the groups of a measured amount have captured. -/
structure Captured (captures : List (List CodePoint)) (amount unit : List CodePoint) :
    Prop where
  both : captures = [amount, unit]
  digits : ∀ character ∈ amount, isAmount character = true
  known : unit ∈ unitTexts

theorem captured_measured
    {symbols : List CodePoint}
    {captures : List (List CodePoint)}
    (spelled : Pattern.Spells measured symbols captures) :
    ∃ amount unit, Captured captures amount unit := by
  obtain ⟨amount, _, _, _, rfl, rfl, first, behind⟩ := Pattern.spells_seq_iff.mp spelled
  obtain ⟨_, rfl, number⟩ := Pattern.spells_group_iff.mp first
  obtain ⟨rfl, _, digits⟩ := Pattern.spells_many1_iff.mp number
  obtain ⟨_, unit, _, _, rfl, rfl, space, second⟩ := Pattern.spells_seq_iff.mp behind
  obtain ⟨rfl, _⟩ := Pattern.spells_many_iff.mp space
  obtain ⟨_, rfl, named⟩ := Pattern.spells_group_iff.mp second
  obtain ⟨scale, _, _, _, rfl, rfl, scaled, rest⟩ := Pattern.spells_seq_iff.mp named
  obtain ⟨binary, _, _, _, rfl, rfl, marked, last⟩ := Pattern.spells_seq_iff.mp rest
  obtain ⟨rfl, scales⟩ := Pattern.spells_opt_set_iff.mp scaled
  obtain ⟨rfl, marks⟩ := Pattern.spells_opt_set_iff.mp marked
  obtain ⟨rfl, byte, rfl, bytes⟩ := Pattern.spells_set_iff.mp last
  refine ⟨amount, _, rfl, digits, ?_⟩
  refine List.mem_flatMap.mpr ⟨scale, ?_, List.mem_flatMap.mpr ⟨binary, ?_,
    List.mem_map.mpr ⟨byte, mem_byteChars bytes, rfl⟩⟩⟩
  · rw [mem_optional_iff]
    exact scales.imp id fun ⟨character, only, scale⟩ =>
      ⟨character, mem_scaleChars scale, only⟩
  · rw [mem_optional_iff]
    exact marks.imp id fun ⟨character, only, mark⟩ =>
      ⟨character, mem_binaryChars mark, only⟩

/-- A pattern that captures nothing. -/
def Silent (pattern : Pattern CodePoint) : Prop :=
  ∀ symbols captures, pattern.Spells symbols captures → captures = []

theorem silent_literal (text : String) :
    Silent (literal text) := by
  intro symbols captures spelled
  exact Pattern.captures_of_spells_word spelled

theorem silent_blanks : Silent blanks := by
  intro symbols captures spelled
  exact (Pattern.spells_many1_iff.mp spelled).1

theorem silent_alt
    {first second : Pattern CodePoint}
    (firstSilent : Silent first)
    (secondSilent : Silent second) :
    Silent (.alt first second) := by
  intro symbols captures spelled
  rcases Pattern.spells_alt_iff.mp spelled with taken | taken
  · exact firstSilent _ _ taken
  · exact secondSilent _ _ taken

theorem silent_seq
    {first second : Pattern CodePoint}
    (firstSilent : Silent first)
    (secondSilent : Silent second) :
    Silent (.seq first second) := by
  intro symbols captures spelled
  obtain ⟨_, _, _, _, rfl, rfl, before, behind⟩ := Pattern.spells_seq_iff.mp spelled
  rw [firstSilent _ _ before, secondSilent _ _ behind]
  rfl

/-- A silent pattern in front does not change what is captured. -/
theorem captured_behind
    {first : Pattern CodePoint}
    {symbols : List CodePoint}
    {captures : List (List CodePoint)}
    (silent : Silent first)
    (spelled : Pattern.Spells (.seq first measured) symbols captures) :
    ∃ amount unit, Captured captures amount unit := by
  obtain ⟨_, _, _, _, rfl, rfl, before, behind⟩ := Pattern.spells_seq_iff.mp spelled
  rw [silent _ _ before, List.nil_append]
  exact captured_measured behind

/-- A silent pattern behind does not change what is captured. -/
theorem captured_before
    {second : Pattern CodePoint}
    {symbols : List CodePoint}
    {captures : List (List CodePoint)}
    (silent : Silent second)
    (spelled : Pattern.Spells (.seq measured second) symbols captures) :
    ∃ amount unit, Captured captures amount unit := by
  obtain ⟨_, _, _, _, rfl, rfl, before, behind⟩ := Pattern.spells_seq_iff.mp spelled
  rw [silent _ _ behind, List.append_nil]
  exact captured_measured before

/-- Each of the patterns captures an amount and a unit. -/
theorem captured_of_search
    {text : List CodePoint}
    {entry : PyStr × Pattern CodePoint}
    {found : Match CodePoint}
    (member : entry ∈ patterns)
    (searched : entry.2.search text = some found) :
    ∃ amount unit, Captured found.captures amount unit := by
  obtain ⟨symbols, spelled⟩ := Pattern.spells_of_search searched
  simp only [patterns, List.mem_cons, List.not_mem_nil, or_false] at member
  rcases member with rfl | rfl | rfl
  · obtain ⟨_, _, _, _, rfl, same, before, behind⟩ := Pattern.spells_seq_iff.mp spelled
    rw [same, silent_alt (silent_literal _) (silent_literal _) _ _ before, List.nil_append]
    exact captured_behind silent_blanks behind
  · exact captured_before (silent_seq silent_blanks (silent_literal _)) spelled
  · obtain ⟨_, _, _, _, rfl, same, before, behind⟩ := Pattern.spells_seq_iff.mp spelled
    rw [same, silent_literal _ _ _ before, List.nil_append]
    exact captured_behind silent_blanks behind

/-! ## When the reading returns -/

/-- The amount is the text of a number of bytes that a double can hold. -/
structure Readable (amount unit : List CodePoint) : Prop where
  numeral : IsNumeral amount
  named : IsUnit unit
  finite : amountValue amount < Double.overflowBound
  bounded : ∀ number factor, Double.round (amountValue amount) = .finite number →
    units.lookup ⟨unit.map upperChar⟩ = some factor → number * factor < Double.overflowBound

theorem amountValue_nonneg (amount : List CodePoint) :
    0 ≤ amountValue amount := by
  unfold amountValue
  positivity

/-- The factor of a unit is there exactly if the unit is one of the table. -/
theorem lookup_unit_iff
    {unit : List CodePoint}
    (known : unit ∈ unitTexts) :
    (∃ factor, units.lookup ⟨unit.map upperChar⟩ = some factor) ↔ IsUnit unit := by
  have table := List.all_eq_true.mp lookup_units unit known
  rw [beq_iff_eq] at table
  rw [← Option.isSome_iff_exists, table, decide_eq_true_eq]

/-- An amount that has been captured is converted exactly if it is readable. -/
theorem bytesOf_iff
    {found : Match CodePoint}
    {amount unit : List CodePoint}
    (captured : Captured found.captures amount unit) :
    (∃ bytes, bytesOf found = .ok bytes) ↔ Readable amount unit := by
  obtain ⟨read, unread⟩ := Number.floatOfText_amount captured.digits
  have nonneg := amountValue_nonneg amount
  unfold bytesOf
  simp only [captured.both]
  constructor
  · rintro ⟨bytes, returned⟩
    obtain ⟨number, numberRead, returned⟩ := bind_eq_ok.mp returned
    obtain ⟨factor, factorRead, returned⟩ := bind_eq_ok.mp returned
    have numeral : IsNumeral amount := by
      by_contra other
      rw [unread other] at numberRead
      cases numberRead
    have isFactor : units.lookup ⟨unit.map upperChar⟩ = some factor := by
      unfold factorOf at factorRead
      split at factorRead
      · next other found =>
        cases factorRead
        exact found
      · cases factorRead
    rw [read numeral] at numberRead
    obtain ⟨value, rfl⟩ : ∃ value, number = .finite value := by
      cases number with
      | finite value => exact ⟨value, rfl⟩
      | infinity negative => cases returned
      | nan => cases returned
    have isNumber : Double.round (amountValue amount) = .finite value :=
      Except.ok.inj numberRead
    have product : 0 ≤ value * factor :=
      mul_nonneg (Double.nonneg_of_round nonneg isNumber) (Nat.cast_nonneg factor)
    have fits : ∃ result, Double.round (value * factor) = .finite result := by
      rw [Double.mul] at returned
      cases product : Double.round (value * factor) with
      | finite result => exact ⟨result, rfl⟩
      | infinity negative =>
          rw [product] at returned
          cases returned
      | nan =>
          rw [product] at returned
          cases returned
    refine ⟨numeral, (lookup_unit_iff captured.known).mp ⟨factor, isFactor⟩,
      (Double.round_eq_finite_iff nonneg).mp ⟨value, isNumber⟩, ?_⟩
    intro number other rounded looked
    rw [isNumber, Double.finite.injEq] at rounded
    rw [isFactor, Option.some.injEq] at looked
    rw [← rounded, ← looked]
    exact (Double.round_eq_finite_iff product).mp fits
  · intro readable
    obtain ⟨factor, isFactor⟩ := (lookup_unit_iff captured.known).mpr readable.named
    obtain ⟨number, isNumber⟩ := (Double.round_eq_finite_iff nonneg).mpr readable.finite
    have below := readable.bounded number factor isNumber isFactor
    have product : 0 ≤ number * factor :=
      mul_nonneg (Double.nonneg_of_round nonneg isNumber) (Nat.cast_nonneg factor)
    obtain ⟨value, isValue⟩ := (Double.round_eq_finite_iff product).mpr below
    have factorRead : factorOf unit = .ok factor := by rw [factorOf, isFactor]
    rw [read readable.numeral, isNumber, factorRead]
    change ∃ bytes, ((Double.finite number).mul factor).trunc = .ok bytes
    rw [Double.mul, isValue]
    exact ⟨_, rfl⟩

/-- The patterns are looked for without an error exactly if every match is converted. -/
theorem foldlM_addAmount_iff
    (text : PyStr)
    (entries : List (PyStr × Pattern CodePoint))
    (failure : PyDict) :
    (∃ result, entries.foldlM (addAmount text) failure = .ok result) ↔
      ∀ entry ∈ entries, ∀ found, entry.2.search text.chars = some found →
        ∃ bytes, bytesOf found = .ok bytes := by
  induction entries generalizing failure with
  | nil => exact ⟨fun _ _ member => (by cases member), fun _ => ⟨failure, rfl⟩⟩
  | cons entry rest inductionHypothesis =>
      rw [List.foldlM_cons, List.forall_mem_cons]
      unfold addAmount
      cases searched : entry.2.search text.chars with
      | none =>
          rw [← inductionHypothesis failure]
          exact ⟨fun returned => ⟨fun _ none => (by cases none), returned⟩, fun both => both.2⟩
      | some found =>
          constructor
          · rintro ⟨result, returned⟩
            obtain ⟨next, added, returned⟩ := bind_eq_ok.mp returned
            obtain ⟨bytes, converted, _⟩ := bind_eq_ok.mp added
            refine ⟨fun other same => ?_, (inductionHypothesis next).mp ⟨result, returned⟩⟩
            cases same
            exact ⟨bytes, converted⟩
          · rintro ⟨here, others⟩
            obtain ⟨bytes, converted⟩ := here found rfl
            obtain ⟨result, returned⟩ :=
              (inductionHypothesis (failure.set entry.1 (.int bytes))).mpr others
            refine ⟨result, ?_⟩
            simp only [converted]
            exact returned

/--
The text does not look like one of a device out of memory, or every amount that is found in
it is readable.
-/
def Parsable (text : PyStr) : Prop :=
  looksLikeOom text = true →
    ∀ entry ∈ patterns, ∀ found amount unit, entry.2.search text.chars = some found →
      found.captures = [amount, unit] → Readable amount unit

/-- A call whose value is only passed on returns if it does. -/
theorem returns_bind_iff
    {α β : Type}
    {call : Except PyErr α}
    {passed : α → β} :
    (∃ result, (call >>= fun value => .ok (passed value)) = .ok result) ↔
      ∃ value, call = .ok value := by
  cases call with
  | error raised =>
      constructor
      · rintro ⟨_, returned⟩
        cases returned
      · rintro ⟨_, returned⟩
        cases returned
  | ok value => exact ⟨fun _ => ⟨value, rfl⟩, fun _ => ⟨_, rfl⟩⟩

/-- A message is read without an error exactly if it is parsable. -/
theorem memoryFailureFromMessage_iff
    (scope text : PyStr) :
    (∃ failure, memoryFailureFromMessage scope text = .ok failure) ↔ Parsable text := by
  unfold memoryFailureFromMessage Parsable
  split
  · next looks =>
    have every : (∀ entry ∈ patterns, ∀ found, entry.2.search text.chars = some found →
        ∃ bytes, bytesOf found = .ok bytes) ↔
        ∀ entry ∈ patterns, ∀ found amount unit, entry.2.search text.chars = some found →
          found.captures = [amount, unit] → Readable amount unit := by
      constructor
      · intro converted entry member found amount unit searched captures
        obtain ⟨_, _, captured⟩ := captured_of_search member searched
        cases captures.symm.trans captured.both
        exact (bytesOf_iff captured).mp (converted entry member found searched)
      · intro readable entry member found searched
        obtain ⟨amount, unit, captured⟩ := captured_of_search member searched
        exact (bytesOf_iff captured).mpr
          (readable entry member found amount unit searched captured.both)
    simp only [looks, forall_const]
    rw [← every, ← foldlM_addAmount_iff]
    constructor
    · rintro ⟨result, returned⟩
      obtain ⟨failure, read, _⟩ := bind_eq_ok.mp returned
      exact ⟨failure, read⟩
    · rintro ⟨failure, read⟩
      refine ⟨some failure, ?_⟩
      simp only [read]
      rfl
  · next other => exact ⟨fun _ looks => absurd looks other, fun _ => ⟨none, rfl⟩⟩

/--
A message, the error of a task and the text of an exception are classified without an
exception exactly if the text that is read is parsable; an error or an exception that
brings its own description, and the error of a model task, are not read.
-/
theorem classification_returns_iff
    (str : PyVal → PyStr)
    (scope text errorType traceback exceptionType timestamp : PyStr)
    (error memoryFailure : PyDict)
    (task : TaskRuntime)
    (hasModelRoute : Bool)
    (attempt : PyVal) :
    ((∃ failure, memoryFailureFromMessage scope text = .ok failure) ↔ Parsable text) ∧
      ((∃ enriched, enrichErrorFromMessage str error task hasModelRoute timestamp =
          .ok enriched) ↔
        (error.get "memory_failure").truthy = true ∨ hasModelRoute = true ∨
          Parsable (textOf str ((error.get? "message").getD (.str "")))) ∧
      ((∃ envelope, exceptionToErrorFromText errorType text traceback exceptionType
          memoryFailure attempt timestamp = .ok envelope) ↔
        memoryFailure ≠ [] ∨ Parsable text) := by
  refine ⟨memoryFailureFromMessage_iff scope text, ?_, ?_⟩
  · rw [← memoryFailureFromMessage_iff "task"]
    unfold enrichErrorFromMessage
    rw [← or_assoc, ← Bool.or_eq_true]
    split
    · next known => exact ⟨fun _ => .inl known, fun _ => ⟨_, rfl⟩⟩
    · next unknown =>
      rw [returns_bind_iff]
      exact ⟨.inr, fun given => given.resolve_left unknown⟩
  · rw [← memoryFailureFromMessage_iff "task"]
    unfold exceptionToErrorFromText
    cases memoryFailure with
    | nil =>
        rw [List.isEmpty_nil, if_pos rfl, returns_bind_iff]
        exact ⟨.inr, fun given => given.resolve_left fun none => none rfl⟩
    | cons entry rest => exact ⟨fun _ => .inl (List.cons_ne_nil _ _), fun _ => ⟨_, rfl⟩⟩

/-- An amount that consists of dots is looked up as the text of a number. -/
theorem dots_raise :
    memoryFailureFromMessage "task" "CUDA out of memory. Tried to allocate ... MiB" =
      .error .valueError := by
  decide +kernel

end Maze.Scheduler.MemoryFailure
