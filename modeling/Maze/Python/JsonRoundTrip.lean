import Maze.Python.JsonNumber
import Maze.Python.JsonSort

namespace Maze.Python.Json

open Maze.Library.Transition

/-!
# Reading back what was written

`json.loads` of the text of a value is the value, for every value whose
dictionaries have distinct keys, whatever strings it contains. A text that stops
inside an object is never accepted.
-/

section Strings

variable {frames : List Frame} {target : Target}

@[simp] theorem flush_complete
    (read : List CodePoint) :
    Partial.flush ⟨read, none⟩ = read := by
  simp [Partial.flush]

@[simp] theorem push_complete
    (read : List CodePoint)
    (char : CodePoint) :
    Partial.push ⟨read, none⟩ char = ⟨read ++ [char], none⟩ := by
  simp [Partial.push]

theorem hexPoint_val
    {digit : Nat}
    (small : digit < 0x10) :
    (hexPoint digit).val =
      if digit < 10 then 0x30 + digit else 0x57 + digit := by
  unfold hexPoint
  split
  · next decimal =>
    exact digitPoint_val decimal
  · simp only [Fin.val_ofNat]
    omega

theorem hexValue?_hexPoint
    {digit : Nat}
    (small : digit < 0x10) :
    hexValue? (hexPoint digit) = some digit := by
  have value := hexPoint_val small
  by_cases decimal : digit < 10
  · rw [if_pos decimal] at value
    have isDecimal : isDigit (hexPoint digit) = true := by
      simp only [isDigit, value, Bool.and_eq_true, decide_eq_true_eq]
      omega
    simp [hexValue?, isDecimal, value]
  · rw [if_neg decimal] at value
    have notDecimal : isDigit (hexPoint digit) = false := by
      simp only [isDigit, value, Bool.and_eq_false_iff,
        decide_eq_false_iff_not]
      omega
    have letter : 0x61 ≤ 0x57 + digit ∧ 0x57 + digit ≤ 0x66 := by omega
    simp [hexValue?, notDecimal, value, letter]

/-- A control character is read back from its `\u` escape. -/
theorem run_controlEscape
    (read : List CodePoint)
    {char : CodePoint}
    (control : char.val < 0x20) :
    run? step? ⟨frames, .string target ⟨read, none⟩⟩
      (chars "\\u00" ++
        [hexPoint (char.val / 0x10), hexPoint (char.val % 0x10)]) =
      some ⟨frames, .string target ⟨read ++ [char], none⟩⟩ := by
  have high := hexValue?_hexPoint (show char.val / 0x10 < 0x10 by omega)
  have low := hexValue?_hexPoint (show char.val % 0x10 < 0x10 by omega)
  have zeros : run? step? ⟨frames, .string target ⟨read, none⟩⟩
      (chars "\\u00") =
      some ⟨frames, .hex target ⟨read, none⟩ 2 0⟩ := rfl
  have value : char.val / 0x10 * 16 + char.val % 0x10 = char.val := by omega
  have notSurrogate : ¬ (0xD800 ≤ char.val ∧ char.val ≤ 0xDBFF) := by omega
  have char' : Fin.ofNat 0x110000 char.val = char :=
    Fin.ofNat_val_eq_self char
  rw [run?_append, zeros, Option.bind_some, run?_cons, step?_hex, high,
    Option.map_some, Option.bind_some, run?_cons]
  simp only [Nat.zero_mul, Nat.zero_add, Nat.reduceLeDiff, if_false,
    Nat.reduceSub]
  rw [step?_hex, low, Option.map_some, Option.bind_some, value]
  simp only [Partial.pushEscaped, if_neg notSurrogate, char', push_complete]
  rfl

/-- One character of a string is read back from its text. -/
theorem run_escapePoint
    (read : List CodePoint)
    (char : CodePoint) :
    run? step? ⟨frames, .string target ⟨read, none⟩⟩ (escapePoint char) =
      some ⟨frames, .string target ⟨read ++ [char], none⟩⟩ := by
  have simple : ∀ (letter meant : CodePoint), letter ≠ point 'u' →
      escaped? letter = some meant →
      run? step? ⟨frames, .string target ⟨read, none⟩⟩
        [point '\\', letter] =
        some ⟨frames, .string target ⟨read ++ [meant], none⟩⟩ := by
    intro letter meant notHex escape
    have backslash : step? ⟨frames, .string target ⟨read, none⟩⟩
        (point '\\') = some ⟨frames, .escape target ⟨read, none⟩⟩ := rfl
    rw [run?_cons, backslash, Option.bind_some, run?_cons, step?_escape,
      if_neg notHex, escape, Option.map_some, Option.bind_some, push_complete]
    rfl
  have control : ∀ (letter : CodePoint) (value : Nat), letter ≠ point 'u' →
      char.val = value →
      escaped? letter = some (Fin.ofNat 0x110000 value) →
      run? step? ⟨frames, .string target ⟨read, none⟩⟩
        [point '\\', letter] =
        some ⟨frames, .string target ⟨read ++ [char], none⟩⟩ := by
    intro letter value notHex same escape
    subst same
    rw [Fin.ofNat_val_eq_self] at escape
    exact simple letter char notHex escape
  unfold escapePoint
  split_ifs with quote backslash backspace tab newline formFeed return' low
  · subst quote
    exact simple _ _ (by decide) rfl
  · subst backslash
    exact simple _ _ (by decide) rfl
  · exact control _ _ (by decide) backspace rfl
  · exact control _ _ (by decide) tab rfl
  · exact control _ _ (by decide) newline rfl
  · exact control _ _ (by decide) formFeed rfl
  · exact control _ _ (by decide) return' rfl
  · exact run_controlEscape read low
  · rw [run?_cons, step?_string, if_neg quote, if_neg backslash, if_neg low,
      push_complete]
    rfl

theorem run_escapePoints
    (read text rest : List CodePoint) :
    run? step? ⟨frames, .string target ⟨read, none⟩⟩
      (text.flatMap escapePoint ++ rest) =
      run? step? ⟨frames, .string target ⟨read ++ text, none⟩⟩ rest := by
  induction text generalizing read with
  | nil =>
      simp
  | cons char later inductionHypothesis =>
      rw [List.flatMap_cons, List.append_assoc, run?_append, run_escapePoint]
      simp only [Option.bind_some]
      rw [inductionHypothesis]
      simp

/-- A string is read back after its opening quote. -/
theorem run_stringTail
    (text : PyStr)
    (rest : List CodePoint) :
    run? step? ⟨frames, .string target ⟨[], none⟩⟩
      (text.chars.flatMap escapePoint ++ point '"' :: rest) =
      run? step? (finishString frames ⟨text.chars, none⟩ target) rest := by
  have quote : step? ⟨frames, .string target ⟨text.chars, none⟩⟩
      (point '"') =
      some (finishString frames ⟨text.chars, none⟩ target) := rfl
  rw [run_escapePoints, List.nil_append, run?_cons, quote]
  rfl

end Strings

section Numbers

variable {frames : List Frame}

/-- A nonempty text of a number without its sign. -/
def Lexeme (lexeme : List CodePoint) : Prop :=
  ∃ first rest, lexeme = first :: rest ∧ isDigit first = true ∧
    ∀ char ∈ rest, continuesNumber char = true

/-- What follows a value: a character that no number goes on with. -/
def Ends (following : List CodePoint) : Prop :=
  ∃ char rest, following = char :: rest ∧ continuesNumber char = false

theorem continuesNumber_of_isDigit
    {char : CodePoint}
    (digit : isDigit char = true) :
    continuesNumber char = true := by
  simp [continuesNumber, digit]

theorem lexeme_append
    {whole rest : List CodePoint}
    (areDigits : Digits whole)
    (nonempty : whole ≠ [])
    (continues : ∀ char ∈ rest, continuesNumber char = true) :
    Lexeme (whole ++ rest) := by
  cases whole with
  | nil =>
      exact absurd rfl nonempty
  | cons first later =>
      refine ⟨first, later ++ rest, rfl, areDigits first (by simp), ?_⟩
      intro char member
      rcases List.mem_append.mp member with digit | after
      · exact continuesNumber_of_isDigit
          (areDigits char (List.mem_cons_of_mem _ digit))
      · exact continues char after

theorem lexeme_natText
    (number : Nat) :
    Lexeme (natText number) := by
  rw [← List.append_nil (natText number)]
  exact lexeme_append (digits_natText number) (natText_ne_nil number) (by simp)

theorem continues_of_digits
    {digits : List CodePoint}
    (areDigits : Digits digits) :
    ∀ char ∈ digits, continuesNumber char = true :=
  fun char member => continuesNumber_of_isDigit (areDigits char member)

theorem continues_exponentText
    (exponent : Int) :
    ∀ char ∈ exponentText exponent, continuesNumber char = true := by
  intro char member
  simp only [exponentText, List.mem_cons] at member
  rcases member with rfl | rfl | digit
  · rfl
  · split <;> rfl
  · split at digit
    · rcases List.mem_cons.mp digit with rfl | digit
      · rfl
      · exact continues_of_digits (digits_natText _) char digit
    · exact continues_of_digits (digits_natText _) char digit

theorem continues_point_cons
    {digits : List CodePoint}
    (continues : ∀ char ∈ digits, continuesNumber char = true) :
    ∀ char ∈ point '.' :: digits, continuesNumber char = true := by
  intro char member
  rcases List.mem_cons.mp member with rfl | later
  · rfl
  · exact continues char later

theorem lexeme_decimalText
    (magnitude : Decimal) :
    Lexeme (decimalText magnitude) := by
  have areDigits := digits_natText magnitude.mantissa
  have nonempty := natText_ne_nil magnitude.mantissa
  unfold decimalText
  simp only
  split
  · split
    · refine ⟨point '0', _, rfl, rfl, continues_point_cons ?_⟩
      exact continues_of_digits (digits_append (digits_zeros _) areDigits)
    · split
      · refine lexeme_append
          (fun char member => areDigits char (List.mem_of_mem_take member))
          ?_ (continues_point_cons (continues_of_digits fun char member =>
            areDigits char (List.mem_of_mem_drop member)))
        simp only [ne_eq, List.take_eq_nil_iff, not_or]
        exact ⟨by omega, nonempty⟩
      · refine lexeme_append (digits_append areDigits (digits_zeros _))
          (by simp [nonempty]) (continues_point_cons ?_)
        exact continues_of_digits (digits_natText 0)
  · rw [List.append_assoc]
    refine lexeme_append
      (fun char member => areDigits char (List.mem_of_mem_take member))
      (by simp [nonempty]) ?_
    intro char member
    rcases List.mem_append.mp member with fraction | exponent
    · split at fraction
      · cases fraction
      · exact continues_point_cons (continues_of_digits fun char member =>
          areDigits char (List.mem_of_mem_tail member)) char fraction
    · exact continues_exponentText _ char exponent

theorem ne_point_of_isDigit
    {char : CodePoint}
    (digit : isDigit char = true)
    (other : Char)
    (notDigit : isDigit (point other) = false) :
    char ≠ point other := by
  intro same
  rw [same, notDigit] at digit
  cases digit

theorem isSpace_of_isDigit
    {char : CodePoint}
    (digit : isDigit char = true) :
    isSpace char = false := by
  have notBlank := ne_point_of_isDigit digit ' ' rfl
  simp only [isDigit, Bool.and_eq_true, decide_eq_true_eq] at digit
  simp only [isSpace, notBlank, decide_false, Bool.false_or,
    Bool.or_eq_false_iff, decide_eq_false_iff_not]
  omega

theorem startValue_digit
    {char : CodePoint}
    (digit : isDigit char = true) :
    startValue frames char = some ⟨frames, .number [char]⟩ := by
  have differs := ne_point_of_isDigit digit
  unfold startValue
  rw [if_neg (differs '"' rfl), if_neg (differs '{' rfl),
    if_neg (differs '[' rfl), if_neg (differs 'n' rfl),
    if_neg (differs 't' rfl), if_neg (differs 'f' rfl),
    if_neg (differs 'N' rfl), if_neg (differs 'I' rfl),
    if_neg (differs '-' rfl), if_pos digit]

/-- The characters of a number are collected. -/
theorem run_continues
    (lexeme : List CodePoint)
    {chars : List CodePoint}
    (continues : ∀ char ∈ chars, continuesNumber char = true) :
    run? step? ⟨frames, .number lexeme⟩ chars =
      some ⟨frames, .number (lexeme ++ chars)⟩ := by
  induction chars generalizing lexeme with
  | nil =>
      simp
  | cons char rest inductionHypothesis =>
      rw [run?_cons, step?_number, if_pos (continues char (by simp)),
        Option.bind_some, inductionHypothesis _ fun later member =>
          continues later (List.mem_cons_of_mem _ member)]
      simp

/-- A number ends at the first character that does not continue it. -/
theorem run_number_ends
    {lexeme following : List CodePoint}
    {value : PyVal}
    (read : number? lexeme = some value)
    (ends : Ends following) :
    run? step? ⟨frames, .number lexeme⟩ following =
      run? step? ⟨frames, .complete value⟩ following := by
  obtain ⟨char, rest, rfl, stops⟩ := ends
  rw [run?_cons, run?_cons, step?_number, step?_complete, stops, read]
  rfl

theorem run_lexeme
    {lexeme following : List CodePoint}
    {value : PyVal}
    (wellFormed : Lexeme lexeme)
    (read : number? lexeme = some value)
    (ends : Ends following) :
    run? step? ⟨frames, .value⟩ (lexeme ++ following) =
      run? step? ⟨frames, .complete value⟩ following := by
  obtain ⟨first, rest, rfl, digit, continues⟩ := wellFormed
  rw [List.cons_append, run?_cons, step?_value, isSpace_of_isDigit digit,
    if_neg (by decide), startValue_digit digit, Option.bind_some, run?_append,
    run_continues _ continues, Option.bind_some]
  exact run_number_ends read ends

theorem run_negativeLexeme
    {lexeme following : List CodePoint}
    {value : PyVal}
    (wellFormed : Lexeme lexeme)
    (read : number? (point '-' :: lexeme) = some value)
    (ends : Ends following) :
    run? step? ⟨frames, .value⟩ (point '-' :: (lexeme ++ following)) =
      run? step? ⟨frames, .complete value⟩ following := by
  obtain ⟨first, rest, rfl, digit, continues⟩ := wellFormed
  have minus : step? ⟨frames, .value⟩ (point '-') =
      some ⟨frames, .minus⟩ := rfl
  rw [run?_cons, minus, Option.bind_some, List.cons_append, run?_cons,
    step?_minus, if_neg (ne_point_of_isDigit digit 'I' rfl), if_pos digit,
    Option.bind_some, run?_append, run_continues _ continues,
    Option.bind_some]
  exact run_number_ends read ends

theorem number?_of_lexeme
    {lexeme : List CodePoint}
    (wellFormed : Lexeme lexeme) :
    number? lexeme = unsigned? false lexeme := by
  obtain ⟨first, rest, rfl, digit, _⟩ := wellFormed
  exact if_neg (ne_point_of_isDigit digit '-' rfl)

/-- An integer is read back. -/
theorem run_intText
    {number : Int}
    {following : List CodePoint}
    (limit : (decimalDigits number.natAbs).length ≤ 4300)
    (ends : Ends following) :
    run? step? ⟨frames, .value⟩ (intText number ++ following) =
      run? step? ⟨frames, .complete (.int number)⟩ following := by
  cases number with
  | ofNat magnitude =>
      have wellFormed := lexeme_natText magnitude
      apply run_lexeme wellFormed _ ends
      rw [number?_of_lexeme wellFormed]
      exact unsigned?_natText false magnitude limit
  | negSucc magnitude =>
      apply run_negativeLexeme (lexeme_natText (magnitude + 1)) _ ends
      exact unsigned?_natText true (magnitude + 1) limit

/-- A float is read back. -/
theorem run_floatText
    (number : PyFloat)
    {following : List CodePoint}
    (ends : Ends following) :
    run? step? ⟨frames, .value⟩ (floatText number ++ following) =
      run? step? ⟨frames, .complete (.float number)⟩ following := by
  cases number with
  | nan =>
      rfl
  | infinity negative =>
      cases negative <;> rfl
  | finite negative magnitude =>
      have wellFormed := lexeme_decimalText magnitude
      cases negative with
      | false =>
          apply run_lexeme wellFormed _ ends
          rw [number?_of_lexeme wellFormed]
          exact unsigned?_decimalText false magnitude
      | true =>
          exact run_negativeLexeme wellFormed
            (unsigned?_decimalText true magnitude) ends

end Numbers

section Values

variable {frames : List Frame}

theorem startsValue_of_isDigit
    {char : CodePoint}
    (digit : isDigit char = true) :
    isSpace char = false ∧ char ≠ point ']' :=
  ⟨isSpace_of_isDigit digit, ne_point_of_isDigit digit ']' rfl⟩

/-- No value begins with whitespace or a closing bracket. -/
theorem text_head
    (value : PyVal) :
    ∃ first rest, text value = first :: rest ∧
      isSpace first = false ∧ first ≠ point ']' := by
  have ofLexeme : ∀ {lexeme}, Lexeme lexeme →
      ∃ first rest, lexeme = first :: rest ∧
        isSpace first = false ∧ first ≠ point ']' := by
    intro lexeme wellFormed
    obtain ⟨first, rest, same, digit, _⟩ := wellFormed
    exact ⟨first, rest, same, startsValue_of_isDigit digit⟩
  have ofPoint : ∀ (first : Char) (rest : List CodePoint),
      isSpace (point first) = false → point first ≠ point ']' →
      ∃ head tail, point first :: rest = head :: tail ∧
        isSpace head = false ∧ head ≠ point ']' :=
    fun first rest notSpace notClosing =>
      ⟨point first, rest, rfl, notSpace, notClosing⟩
  unfold text
  split
  · exact ofPoint 'n' _ rfl (by decide)
  · exact ofPoint 't' _ rfl (by decide)
  · exact ofPoint 'f' _ rfl (by decide)
  · next number =>
    cases number with
    | ofNat magnitude => exact ofLexeme (lexeme_natText magnitude)
    | negSucc magnitude => exact ofPoint '-' _ rfl (by decide)
  · next number =>
    cases number with
    | nan => exact ofPoint 'N' _ rfl (by decide)
    | infinity negative =>
        cases negative with
        | false => exact ofPoint 'I' _ rfl (by decide)
        | true => exact ofPoint '-' _ rfl (by decide)
    | finite negative magnitude =>
        cases negative with
        | false => exact ofLexeme (lexeme_decimalText magnitude)
        | true => exact ofPoint '-' _ rfl (by decide)
  · exact ofPoint '"' _ rfl (by decide)
  · exact ofPoint '[' _ rfl (by decide)
  · exact ofPoint '[' _ rfl (by decide)
  · exact ofPoint '{' _ rfl (by decide)
  · exact ofPoint '{' _ rfl (by decide)

theorem ends_followingItems
    (items : List PyVal)
    (rest : List CodePoint) :
    Ends (followingItems items ++ rest) := by
  cases items with
  | nil => exact ⟨point ']', _, rfl, rfl⟩
  | cons item later => exact ⟨point ',', _, rfl, rfl⟩

theorem ends_followingMembers
    (entries : List (PyStr × PyVal))
    (rest : List CodePoint) :
    Ends (followingMembers entries ++ rest) := by
  cases entries with
  | nil => exact ⟨point '}', _, rfl, rfl⟩
  | cons entry later => exact ⟨point ',', _, rfl, rfl⟩

/-- The first item of a list starts a value inside the list. -/
theorem run_firstItem
    (value : PyVal)
    (rest : List CodePoint) :
    run? step? ⟨frames, .firstItem⟩ (text value ++ rest) =
      run? step? ⟨.items [] :: frames, .value⟩ (text value ++ rest) := by
  obtain ⟨first, later, same, notSpace, notClosing⟩ := text_head value
  rw [same, List.cons_append, run?_cons, run?_cons, step?_firstItem,
    step?_value, notSpace, if_neg (by decide), if_neg notClosing,
    if_neg (by decide)]

/-- A key is read up to its value. -/
theorem run_key
    (before : PyDict)
    (key : PyStr)
    (rest : List CodePoint) :
    run? step? ⟨frames, .string (.key before) ⟨[], none⟩⟩
      (key.chars.flatMap escapePoint ++ point '"' :: (chars ": " ++ rest)) =
      run? step? ⟨.member before key :: frames, .value⟩ rest := by
  have colon : run? step? ⟨frames, .colon before key⟩ (chars ": ") =
      some ⟨.member before key :: frames, .value⟩ := rfl
  rw [run_stringTail, run?_append]
  simp only [finishString, flush_complete, colon, Option.bind_some]

/-- Only the text of a number needs another character to end. -/
def isNumber : PyVal → Bool
  | .int _ | .float _ => true
  | _ => false

mutual

/-- A value that ends is read back. -/
theorem run_text
    (value : PyVal)
    (distinct : value.keysDistinct = true)
    (limit : withinDigitLimit value = true)
    (frames : List Frame)
    (following : List CodePoint)
    (ends : isNumber value = true → Ends following) :
    run? step? ⟨frames, .value⟩ (text value ++ following) =
      run? step? ⟨frames, .complete value⟩ following := by
  match value with
  | .null => rfl
  | .bool true => rfl
  | .bool false => rfl
  | .int number =>
      exact run_intText (of_decide_eq_true limit) (ends rfl)
  | .float number =>
      exact run_floatText number (ends rfl)
  | .str string =>
      have quote : step? ⟨frames, .value⟩ (point '"') =
          some ⟨frames, .string .value ⟨[], none⟩⟩ := rfl
      have assoc : text (.str string) ++ following =
          point '"' :: (string.chars.flatMap escapePoint ++
            point '"' :: following) := by
        simp [text, stringText]
      rw [assoc, run?_cons, quote, Option.bind_some, run_stringTail]
      simp [finishString]
  | .list [] => rfl
  | .list (item :: rest) =>
      have opening : step? ⟨frames, .value⟩ (point '[') =
          some ⟨frames, .firstItem⟩ := rfl
      simp only [PyVal.keysDistinct, PyVal.itemsKeysDistinct,
        Bool.and_eq_true] at distinct
      simp only [withinDigitLimit, itemsWithinDigitLimit,
        Bool.and_eq_true] at limit
      rw [text, List.cons_append, List.append_assoc, run?_cons, opening,
        Option.bind_some, run_firstItem,
        run_text item distinct.1 limit.1 _ _
          (fun _ => ends_followingItems rest _),
        run_followingItems rest distinct.2 limit.2]
      rfl
  | .dict [] => rfl
  | .dict ((key, member) :: rest) =>
      have opening : run? step? ⟨frames, .value⟩ [point '{', point '"'] =
          some ⟨frames, .string (.key []) ⟨[], none⟩⟩ := rfl
      have assoc : text (.dict ((key, member) :: rest)) ++ following =
          [point '{', point '"'] ++ (key.chars.flatMap escapePoint ++
            point '"' :: (chars ": " ++ (text member ++
              (followingMembers rest ++ following)))) := by
        simp [text, stringText]
      simp only [PyVal.keysDistinct, PyVal.entriesKeysDistinct,
        Bool.and_eq_true, decide_eq_true_eq] at distinct
      simp only [withinDigitLimit, entriesWithinDigitLimit,
        Bool.and_eq_true] at limit
      rw [assoc, run?_append, opening, Option.bind_some, run_key,
        run_text member distinct.2.1 limit.1 _ _
          (fun _ => ends_followingMembers rest _),
        run_followingMembers rest distinct.2.2 limit.2]
      have updated := PyDict.update_of_nodup [(key, member)] rest distinct.1
      simp only [PyDict.set, updated, List.singleton_append]

/-- The rest of a list is read back. -/
theorem run_followingItems
    (items : List PyVal)
    (distinct : PyVal.itemsKeysDistinct items = true)
    (limit : itemsWithinDigitLimit items = true)
    (frames : List Frame)
    (before : List PyVal)
    (value : PyVal)
    (following : List CodePoint) :
    run? step? ⟨.items before :: frames, .complete value⟩
      (followingItems items ++ following) =
      run? step? ⟨frames, .complete (.list (before ++ value :: items))⟩
        following := by
  match items with
  | [] => rfl
  | item :: rest =>
      have comma : run? step? ⟨.items before :: frames, .complete value⟩
          (chars ", ") =
          some ⟨.items (before ++ [value]) :: frames, .value⟩ := rfl
      simp only [PyVal.itemsKeysDistinct, Bool.and_eq_true] at distinct
      simp only [itemsWithinDigitLimit, Bool.and_eq_true] at limit
      rw [followingItems, List.append_assoc, List.append_assoc, run?_append,
        comma, Option.bind_some,
        run_text item distinct.1 limit.1 _ _
          (fun _ => ends_followingItems rest _),
        run_followingItems rest distinct.2 limit.2]
      simp

/-- The rest of an object is read back. -/
theorem run_followingMembers
    (entries : List (PyStr × PyVal))
    (distinct : PyVal.entriesKeysDistinct entries = true)
    (limit : entriesWithinDigitLimit entries = true)
    (frames : List Frame)
    (before : PyDict)
    (key : PyStr)
    (value : PyVal)
    (following : List CodePoint) :
    run? step? ⟨.member before key :: frames, .complete value⟩
      (followingMembers entries ++ following) =
      run? step? ⟨frames, .complete
        (.dict (PyDict.update (PyDict.set before key value) entries))⟩
        following := by
  match entries with
  | [] => rfl
  | (nextKey, member) :: rest =>
      have comma : run? step? ⟨.member before key :: frames, .complete value⟩
          (chars ", " ++ [point '"']) =
          some ⟨frames, .string (.key (PyDict.set before key value))
            ⟨[], none⟩⟩ := rfl
      have assoc : followingMembers ((nextKey, member) :: rest) ++ following =
          (chars ", " ++ [point '"']) ++ (nextKey.chars.flatMap escapePoint ++
            point '"' :: (chars ": " ++ (text member ++
              (followingMembers rest ++ following)))) := by
        simp [followingMembers, stringText]
      simp only [PyVal.entriesKeysDistinct, Bool.and_eq_true] at distinct
      simp only [entriesWithinDigitLimit, Bool.and_eq_true] at limit
      rw [assoc, run?_append, comma, Option.bind_some, run_key,
        run_text member distinct.1 limit.1 _ _
          (fun _ => ends_followingMembers rest _),
        run_followingMembers rest distinct.2 limit.2]
      rfl

end

/-- An object is read to its end. -/
theorem run_object
    (entries : PyDict)
    (distinct : (PyVal.dict entries).keysDistinct = true)
    (limit : withinDigitLimit (.dict entries) = true) :
    run? step? start (text (.dict entries)) =
      some ⟨[], .complete (.dict entries)⟩ := by
  have read := run_text (.dict entries) distinct limit [] [] (by simp [isNumber])
  rwa [List.append_nil] at read

/-- `json.loads` of the text of an object is the object. -/
theorem loads_text
    (entries : PyDict)
    (distinct : (PyVal.dict entries).keysDistinct = true)
    (limit : withinDigitLimit (.dict entries) = true) :
    loads ⟨text (.dict entries)⟩ = .ok (.dict entries) := by
  simp only [loads, run_object entries distinct limit, Option.bind_some]
  rfl

end Values

section Fragments

/-- A reader outside every object and list, with a whole value behind it. -/
def Closed (reader : Reader) : Prop :=
  (∃ value, reader = ⟨[], .complete value⟩) ∨
    ∃ lexeme, reader = ⟨[], .number lexeme⟩

theorem closed_of_finish?
    {reader : Reader}
    {value : PyVal}
    (finished : finish? reader = some value) :
    Closed reader := by
  obtain ⟨frames, mode⟩ := reader
  unfold finish? at finished
  simp only at finished
  split at finished
  · exact Or.inl ⟨_, rfl⟩
  · exact Or.inr ⟨_, rfl⟩
  · cases finished

theorem afterValue_nil
    {value : PyVal}
    {char : CodePoint}
    {next : Reader}
    (stepped : afterValue [] value char = some next) :
    next = ⟨[], .complete value⟩ := by
  unfold afterValue at stepped
  split at stepped
  · exact (Option.some.inj stepped).symm
  · cases stepped

/-- After a whole value only whitespace can follow. -/
theorem closed_step
    {reader next : Reader}
    {char : CodePoint}
    (closed : Closed reader)
    (stepped : step? reader char = some next) :
    Closed next := by
  rcases closed with ⟨value, rfl⟩ | ⟨lexeme, rfl⟩
  · exact Or.inl ⟨value, afterValue_nil stepped⟩
  · rw [step?_number] at stepped
    split at stepped
    · exact Or.inr ⟨_, (Option.some.inj stepped).symm⟩
    · obtain ⟨value, _, after⟩ := Option.bind_eq_some_iff.mp stepped
      exact Or.inl ⟨value, afterValue_nil after⟩

/-- No object can end outside every object. -/
theorem step?_brace_of_closed
    {reader : Reader}
    (closed : Closed reader) :
    step? reader (point '}') = none := by
  rcases closed with ⟨value, rfl⟩ | ⟨lexeme, rfl⟩
  · rfl
  · have stops : continuesNumber (point '}') = false := rfl
    rw [step?_number, stops]
    cases number? lexeme <;> rfl

theorem followingMembers_last
    (entries : List (PyStr × PyVal)) :
    ∃ body, followingMembers entries = body ++ [point '}'] := by
  induction entries with
  | nil =>
      exact ⟨[], rfl⟩
  | cons entry rest inductionHypothesis =>
      obtain ⟨body, same⟩ := inductionHypothesis
      refine ⟨chars ", " ++ stringText entry.1 ++ chars ": " ++
        text entry.2 ++ body, ?_⟩
      rw [followingMembers, same, ← List.append_assoc]

/-- The text of an object is a brace, a body and a brace. -/
theorem text_dict_shape
    (entries : PyDict) :
    ∃ body, text (.dict entries) = point '{' :: (body ++ [point '}']) := by
  cases entries with
  | nil =>
      exact ⟨[], rfl⟩
  | cons entry rest =>
      obtain ⟨body, same⟩ := followingMembers_last rest
      refine ⟨stringText entry.1 ++ chars ": " ++ text entry.2 ++ body, ?_⟩
      rw [text, same, ← List.append_assoc]

/-- The beginning of the text of an object is not a JSON text. -/
theorem loads_fragment
    {entries : PyDict}
    {fragment missing : List CodePoint}
    (distinct : (PyVal.dict entries).keysDistinct = true)
    (limit : withinDigitLimit (.dict entries) = true)
    (whole : text (.dict entries) = fragment ++ missing)
    (torn : missing ≠ []) :
    loads ⟨fragment⟩ = .error .valueError := by
  have read := run_object entries distinct limit
  rw [whole, run?_append] at read
  obtain ⟨reader, readFragment, readMissing⟩ := Option.bind_eq_some_iff.mp read
  unfold loads
  simp only [readFragment, Option.bind_some]
  cases finished : finish? reader with
  | none =>
      rfl
  | some value =>
      have closed := closed_of_finish? finished
      obtain ⟨body, shape⟩ := text_dict_shape entries
      have last : missing = missing.dropLast ++ [point '}'] := by
        have ending := congrArg List.getLast? (whole.symm.trans shape)
        rw [List.getLast?_append_of_ne_nil _ torn, ← List.cons_append,
          List.getLast?_concat] at ending
        exact (List.dropLast_append_getLast? _ ending).symm
      rw [last, run?_append] at readMissing
      obtain ⟨inner, readInner, stepped⟩ :=
        Option.bind_eq_some_iff.mp readMissing
      have innerClosed := run?_invariant
        (fun _ _ _ => closed_step) closed readInner
      rw [run?_cons, step?_brace_of_closed innerClosed] at stepped
      cases stepped

end Fragments

section Lines

/-- The text has no control character, in particular no end of line. -/
def Printable (text : List CodePoint) : Prop :=
  ∀ char ∈ text, 0x20 ≤ char.val

theorem printable_nil :
    Printable [] := by
  simp [Printable]

theorem printable_append
    {first second : List CodePoint}
    (firstPrintable : Printable first)
    (secondPrintable : Printable second) :
    Printable (first ++ second) := by
  intro char member
  rcases List.mem_append.mp member with left | right
  · exact firstPrintable char left
  · exact secondPrintable char right

theorem printable_cons
    {first : CodePoint}
    {rest : List CodePoint}
    (printable : 0x20 ≤ first.val)
    (restPrintable : Printable rest) :
    Printable (first :: rest) := by
  intro char member
  rcases List.mem_cons.mp member with rfl | later
  · exact printable
  · exact restPrintable char later

theorem printable_of_isDigit
    {char : CodePoint}
    (digit : isDigit char = true) :
    0x20 ≤ char.val := by
  simp only [isDigit, Bool.and_eq_true, decide_eq_true_eq] at digit
  omega

theorem printable_of_continuesNumber
    {char : CodePoint}
    (continues : continuesNumber char = true) :
    0x20 ≤ char.val := by
  simp only [continuesNumber, Bool.or_eq_true, decide_eq_true_eq] at continues
  rcases continues with ((((digit | rfl) | rfl) | rfl) | rfl) | rfl
  · exact printable_of_isDigit digit
  all_goals decide

theorem printable_of_lexeme
    {lexeme : List CodePoint}
    (wellFormed : Lexeme lexeme) :
    Printable lexeme := by
  obtain ⟨first, rest, rfl, digit, continues⟩ := wellFormed
  exact printable_cons (printable_of_isDigit digit) fun char member =>
    printable_of_continuesNumber (continues char member)

theorem printable_chars
    {literal : String}
    (printable : (chars literal).all (fun char => 0x20 ≤ char.val) = true) :
    Printable (chars literal) := by
  intro char member
  simpa using List.all_eq_true.mp printable char member

theorem printable_escapePoint
    (char : CodePoint) :
    Printable (escapePoint char) := by
  have hex : ∀ digit, digit < 0x10 → 0x20 ≤ (hexPoint digit).val := by
    intro digit small
    rw [hexPoint_val small]
    split <;> omega
  unfold escapePoint
  split_ifs with quote backslash backspace tab newline formFeed return' low
  · exact printable_chars rfl
  · exact printable_chars rfl
  · exact printable_chars rfl
  · exact printable_chars rfl
  · exact printable_chars rfl
  · exact printable_chars rfl
  · exact printable_chars rfl
  · apply printable_append (printable_chars rfl)
    exact printable_cons (hex _ (by omega))
      (printable_cons (hex _ (by omega)) printable_nil)
  · exact printable_cons (by omega) printable_nil

theorem printable_stringText
    (string : PyStr) :
    Printable (stringText string) := by
  apply printable_cons (by decide)
  apply printable_append _ (printable_cons (by decide) printable_nil)
  intro char member
  obtain ⟨original, _, present⟩ := List.mem_flatMap.mp member
  exact printable_escapePoint original char present

theorem printable_decimalText
    (magnitude : Decimal) :
    Printable (decimalText magnitude) :=
  printable_of_lexeme (lexeme_decimalText magnitude)

mutual

/-- The text of a value is one line. -/
theorem printable_text
    (value : PyVal) :
    Printable (text value) := by
  match value with
  | .null => exact printable_chars rfl
  | .bool true => exact printable_chars rfl
  | .bool false => exact printable_chars rfl
  | .int (.ofNat magnitude) =>
      exact printable_of_lexeme (lexeme_natText magnitude)
  | .int (.negSucc magnitude) =>
      exact printable_cons (by decide)
        (printable_of_lexeme (lexeme_natText (magnitude + 1)))
  | .float .nan => exact printable_chars rfl
  | .float (.infinity true) => exact printable_chars rfl
  | .float (.infinity false) => exact printable_chars rfl
  | .float (.finite false magnitude) => exact printable_decimalText magnitude
  | .float (.finite true magnitude) =>
      exact printable_cons (by decide) (printable_decimalText magnitude)
  | .str string => exact printable_stringText string
  | .list [] => exact printable_chars rfl
  | .list (item :: rest) =>
      exact printable_cons (by decide) (printable_append
        (printable_text item) (printable_followingItems rest))
  | .dict [] =>
      exact printable_cons (by decide) (printable_cons (by decide) printable_nil)
  | .dict ((key, member) :: rest) =>
      apply printable_cons (by decide)
      apply printable_append _ (printable_followingMembers rest)
      apply printable_append _ (printable_text member)
      exact printable_append (printable_stringText key) (printable_chars rfl)

theorem printable_followingItems
    (items : List PyVal) :
    Printable (followingItems items) := by
  match items with
  | [] => exact printable_chars rfl
  | item :: rest =>
      apply printable_append _ (printable_followingItems rest)
      exact printable_append (printable_chars rfl) (printable_text item)

theorem printable_followingMembers
    (entries : List (PyStr × PyVal)) :
    Printable (followingMembers entries) := by
  match entries with
  | [] => exact printable_cons (by decide) printable_nil
  | (key, member) :: rest =>
      apply printable_append _ (printable_followingMembers rest)
      apply printable_append _ (printable_text member)
      apply printable_append _ (printable_chars rfl)
      exact printable_append (printable_chars rfl) (printable_stringText key)

end

end Lines

end Maze.Python.Json
