import Maze.Python.DoubleExact

namespace Maze.Python.Number

open Json

/-!
# Amounts

An amount is a text of decimal digits and dots, as a pattern for numbers admits it. It is
the text of a number only if it has a digit and at most one dot.
-/

/-- A decimal digit of any script. -/
def isDigit (character : CodePoint) : Bool :=
  (digit? character).isSome

/-- A digit or a dot. -/
def isAmount (character : CodePoint) : Bool :=
  isDigit character || character = point '.'

/-- Every digit of a script is its zero or one of the nine characters behind it. -/
theorem digit?_eq_some
    {character : CodePoint}
    {digit : ℕ}
    (found : digit? character = some digit) :
    ∃ start ∈ digitZeros, start ≤ character.val ∧ character.val < start + 10 := by
  obtain ⟨start, member, chosen⟩ := List.exists_of_findSome?_eq_some found
  split at chosen
  · next within => exact ⟨start, member, within⟩
  · cases chosen

/-- The white space characters. -/
def spaces : List ℕ :=
  [9, 10, 11, 12, 13, 0x1c, 0x1d, 0x1e, 0x1f, 0x20, 0x85, 0xa0, 0x1680, 0x2000, 0x2001,
    0x2002, 0x2003, 0x2004, 0x2005, 0x2006, 0x2007, 0x2008, 0x2009, 0x200a, 0x2028, 0x2029,
    0x202f, 0x205f, 0x3000]

theorem mem_spaces_of_isSpace
    {character : CodePoint}
    (space : isSpace character = true) :
    character.val ∈ spaces := by
  simp only [isSpace, Bool.or_eq_true, Bool.and_eq_true, decide_eq_true_eq] at space
  simp only [spaces, List.mem_cons, List.not_mem_nil, or_false]
  omega

/-- No digit is among the given characters. -/
theorem isDigit_eq_false
    {character : CodePoint}
    (others : List ℕ)
    (member : character.val ∈ others)
    (apart : ∀ other ∈ others, ∀ start ∈ digitZeros, ¬(start ≤ other ∧ other < start + 10)) :
    isDigit character = false := by
  cases found : digit? character with
  | none => simp [isDigit, found]
  | some digit =>
      obtain ⟨start, known, within⟩ := digit?_eq_some found
      exact absurd within (apart _ member start known)

/-- What the characters of an amount are not. -/
theorem isAmount_spec
    {character : CodePoint}
    (amount : isAmount character = true) :
    isSpace character = false ∧ character ≠ point '-' ∧ character ≠ point '+' ∧
      lower character ≠ point 'i' ∧ lower character ≠ point 'n' ∧
      lower character ≠ point 'e' := by
  have notLetter (others : List ℕ)
      (apart : ∀ other ∈ others, ∀ start ∈ digitZeros, ¬(start ≤ other ∧ other < start + 10))
      (noDot : ∀ other ∈ others, other ≠ 46) : character.val ∉ others := by
    intro member
    simp only [isAmount, Bool.or_eq_true, decide_eq_true_eq] at amount
    rcases amount with digit | rfl
    · rw [isDigit_eq_false others member apart] at digit
      cases digit
    · exact noDot _ member rfl
  have letters := notLetter [0x2d, 0x2b, 0x45, 0x65, 0x49, 0x69, 0x4e, 0x6e] (by decide)
    (by decide)
  simp only [List.mem_cons, List.not_mem_nil, or_false, not_or] at letters
  obtain ⟨minus, plus, upperE, lowerE, upperI, lowerI, upperN, lowerN⟩ := letters
  have lowered (letter : CodePoint) (low : ¬character.val = letter.val)
      (up : ¬character.val + 0x20 = letter.val) : lower character ≠ letter := by
    intro same
    unfold lower at same
    split at same
    · next upperCase =>
      rw [Fin.ext_iff, Fin.val_add] at same
      have shift : ((0x20 : CodePoint)).val = 0x20 := rfl
      rw [shift] at same
      omega
    · exact low (by rw [same])
  refine ⟨?_, ?_, ?_, lowered _ lowerI ?_, lowered _ lowerN ?_, lowered _ lowerE ?_⟩
  · by_contra space
    rw [Bool.not_eq_false] at space
    exact notLetter spaces (by decide) (by decide) (mem_spaces_of_isSpace space)
  · rintro rfl
    exact minus rfl
  · rintro rfl
    exact plus rfl
  · have value : (point 'i').val = 0x69 := rfl
    omega
  · have value : (point 'n').val = 0x6e := rfl
    omega
  · have value : (point 'e').val = 0x65 := rfl
    omega

theorem isDigit_of_isAmount
    {character : CodePoint}
    (amount : isAmount character = true)
    (other : character ≠ point '.') :
    isDigit character = true := by
  simpa [isAmount, other] using amount

theorem isDigit_dot : isDigit (point '.') = false := by
  decide +kernel

/-- The digits of a text in front of the first character that is none. -/
def leading (text : List CodePoint) : List ℕ :=
  (text.takeWhile isDigit).filterMap digit?

theorem moreDigits_amount
    {text : List CodePoint}
    (amount : ∀ character ∈ text, isAmount character = true) :
    moreDigits text = (leading text, text.dropWhile isDigit) := by
  induction text with
  | nil => rfl
  | cons first rest inductionHypothesis =>
      have others : ∀ character ∈ rest, isAmount character = true :=
        fun character member => amount character (List.mem_cons_of_mem _ member)
      rw [moreDigits.eq_def]
      dsimp only
      cases found : digit? first with
      | some digit =>
          have digits : isDigit first = true := by simp [isDigit, found]
          simp [inductionHypothesis others, leading, digits, found]
      | none =>
          have digits : isDigit first = false := by simp [isDigit, found]
          have dot : first = point '.' := by
            by_contra other
            rw [isDigit_of_isAmount (amount first List.mem_cons_self) other] at digits
            cases digits
          have separator : ¬(point '.' = point '_') := by decide
          subst dot
          cases rest with
          | nil => simp [leading, digits]
          | cons second behind => simp [leading, digits, separator]

theorem digitPart_amount
    {text : List CodePoint}
    (amount : ∀ character ∈ text, isAmount character = true) :
    digitPart text = (leading text, text.dropWhile isDigit) := by
  unfold digitPart
  split
  · exact moreDigits_amount amount
  · next none =>
    cases text with
    | nil => rfl
    | cons first rest =>
        have digits : isDigit first = false := by
          rw [List.head?_cons, Option.bind_some] at none
          simp [isDigit, none]
        simp [leading, digits]

/-- What is left of an amount starts with a dot. -/
theorem dropWhile_amount
    {text : List CodePoint}
    (amount : ∀ character ∈ text, isAmount character = true) :
    text.dropWhile isDigit = [] ∨
      ∃ behind, text.dropWhile isDigit = point '.' :: behind ∧
        ∀ character ∈ behind, isAmount character = true := by
  cases left : text.dropWhile isDigit with
  | nil => exact .inl rfl
  | cons first behind =>
      have suffix : first :: behind <:+ text := left ▸ List.dropWhile_suffix isDigit
      have members : ∀ character ∈ first :: behind, isAmount character = true :=
        fun character member => amount character (suffix.subset member)
      have stops : isDigit first = false := by
        have head := List.head_dropWhile_not isDigit (l := text) (by rw [left]; simp)
        simpa [left] using head
      have dot : first = point '.' := by
        by_contra other
        rw [isDigit_of_isAmount (members first List.mem_cons_self) other] at stops
        cases stops
      exact .inr ⟨behind, by rw [dot], fun character member =>
        members character (List.mem_cons_of_mem _ member)⟩

/-- The digits of an amount in front of its dot and behind it. -/
def fractionDigits (text : List CodePoint) : List ℕ :=
  leading ((text.dropWhile isDigit).drop 1)

/-- The number that an amount writes. -/
def amountValue (text : List CodePoint) : ℚ :=
  digitsValue (leading text ++ fractionDigits text) *
    (10 : ℚ) ^ (-((fractionDigits text).length : ℤ))

/-- The text is the text of a number. -/
def IsNumeral (text : List CodePoint) : Prop :=
  (∃ character ∈ text, isDigit character = true) ∧ text.count (point '.') ≤ 1

theorem leading_eq_nil_iff (text : List CodePoint) :
    leading text = [] ↔ text.takeWhile isDigit = [] := by
  constructor
  · intro none
    cases taken : text.takeWhile isDigit with
    | nil => rfl
    | cons first rest =>
        have digits : isDigit first = true := by
          have all := List.all_takeWhile (p := isDigit) (l := text)
          rw [taken, List.all_cons, Bool.and_eq_true] at all
          exact all.1
        obtain ⟨digit, found⟩ := Option.isSome_iff_exists.mp digits
        rw [leading, taken, List.filterMap_cons, found] at none
        cases none
  · intro none
    rw [leading, none]
    rfl

theorem count_dot_takeWhile (text : List CodePoint) :
    (text.takeWhile isDigit).count (point '.') = 0 := by
  rw [List.count_eq_zero]
  intro member
  have all := List.all_takeWhile (p := isDigit) (l := text)
  have digits := List.all_eq_true.mp all _ member
  rw [isDigit_dot] at digits
  cases digits

/-- A text that has no dot is read to its end. -/
theorem text_eq_takeWhile
    {text : List CodePoint}
    (whole : text.dropWhile isDigit = []) :
    text.takeWhile isDigit = text := by
  have split := List.takeWhile_append_dropWhile (p := isDigit) (l := text)
  rw [whole, List.append_nil] at split
  exact split

theorem isDigit_of_ended
    {text : List CodePoint}
    (ended : text.dropWhile isDigit = []) :
    ∀ character ∈ text, isDigit character = true := by
  have all := List.all_takeWhile (p := isDigit) (l := text)
  rw [text_eq_takeWhile ended] at all
  exact List.all_eq_true.mp all

/-- An amount is read as a number exactly if it is a numeral. -/
theorem decimal?_amount
    {text : List CodePoint}
    (amount : ∀ character ∈ text, isAmount character = true) :
    (IsNumeral text → decimal? text = some (amountValue text)) ∧
      (¬IsNumeral text → decimal? text = none) := by
  have split := List.takeWhile_append_dropWhile (p := isDigit) (l := text)
  have noDots := count_dot_takeWhile text
  have first (part : List CodePoint) (inside : part <:+: text) (nonempty : part ≠ [])
      (digits : ∀ character ∈ part, isDigit character = true) :
      ∃ character ∈ text, isDigit character = true := by
    obtain ⟨character, member⟩ := List.exists_mem_of_ne_nil part nonempty
    exact ⟨character, inside.subset member, digits character member⟩
  unfold decimal?
  rw [digitPart_amount amount]
  rcases dropWhile_amount amount with left | ⟨behind, left, members⟩
  · have fraction : fractionDigits text = [] := by rw [fractionDigits, left]; rfl
    have noDot : text.count (point '.') = 0 := by
      rw [← text_eq_takeWhile left]
      exact noDots
    simp only [left, leading_eq_nil_iff, text_eq_takeWhile left, and_true]
    refine ⟨fun numeral => ?_, fun none => ?_⟩
    · obtain ⟨⟨character, member, _⟩, _⟩ := numeral
      rw [if_neg (List.ne_nil_of_mem member)]
      simp [exponent?, amountValue, fraction]
    · have empty : text = [] := by
        by_contra nonempty
        exact none ⟨first text List.infix_rfl nonempty (isDigit_of_ended left), by omega⟩
      rw [if_pos empty]
  · have inside : behind <:+: text := by
      rw [← split, left]
      exact ⟨text.takeWhile isDigit ++ [point '.'], [], by simp⟩
    have fraction : fractionDigits text = leading behind := by rw [fractionDigits, left]; rfl
    have count : text.count (point '.') = behind.count (point '.') + 1 := by
      rw [← split, left, List.count_append, noDots, List.count_cons_self]
      omega
    simp only [left, if_true, digitPart_amount members]
    rcases dropWhile_amount members with ended | ⟨others, more, _⟩
    · have noDot : behind.count (point '.') = 0 := by
        rw [← text_eq_takeWhile ended]
        exact count_dot_takeWhile behind
      simp only [ended, leading_eq_nil_iff, text_eq_takeWhile ended]
      refine ⟨fun numeral => ?_, fun none => ?_⟩
      · obtain ⟨⟨character, member, digit⟩, _⟩ := numeral
        rw [if_neg]
        · simp [exponent?, amountValue, fraction]
        · rintro ⟨noWhole, rfl⟩
          rw [← split, noWhole, left, List.nil_append, List.mem_singleton] at member
          rw [member, isDigit_dot] at digit
          cases digit
      · rw [if_pos]
        by_contra given
        refine none ⟨?_, by omega⟩
        rw [not_and_or] at given
        rcases given with whole | fraction
        · exact first (text.takeWhile isDigit) (List.takeWhile_prefix isDigit).isInfix whole
            (List.all_eq_true.mp List.all_takeWhile)
        · exact first behind inside fraction (isDigit_of_ended ended)
    · have twoDots : 2 ≤ text.count (point '.') := by
        have here : point '.' ∈ behind := by
          have suffix := List.dropWhile_suffix (l := behind) isDigit
          rw [more] at suffix
          exact suffix.subset List.mem_cons_self
        have := List.count_pos_iff.mpr here
        omega
      refine ⟨fun numeral => ?_, fun _ => ?_⟩
      · have := numeral.2
        omega
      · have noExponent : ¬(lower (point '.') = point 'e') := by decide
        rw [more]
        split
        · rfl
        · simp [exponent?, noExponent]

/-- An amount has neither a sign nor white space around it, and is no word. -/
theorem floatOfText_amount
    {text : List CodePoint}
    (amount : ∀ character ∈ text, isAmount character = true) :
    (IsNumeral text → floatOfText ⟨text⟩ = .ok (Double.round (amountValue text))) ∧
      (¬IsNumeral text → floatOfText ⟨text⟩ = .error .valueError) := by
  have stripped : strip text = text := by
    have keeps (part : List CodePoint) (inside : ∀ character ∈ part, character ∈ text) :
        part.dropWhile isSpace = part := by
      cases part with
      | nil => rfl
      | cons first rest =>
          have shown := (isAmount_spec (amount first (inside first List.mem_cons_self))).1
          simp [shown]
    rw [strip, keeps text fun _ => id, keeps text.reverse fun character member =>
      List.mem_reverse.mp member, List.reverse_reverse]
  have unsigned : sign text = (false, text) := by
    cases text with
    | nil => rfl
    | cons first rest =>
        obtain ⟨_, minus, plus, _⟩ := isAmount_spec (amount first List.mem_cons_self)
        rw [sign, if_neg minus, if_neg plus]
  have noWord : ¬(text.map lower = chars "inf" ∨ text.map lower = chars "infinity") ∧
      text.map lower ≠ chars "nan" := by
    cases text with
    | nil => decide
    | cons first rest =>
        obtain ⟨_, _, _, notI, notN, _⟩ := isAmount_spec (amount first List.mem_cons_self)
        refine ⟨?_, fun same => notN (List.cons_eq_cons.mp same).1⟩
        rintro (same | same)
        · exact notI (List.cons_eq_cons.mp same).1
        · exact notI (List.cons_eq_cons.mp same).1
  obtain ⟨number, none⟩ := decimal?_amount amount
  unfold floatOfText
  simp only [stripped, unsigned, if_neg noWord.1, if_neg noWord.2]
  refine ⟨fun numeral => ?_, fun other => ?_⟩
  · rw [number numeral]
    rfl
  · rw [none other]

end Maze.Python.Number
