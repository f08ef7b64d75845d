import Mathlib.Data.Nat.Digits.Lemmas
import Maze.Python.JsonReader

namespace Maze.Python.Json

/-!
# The texts of numbers

The text that `repr` gives a number is read back as that number: the digits of
an integer, and the positional and the scientific layout of a float.
-/

section Digits

/-- The text consists of decimal digits. -/
def Digits (digits : List CodePoint) : Prop :=
  ∀ digit ∈ digits, isDigit digit = true

@[simp] theorem digitPoint_val
    {digit : Nat}
    (small : digit < 10) :
    (digitPoint digit).val = 0x30 + digit := by
  simp only [digitPoint, Fin.val_ofNat]
  omega

theorem isDigit_digitPoint
    {digit : Nat}
    (small : digit < 10) :
    isDigit (digitPoint digit) = true := by
  simp only [isDigit, digitPoint_val small, Bool.and_eq_true,
    decide_eq_true_eq]
  omega

theorem decimalDigits_lt
    (number : Nat) :
    ∀ digit ∈ decimalDigits number, digit < 10 := by
  intro digit member
  unfold decimalDigits at member
  split at member
  · simp_all
  · exact Nat.digits_lt_base (by decide) (List.mem_reverse.mp member)

theorem decimalDigits_ne_nil
    (number : Nat) :
    decimalDigits number ≠ [] := by
  unfold decimalDigits
  split
  · simp
  · next positive =>
    simpa [Nat.digits_ne_nil_iff_ne_zero] using positive

/-- Reading the digits of a number from the left gives the number. -/
theorem foldl_decimalDigits
    (number : Nat) :
    (decimalDigits number).foldl (fun value digit => value * 10 + digit) 0 =
      number := by
  unfold decimalDigits
  split
  · simp_all
  · rw [List.foldl_reverse]
    have value := Nat.ofDigits_digits 10 number
    rw [Nat.ofDigits_eq_foldr] at value
    simpa [Nat.add_comm, Nat.mul_comm] using value

/-- Only zero has a text that begins with the digit zero. -/
theorem decimalDigits_head_ne_zero
    {number : Nat}
    (positive : number ≠ 0) :
    (decimalDigits number).head? ≠ some 0 := by
  have nonempty : Nat.digits 10 number ≠ [] :=
    Nat.digits_ne_nil_iff_ne_zero.mpr positive
  have last := Nat.getLast_digit_ne_zero 10 positive
  simp only [decimalDigits, if_neg positive, List.head?_reverse,
    List.getLast?_eq_some_getLast nonempty, ne_eq, Option.some.injEq]
  exact last

theorem digits_natText
    (number : Nat) :
    Digits (natText number) := by
  intro char member
  obtain ⟨digit, present, rfl⟩ := List.mem_map.mp member
  exact isDigit_digitPoint (decimalDigits_lt number digit present)

theorem natText_ne_nil
    (number : Nat) :
    natText number ≠ [] := by
  simp [natText, decimalDigits_ne_nil]

theorem digitPoint_inj
    {first second : Nat}
    (firstSmall : first < 10)
    (secondSmall : second < 10)
    (same : digitPoint first = digitPoint second) :
    first = second := by
  have values := congrArg Fin.val same
  rw [digitPoint_val firstSmall, digitPoint_val secondSmall] at values
  omega

theorem natText_head_ne_zero
    {number : Nat}
    (positive : number ≠ 0) :
    (natText number).head? ≠ some (point '0') := by
  have head := decimalDigits_head_ne_zero positive
  have small := decimalDigits_lt number
  intro zero
  simp only [natText, List.head?_map, Option.map_eq_some_iff] at zero
  obtain ⟨digit, first, same⟩ := zero
  have present := List.mem_of_head? first
  have zeroDigit : digit = 0 :=
    digitPoint_inj (small digit present) (by decide) same
  rw [zeroDigit] at first
  exact head first

theorem natText_zero :
    natText 0 = [point '0'] := rfl

theorem foldl_digits_append
    (digits : List CodePoint)
    (initial : Nat) :
    digits.foldl (fun value digit => value * 10 + (digit.val - 0x30)) initial =
      initial * 10 ^ digits.length + digitsValue digits := by
  unfold digitsValue
  induction digits generalizing initial with
  | nil =>
      simp
  | cons digit rest inductionHypothesis =>
      simp only [List.foldl_cons, List.length_cons]
      rw [inductionHypothesis, inductionHypothesis (0 * 10 + _)]
      ring

theorem digitsValue_append
    (first second : List CodePoint) :
    digitsValue (first ++ second) =
      digitsValue first * 10 ^ second.length + digitsValue second := by
  conv_lhs => rw [digitsValue, List.foldl_append, foldl_digits_append]
  rfl

@[simp] theorem digitsValue_zeros
    (count : Nat) :
    digitsValue (List.replicate count (point '0')) = 0 := by
  induction count with
  | zero =>
      rfl
  | succ count inductionHypothesis =>
      rw [List.replicate_succ']
      rw [digitsValue_append, inductionHypothesis]
      rfl

@[simp] theorem digitsValue_natText
    (number : Nat) :
    digitsValue (natText number) = number := by
  have small := decimalDigits_lt number
  have value := foldl_decimalDigits number
  unfold digitsValue natText
  rw [List.foldl_map]
  calc
    (decimalDigits number).foldl
        (fun value digit => value * 10 + ((digitPoint digit).val - 0x30)) 0
        = (decimalDigits number).foldl
            (fun value digit => value * 10 + digit) 0 := by
      apply List.foldl_ext
      intro value digit member
      rw [digitPoint_val (small digit member)]
      omega
    _ = number := value

end Digits

section Decimals

/-- Trailing zeros do not change a decimal. -/
theorem stripZeros_scaled
    (magnitude : Decimal)
    (zeros : Nat)
    (positive : 0 < magnitude.mantissa * 10 ^ zeros) :
    stripZeros (magnitude.mantissa * 10 ^ zeros)
      (magnitude.exponent - zeros) positive = magnitude := by
  induction zeros with
  | zero =>
      have nonzero : ¬ magnitude.mantissa % 10 = 0 := by
        rcases magnitude.shortest with canonical | ⟨zero, _⟩
        · exact canonical
        · simp [zero] at positive
      unfold stripZeros
      simp [nonzero]
  | succ zeros inductionHypothesis =>
      have multiple : magnitude.mantissa * 10 ^ (zeros + 1) % 10 = 0 := by
        rw [pow_succ, ← Nat.mul_assoc]
        exact Nat.mul_mod_left _ _
      have quotient : magnitude.mantissa * 10 ^ (zeros + 1) / 10 =
          magnitude.mantissa * 10 ^ zeros := by
        rw [pow_succ, ← Nat.mul_assoc]
        exact Nat.mul_div_left _ (by decide)
      have exponents : magnitude.exponent - ((zeros + 1 : Nat) : Int) + 1 =
          magnitude.exponent - zeros := by
        push_cast
        ring
      unfold stripZeros
      simp only [multiple, dif_pos, quotient, exponents]
      exact inductionHypothesis _

/-- A decimal scaled by a power of ten is that decimal. -/
theorem ofScaled_scaled
    (magnitude : Decimal)
    (zeros : Nat) :
    Decimal.ofScaled (magnitude.mantissa * 10 ^ zeros)
      (magnitude.exponent - zeros) = magnitude := by
  unfold Decimal.ofScaled
  split
  · next positive =>
    exact stripZeros_scaled magnitude zeros positive
  · next notPositive =>
    have zero : magnitude.mantissa = 0 := by
      by_contra nonzero
      exact notPositive
        (Nat.mul_pos (Nat.pos_of_ne_zero nonzero) (Nat.pow_pos (by decide)))
    rcases magnitude with ⟨mantissa, exponent, canonical | ⟨_, rfl⟩⟩
    · subst zero
      exact absurd rfl canonical
    · subst zero
      rfl

end Decimals

section Lexemes

theorem takeWhile_digits
    {digits rest : List CodePoint}
    (areDigits : Digits digits)
    (ends : ∀ char, rest.head? = some char → isDigit char = false) :
    (digits ++ rest).takeWhile isDigit = digits := by
  rw [List.takeWhile_append_of_pos areDigits]
  cases rest with
  | nil =>
      simp
  | cons char later =>
      simp [ends char rfl]

theorem dropWhile_digits
    {digits rest : List CodePoint}
    (areDigits : Digits digits)
    (ends : ∀ char, rest.head? = some char → isDigit char = false) :
    (digits ++ rest).dropWhile isDigit = rest := by
  rw [List.dropWhile_append_of_pos areDigits]
  cases rest with
  | nil =>
      rfl
  | cons char later =>
      simp [ends char rfl]

/-- The digits before the decimal point have no superfluous zero. -/
def Whole (digits : List CodePoint) : Prop :=
  Digits digits ∧ digits ≠ [] ∧
    (digits.head? = some (point '0') → digits.length = 1)

theorem whole_natText
    (number : Nat) :
    Whole (natText number) := by
  refine ⟨digits_natText number, natText_ne_nil number, ?_⟩
  intro zero
  by_cases positive : number = 0
  · subst positive
    rfl
  · exact absurd zero (natText_head_ne_zero positive)

/-- A lexeme splits into its digits, its fraction and its exponent. -/
theorem unsigned?_append
    {whole rest after : List CodePoint}
    {fraction : Option (List CodePoint)}
    {exponent : Option Int}
    (negative : Bool)
    (wellFormed : Whole whole)
    (ends : ∀ char, rest.head? = some char → isDigit char = false)
    (readFraction : fraction? rest = some (fraction, after))
    (readExponent : exponent? after = some exponent) :
    unsigned? negative (whole ++ rest) =
      assemble? negative whole fraction exponent := by
  obtain ⟨areDigits, nonempty, noZero⟩ := wellFormed
  have accepted : (whole.isEmpty ||
      (whole.head? = some (point '0') && whole.length ≠ 1)) = false := by
    simp only [Bool.or_eq_false_iff, List.isEmpty_eq_false_iff,
      Bool.and_eq_false_iff, decide_eq_false_iff_not, not_not]
    refine ⟨nonempty, ?_⟩
    by_cases zero : whole.head? = some (point '0')
    · exact Or.inr (noZero zero)
    · exact Or.inl zero
  unfold unsigned?
  simp only [takeWhile_digits areDigits ends, dropWhile_digits areDigits ends,
    accepted, readFraction, readExponent, Option.bind_some]
  rfl

/-- An integer within the digit limit is read back. -/
theorem unsigned?_natText
    (negative : Bool)
    (number : Nat)
    (limit : (decimalDigits number).length ≤ 4300) :
    unsigned? negative (natText number) =
      some (.int (if negative then -(number : Int) else number)) := by
  have read : unsigned? negative (natText number ++ []) =
      assemble? negative (natText number) none none :=
    unsigned?_append negative (whole_natText number) (by simp) rfl rfl
  have length : (natText number).length ≤ 4300 := by
    simpa [natText] using limit
  rw [List.append_nil] at read
  simp [read, assemble?, length]

/-- A signed exponent is read back. -/
theorem exponent?_signed
    {digits : List CodePoint}
    (negative : Bool)
    (areDigits : Digits digits)
    (nonempty : digits ≠ []) :
    exponent? (point 'e' ::
      (if negative then point '-' else point '+') :: digits) =
      some (some (if negative then -(digitsValue digits : Int)
        else digitsValue digits)) := by
  have accepted : (digits.isEmpty || !digits.all isDigit) = false := by
    simp only [Bool.or_eq_false_iff, List.isEmpty_eq_false_iff,
      Bool.not_eq_false', List.all_eq_true]
    exact ⟨nonempty, areDigits⟩
  have minus : point '+' ≠ point '-' := by decide
  cases negative with
  | false =>
      simp [exponent?, accepted, minus]
  | true =>
      simp [exponent?, accepted]

/-- The exponent of the scientific layout is read back. -/
theorem exponent?_exponentText
    (exponent : Int) :
    exponent? (exponentText exponent) = some (some exponent) := by
  have areDigits := digits_natText exponent.natAbs
  have padded : Digits (point '0' :: natText exponent.natAbs) := by
    intro char member
    rcases List.mem_cons.mp member with rfl | later
    · rfl
    · exact areDigits char later
  have paddedValue : digitsValue (point '0' :: natText exponent.natAbs) =
      exponent.natAbs := by
    have value := digitsValue_append [point '0'] (natText exponent.natAbs)
    rw [digitsValue_natText] at value
    simpa using value.trans (by simp [digitsValue, point, PyStr.codePoint])
  have read : ∀ digits : List CodePoint, Digits digits → digits ≠ [] →
      digitsValue digits = exponent.natAbs →
      exponent? (point 'e' ::
        (if exponent < 0 then point '-' else point '+') :: digits) =
        some (some exponent) := by
    intro digits areDigits nonempty value
    have signed :=
      exponent?_signed (decide (exponent < 0)) areDigits nonempty
    simp only [decide_eq_true_eq, value] at signed
    rw [signed]
    split <;> congr 2 <;> omega
  by_cases short : (natText exponent.natAbs).length < 2
  · simp only [exponentText, if_pos short]
    exact read _ padded (by simp) paddedValue
  · simp only [exponentText, if_neg short]
    exact read _ areDigits (natText_ne_nil _) (digitsValue_natText _)

/-- A fraction is read up to the exponent. -/
theorem fraction?_append
    {digits : List CodePoint}
    (rest : List CodePoint)
    (areDigits : Digits digits)
    (nonempty : digits ≠ [])
    (ends : ∀ char, rest.head? = some char → isDigit char = false) :
    fraction? (point '.' :: (digits ++ rest)) = some (some digits, rest) := by
  simp only [fraction?, if_true, takeWhile_digits areDigits ends,
    dropWhile_digits areDigits ends]
  simp [nonempty]

/-- The first digit is one of the digits before the decimal point. -/
theorem whole_take
    (number count : Nat)
    (positive : 0 < count) :
    Whole ((natText number).take count) := by
  have nonempty := natText_ne_nil number
  refine ⟨fun char member =>
    digits_natText number char (List.mem_of_mem_take member), ?_, ?_⟩
  · simp only [ne_eq, List.take_eq_nil_iff, not_or]
    exact ⟨by omega, nonempty⟩
  · intro zero
    rw [List.head?_take, if_neg (by omega)] at zero
    by_cases isZero : number = 0
    · subst isZero
      simp only [natText_zero, List.length_singleton, List.length_take]
      omega
    · exact absurd zero (natText_head_ne_zero isZero)

theorem assemble?_float
    {whole : List CodePoint}
    {fraction : Option (List CodePoint)}
    {exponent : Option Int}
    {magnitude : Decimal}
    (negative : Bool)
    (zeros : Nat)
    (present : fraction.isNone = false ∨ exponent.isNone = false)
    (digits : digitsValue (whole ++ fraction.getD []) =
      magnitude.mantissa * 10 ^ zeros)
    (scale : exponent.getD 0 - ((fraction.getD []).length : Int) =
      magnitude.exponent - zeros) :
    assemble? negative whole fraction exponent =
      some (.float (.finite negative magnitude)) := by
  have isFloat : (fraction.isNone && exponent.isNone) = false := by
    rcases present with absent | absent <;> simp [absent]
  simp only [assemble?, isFloat, digits, scale, ofScaled_scaled]
  rfl

theorem digits_append
    {first second : List CodePoint}
    (firstDigits : Digits first)
    (secondDigits : Digits second) :
    Digits (first ++ second) := by
  intro char member
  rcases List.mem_append.mp member with left | right
  · exact firstDigits char left
  · exact secondDigits char right

theorem digits_zeros
    (count : Nat) :
    Digits (List.replicate count (point '0')) := by
  intro char member
  rw [List.eq_of_mem_replicate member]
  rfl

theorem exponentText_head
    (exponent : Int) :
    ∀ char, (exponentText exponent).head? = some char →
      isDigit char = false := by
  intro char first
  simp only [exponentText, List.head?_cons, Option.some.injEq] at first
  subst first
  rfl

/-- `0.00ddd` -/
theorem unsigned?_small
    (negative : Bool)
    (magnitude : Decimal)
    (zeros : Nat)
    (scale : ((natText magnitude.mantissa).length : Int) +
      magnitude.exponent = -zeros) :
    unsigned? negative (point '0' :: point '.' ::
      (List.replicate zeros (point '0') ++ natText magnitude.mantissa)) =
      some (.float (.finite negative magnitude)) := by
  have fraction := fraction?_append []
    (digits_append (digits_zeros zeros) (digits_natText magnitude.mantissa))
    (by simp [natText_ne_nil]) (by simp)
  have read := unsigned?_append negative (whole_natText 0)
    (by simp; rfl) fraction rfl
  rw [List.append_nil, natText_zero, List.singleton_append] at read
  rw [read]
  apply assemble?_float negative 0 (Or.inl rfl)
  · simp only [Option.getD_some, digitsValue_append, digitsValue_zeros,
      digitsValue_natText]
    simp [digitsValue, point, PyStr.codePoint]
  · simp only [Option.getD_some, Option.getD_none, List.length_append,
      List.length_replicate]
    push_cast
    omega

/-- `dd.ddd` -/
theorem unsigned?_inside
    (negative : Bool)
    (magnitude : Decimal)
    (count : Nat)
    (positive : 0 < count)
    (inside : count < (natText magnitude.mantissa).length)
    (scale : ((natText magnitude.mantissa).length : Int) +
      magnitude.exponent = count) :
    unsigned? negative ((natText magnitude.mantissa).take count ++
      point '.' :: (natText magnitude.mantissa).drop count) =
      some (.float (.finite negative magnitude)) := by
  have areDigits := digits_natText magnitude.mantissa
  have nonempty : (natText magnitude.mantissa).drop count ≠ [] := by
    simpa using inside
  have fraction := fraction?_append []
    (fun char member => areDigits char (List.mem_of_mem_drop member))
    nonempty (by simp)
  have read := unsigned?_append negative
    (whole_take magnitude.mantissa count positive) (by simp; rfl) fraction rfl
  rw [List.append_nil] at read
  rw [read]
  apply assemble?_float negative 0 (Or.inl rfl)
  · simp
  · simp only [Option.getD_some, Option.getD_none, List.length_drop]
    omega

/-- `ddd00.0` -/
theorem unsigned?_large
    (negative : Bool)
    (magnitude : Decimal)
    (zeros : Nat)
    (scale : magnitude.exponent = zeros) :
    unsigned? negative (natText magnitude.mantissa ++
      List.replicate zeros (point '0') ++ [point '.', point '0']) =
      some (.float (.finite negative magnitude)) := by
  have whole : Whole (natText magnitude.mantissa ++
      List.replicate zeros (point '0')) := by
    refine ⟨digits_append (digits_natText _) (digits_zeros _),
      by simp [natText_ne_nil], ?_⟩
    intro zero
    rw [List.head?_append_of_ne_nil _ (natText_ne_nil _)] at zero
    have isZero : magnitude.mantissa = 0 := by
      by_contra nonzero
      exact natText_head_ne_zero nonzero zero
    have exponentZero : magnitude.exponent = 0 := by
      rcases magnitude.shortest with canonical | ⟨_, exponentZero⟩
      · exact absurd (by rw [isZero]) canonical
      · exact exponentZero
    have noZeros : zeros = 0 := by omega
    simp [isZero, noZeros, natText_zero]
  have fraction := fraction?_append [] (digits_natText 0)
    (natText_ne_nil 0) (by simp)
  have read := unsigned?_append negative whole
    (by simp; rfl) fraction rfl
  rw [List.append_nil, natText_zero] at read
  rw [read]
  apply assemble?_float negative (zeros + 1) (Or.inl rfl)
  · simp only [Option.getD_some, digitsValue_append, digitsValue_zeros,
      digitsValue_natText, List.length_replicate, pow_succ]
    simp [digitsValue, point, PyStr.codePoint]
    ring
  · simp only [Option.getD_some, Option.getD_none, List.length_singleton]
    push_cast
    omega

/-- `d.ddde+xx` -/
theorem unsigned?_scientific
    (negative : Bool)
    (magnitude : Decimal)
    (exponent : Int)
    (scale : ((natText magnitude.mantissa).length : Int) +
      magnitude.exponent - 1 = exponent) :
    unsigned? negative ((natText magnitude.mantissa).take 1 ++
      ((if (natText magnitude.mantissa).tail.isEmpty then []
        else point '.' :: (natText magnitude.mantissa).tail) ++
        exponentText exponent)) =
      some (.float (.finite negative magnitude)) := by
  have areDigits := digits_natText magnitude.mantissa
  have tailDigits : Digits (natText magnitude.mantissa).tail :=
    fun char member => areDigits char (List.mem_of_mem_tail member)
  have whole := whole_take magnitude.mantissa 1 (Nat.succ_pos 0)
  have joined : (natText magnitude.mantissa).take 1 ++
      (natText magnitude.mantissa).tail = natText magnitude.mantissa := by
    simpa using List.take_append_drop 1 (natText magnitude.mantissa)
  have tailLength := List.length_tail (l := natText magnitude.mantissa)
  have positiveLength :=
    List.length_pos_iff.mpr (natText_ne_nil magnitude.mantissa)
  split
  · next noFraction =>
    have noFraction := List.isEmpty_iff.mp noFraction
    have fraction : fraction? (exponentText exponent) =
        some (none, exponentText exponent) := rfl
    have read := unsigned?_append negative whole (exponentText_head exponent)
      fraction (exponent?_exponentText exponent)
    rw [List.nil_append, read]
    rw [noFraction, List.append_nil] at joined
    apply assemble?_float negative 0 (Or.inr rfl)
    · simp [joined]
    · simp only [noFraction, List.length_nil] at tailLength
      simp only [Option.getD_none, Option.getD_some, List.length_nil]
      omega
  · next hasFraction =>
    have hasFraction : (natText magnitude.mantissa).tail ≠ [] := by
      simpa using hasFraction
    have fraction := fraction?_append (exponentText exponent) tailDigits
      hasFraction (exponentText_head exponent)
    have read := unsigned?_append negative whole
      (by simp; rfl) fraction (exponent?_exponentText exponent)
    rw [List.cons_append, read]
    apply assemble?_float negative 0 (Or.inr rfl)
    · simp [joined]
    · simp only [Option.getD_some, tailLength]
      omega

/-- Both layouts of a float are read back as the float. -/
theorem unsigned?_decimalText
    (negative : Bool)
    (magnitude : Decimal) :
    unsigned? negative (decimalText magnitude) =
      some (.float (.finite negative magnitude)) := by
  unfold decimalText
  simp only
  split
  · next positional =>
    split
    · next small =>
      exact unsigned?_small negative magnitude _ (by omega)
    · next notSmall =>
      split
      · next inside =>
        exact unsigned?_inside negative magnitude _
          (by omega) (by omega) (by omega)
      · next large =>
        exact unsigned?_large negative magnitude _ (by omega)
  · next scientific =>
    rw [List.append_assoc]
    exact unsigned?_scientific negative magnitude _ rfl

end Lexemes

end Maze.Python.Json
