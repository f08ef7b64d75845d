import Maze.Core.Resources
import Maze.Python.DoubleExact

namespace Maze.Core.Resources

open Maze.Python

/-!
# Amounts that come from a `float`

Every amount of a task was converted to a `float` once, and so an amount that is converted
again is found unchanged. A margin on an amount is a `float` as well, unless it leaves the
range.
-/

theorem representable_positiveInt (value : PyVal) :
    Double.Representable (positiveInt value) := by
  unfold positiveInt
  split
  · next converted => exact Number.representable_of_intOfFloat converted
  · exact_mod_cast Double.Representable.zero

theorem Representable_max
    {first second : ℕ}
    (one : Double.Representable first)
    (other : Double.Representable second) :
    Double.Representable (max first second : ℕ) := by
  rcases max_choice first second with left | right
  · rw [left]
    exact one
  · rw [right]
    exact other

/-- A number that is a double is read back. -/
theorem positiveInt_of_representable
    {number : ℕ}
    (double : Double.Representable number) :
    positiveInt (.int number) = number := by
  rw [positiveInt, Number.intOfFloat_of_representable double]
  rfl

/-- A number within the range of a `float` is read as the double next to it. -/
theorem positiveInt_of_fits
    {number : ℕ}
    (fits : (number : ℚ) < Double.overflowBound) :
    ∃ value, Double.round number = .finite value ∧
      positiveInt (.int number) = ⌊value⌋.toNat := by
  have nonneg : (0 : ℚ) ≤ number := Nat.cast_nonneg number
  obtain ⟨value, rounded⟩ := (Double.round_eq_finite_iff nonneg).mpr fits
  have valueNonneg := Double.nonneg_of_round nonneg rounded
  refine ⟨value, rounded, ?_⟩
  have converted : Number.intOfFloat (.int number) = .ok ⌊value⌋ := by
    simp [Number.intOfFloat, Number.float, Double.ofInt, rounded, Double.trunc, bind, Except.bind,
      not_lt.mpr valueNonneg]
  rw [positiveInt, converted]

/-- A larger number is read as no less, if it is within the range of a `float`. -/
theorem positiveInt_mono
    {first second : ℕ}
    (le : first ≤ second)
    (fits : (second : ℚ) < Double.overflowBound) :
    positiveInt (.int first) ≤ positiveInt (.int second) := by
  rcases Nat.eq_zero_or_pos first with rfl | positive
  · have zero : positiveInt (.int (0 : ℕ)) = 0 :=
      positiveInt_of_representable (by exact_mod_cast Double.Representable.zero)
    rw [zero]
    exact Nat.zero_le _
  · have cast : (first : ℚ) ≤ second := Nat.cast_le.mpr le
    have one : (1 : ℚ) ≤ first := by exact_mod_cast positive
    have small : (2 : ℚ) ^ (-20 : ℤ) ≤ first :=
      (zpow_le_one_of_nonpos₀ (by norm_num) (by norm_num)).trans one
    obtain ⟨value, rounded, same⟩ := positiveInt_of_fits (cast.trans_lt fits)
    obtain ⟨other, otherRounded, otherSame⟩ := positiveInt_of_fits fits
    rw [same, otherSame]
    exact Int.toNat_le_toNat (Int.floor_mono (Double.round_mono small cast rounded otherRounded))

theorem intValue_of_representable
    {number : ℕ}
    (double : Double.Representable number)
    (default : ℤ) :
    intValue (.int number) default = .ok (number : ℤ) := by
  rw [intValue, Number.intOfFloat_of_representable double]

/-- A positive amount with its margin is at least one MiB, and it is a double. -/
theorem ceilMib_spec
    {bytes mib : ℕ}
    {margin : ℚ}
    (wide : 1 ≤ margin)
    (converted : ceilMib bytes margin = .ok mib) :
    Double.Representable mib ∧ (bytes ≠ 0 → mib ≠ 0) := by
  simp only [ceilMib, bind_eq_ok] at converted
  obtain ⟨double, floated, ceiling, ceiled, same⟩ := converted
  obtain rfl := Except.ok.inj same
  unfold Double.ofInt at floated
  split at floated
  · next value rounded =>
    cases floated
    have nonneg : 0 ≤ value := Double.nonneg_of_round (by positivity) rounded
    cases scaled : Double.round (value * margin) with
    | nan | infinity => simp [Double.mul, scaled, Double.ceil] at ceiled
    | finite product =>
        have nonneg' : 0 ≤ product := Double.nonneg_of_round (by positivity) scaled
        cases divided : Double.round (product * (1 / 2 ^ 20)) with
        | nan | infinity =>
            simp only [Double.mul, scaled, divided, Double.ceil, reduceCtorEq] at ceiled
        | finite quotient =>
            simp only [Double.mul, scaled, divided, Double.ceil, Except.ok.injEq] at ceiled
            subst ceiled
            have nonneg'' : 0 ≤ quotient := Double.nonneg_of_round (by positivity) divided
            have ceilNonneg : 0 ≤ ⌈quotient⌉ := Int.ceil_nonneg nonneg''
            refine ⟨(Double.representable_of_round divided nonneg'').between
              (.inr (Int.toNat_of_nonneg ceilNonneg)), fun given => ?_⟩
            have one : (1 : ℚ) ≤ ((bytes : ℤ) : ℚ) := by
              exact_mod_cast Nat.one_le_iff_ne_zero.mpr given
            have first : 1 ≤ value := Double.one_le_of_round one rounded
            have second : 1 ≤ product :=
              Double.one_le_of_round (by nlinarith) scaled
            have third : (2 : ℚ) ^ (-20 : ℤ) ≤ product * (1 / 2 ^ 20) := by
              have power : (2 : ℚ) ^ (-20 : ℤ) = 1 / 2 ^ 20 := by norm_num
              rw [power]
              nlinarith
            have positive : 0 < quotient :=
              lt_of_lt_of_le (by positivity) (Double.zpow_log_le_of_round third divided)
            have := Int.ceil_pos.mpr positive
            omega
  · cases floated

/-- The margin on an amount is found, or it leaves the range of a `float`. -/
theorem ceilMib_total
    {bytes : ℕ}
    {margin : ℚ}
    (double : Double.Representable bytes)
    (wide : 1 ≤ margin) :
    (bytes * margin < Double.overflowBound → ∃ mib, ceilMib bytes margin = .ok mib) ∧
      (¬bytes * margin < Double.overflowBound →
        ceilMib bytes margin = .error .overflowError) := by
  have nonneg : (0 : ℚ) ≤ bytes * margin := by positivity
  have product := Double.round_eq_finite_iff nonneg
  have converted : ceilMib bytes margin = (do
      let mib ← ((Double.round (bytes * margin)).mul (1 / 2 ^ 20)).ceil
      .ok mib.toNat) := by
    rw [ceilMib, Double.ofInt_of_representable double]
    rfl
  rw [converted]
  constructor
  · intro fits
    obtain ⟨value, rounded⟩ := product.mpr fits
    have valueNonneg := Double.nonneg_of_round nonneg rounded
    have small : value < Double.overflowBound := by
      exact (Double.round_eq_finite_iff valueNonneg).mp
        ⟨value, Double.round_of_representable
          (Double.representable_of_round rounded valueNonneg)⟩
    have scaledNonneg : 0 ≤ value * (1 / 2 ^ 20) := by positivity
    obtain ⟨quotient, scaled⟩ := (Double.round_eq_finite_iff scaledNonneg).mpr
      (lt_of_le_of_lt (by nlinarith) small)
    rw [rounded, Double.mul, scaled]
    exact ⟨_, rfl⟩
  · intro large
    cases rounded : Double.round (bytes * margin) with
    | nan => exact absurd rounded (Double.round_ne_nan _)
    | infinity => rfl
    | finite value => exact absurd (product.mp ⟨value, rounded⟩) large

/-- The steps by which the margin on an amount is found. -/
theorem ceilMib_eq_ok
    {bytes mib : ℕ}
    {margin : ℚ}
    (double : Double.Representable bytes)
    (converted : ceilMib bytes margin = .ok mib) :
    ∃ product quotient, Double.round (bytes * margin) = .finite product ∧
      Double.round (product * (1 / 2 ^ 20)) = .finite quotient ∧ mib = ⌈quotient⌉.toNat := by
  simp only [ceilMib, Double.ofInt_of_representable double, bind_eq_ok, Except.ok.injEq,
    exists_eq_left'] at converted
  obtain ⟨ceiling, ceiled, same⟩ := converted
  cases scaled : Double.round (bytes * margin) with
  | nan | infinity => simp [Double.mul, scaled, Double.ceil] at ceiled
  | finite product =>
      cases divided : Double.round (product * (1 / 2 ^ 20)) with
      | nan | infinity =>
          simp only [Double.mul, scaled, divided, Double.ceil, reduceCtorEq] at ceiled
      | finite quotient =>
          simp only [Double.mul, scaled, divided, Double.ceil, Except.ok.injEq] at ceiled
          exact ⟨product, quotient, rfl, divided, by rw [← same, ← ceiled]⟩

/-- A larger amount has a larger margin. -/
theorem ceilMib_mono
    {bytes more mib moreMib : ℕ}
    {margin : ℚ}
    (wide : 1 ≤ margin)
    (double : Double.Representable bytes)
    (otherDouble : Double.Representable more)
    (le : bytes ≤ more)
    (converted : ceilMib bytes margin = .ok mib)
    (otherConverted : ceilMib more margin = .ok moreMib) :
    mib ≤ moreMib := by
  obtain ⟨product, quotient, scaled, divided, rfl⟩ := ceilMib_eq_ok double converted
  obtain ⟨other, otherQuotient, otherScaled, otherDivided, rfl⟩ :=
    ceilMib_eq_ok otherDouble otherConverted
  rcases Nat.eq_zero_or_pos bytes with rfl | positive
  · rw [Nat.cast_zero, zero_mul, Double.round_zero, Double.finite.injEq] at scaled
    subst scaled
    rw [zero_mul, Double.round_zero, Double.finite.injEq] at divided
    subst divided
    simp
  · have one : (1 : ℚ) ≤ bytes := by exact_mod_cast positive
    have power : (2 : ℚ) ^ (-20 : ℤ) = 1 / 2 ^ 20 := by norm_num
    have first : (1 : ℚ) ≤ bytes * margin := by nlinarith
    have cast : (bytes : ℚ) ≤ more := by exact_mod_cast le
    have products : product ≤ other :=
      Double.round_mono (by rw [power]; linarith)
        (mul_le_mul_of_nonneg_right cast (by linarith)) scaled otherScaled
    have productOne : 1 ≤ product := Double.one_le_of_round first scaled
    have quotients : quotient ≤ otherQuotient :=
      Double.round_mono (by rw [power]; nlinarith)
        (mul_le_mul_of_nonneg_right products (by positivity)) divided otherDivided
    exact Int.toNat_le_toNat (Int.ceil_mono quotients)

/-- Up to 64 TiB nothing of the margin on a peak is lost by rounding. -/
theorem peak_le_ceilMib
    {bytes mib : ℕ}
    (small : bytes ≤ 2 ^ 46)
    (converted : ceilMib bytes peakMargin = .ok mib) :
    (bytes * 115 : ℚ) / 100 ≤ mib * 2 ^ 20 := by
  have double : Double.Representable bytes :=
    Double.representable_of_le (small.trans (by norm_num))
  obtain ⟨product, quotient, scaled, divided, same⟩ := ceilMib_eq_ok double converted
  by_contra more
  push Not at more
  have whole : 20 * (mib * 2 ^ 20) + 1 ≤ 23 * bytes := by
    have cast : ((20 * (mib * 2 ^ 20) : ℕ) : ℚ) < (23 * bytes : ℕ) := by
      push_cast
      linarith
    exact Nat.succ_le_of_lt (by exact_mod_cast cast)
  have given : bytes ≠ 0 := by omega
  have positive : 1 ≤ mib := Nat.one_le_iff_ne_zero.mpr
    ((ceilMib_spec (by norm_num [peakMargin]) converted).2 given)
  -- the doubles that lie a little above the amount
  have above : ∀ exponent : ℤ, -1074 ≤ exponent → exponent ≤ 0 →
      Double.Representable ((mib * 2 ^ 25 + 1 : ℕ) * 2 ^ exponent) := by
    intro exponent least most
    refine ⟨mib * 2 ^ 25 + 1, exponent, by omega, least, rfl, ?_⟩
    have bound : ((mib * 2 ^ 25 + 1 : ℕ) : ℚ) ≤ 2 ^ 53 := by
      have : mib * 2 ^ 25 + 1 ≤ 2 ^ 53 := by omega
      exact_mod_cast this
    have power : (2 : ℚ) ^ exponent ≤ 1 := zpow_le_one_of_nonpos₀ (by norm_num) most
    have large : (2 : ℚ) ^ 53 < 2 ^ 1024 := pow_lt_pow_right₀ (by norm_num) (by norm_num)
    exact (mul_le_of_le_one_right (Nat.cast_nonneg _) power).trans_lt (bound.trans_lt large)
  have amount : (1 : ℚ) ≤ mib := by exact_mod_cast positive
  have fifth : (2 : ℚ) ^ (-5 : ℤ) = 1 / 2 ^ 5 := by norm_num
  have twentyFifth : (2 : ℚ) ^ (-25 : ℤ) = 1 / 2 ^ 25 := by norm_num
  have twentieth : (2 : ℚ) ^ (-20 : ℤ) = 1 / 2 ^ 20 := by norm_num
  have gap : ((mib * 2 ^ 25 + 1 : ℕ) : ℚ) * 2 ^ (-5 : ℤ) ≤ bytes * peakMargin := by
    have cast : (20 * (mib * 2 ^ 20) + 1 : ℚ) ≤ 23 * bytes := by exact_mod_cast whole
    have few : (bytes : ℚ) ≤ 2 ^ 46 := by exact_mod_cast small
    rw [fifth, peakMargin]
    push_cast
    linarith
  have first := Double.round_mono (by rw [fifth, twentieth]; push_cast; linarith) gap
    (Double.round_of_representable (above (-5) (by norm_num) (by norm_num))) scaled
  have second := Double.round_mono
    (by rw [twentyFifth, twentieth]; push_cast; linarith)
    (show ((mib * 2 ^ 25 + 1 : ℕ) : ℚ) * 2 ^ (-25 : ℤ) ≤ product * (1 / 2 ^ 20) by
      rw [fifth] at first
      rw [twentyFifth]
      linarith)
    (Double.round_of_representable (above (-25) (by norm_num) (by norm_num))) divided
  have beyond : (mib : ℚ) < quotient := by
    rw [twentyFifth] at second
    push_cast at second
    linarith
  have ceiled : (mib : ℤ) < ⌈quotient⌉ := by
    rw [Int.lt_ceil]
    exact_mod_cast beyond
  omega

theorem representable_modelMemoryMib
    {anchor : PyDict}
    {estimate : ℕ}
    (estimated : modelMemoryMib anchor = .ok estimate) :
    Double.Representable estimate := by
  simp only [modelMemoryMib, bind_eq_ok] at estimated
  obtain ⟨weight, converted, same⟩ := estimated
  obtain rfl := Except.ok.inj same
  have margin : (1 : ℚ) ≤ weightMargin := by norm_num [weightMargin]
  exact Representable_max
    (Representable_max (representable_positiveInt _) (representable_positiveInt _))
    (Representable_max
      (Representable_max (representable_positiveInt _) (representable_positiveInt _))
      (ceilMib_spec margin converted).1)

theorem ceilMib_zero : ceilMib 0 peakMargin = .ok 0 := by
  decide +kernel

theorem positiveInt_zero : positiveInt (.int 0) = 0 := by
  decide +kernel

end Maze.Core.Resources
