import Mathlib.Algebra.Order.Field.Power
import Mathlib.Tactic.Linarith
import Mathlib.Tactic.Positivity
import Mathlib.Tactic.Ring
import Maze.Python.Number

namespace Maze.Python.Double

/-!
# Numbers that are doubles

A nonnegative double is a mantissa of at most 53 bits times a power of two. Such numbers
are fixed by rounding, and what rounding returns is such a number. An `int` that came from
a `float` is therefore converted back without loss.
-/

/-- The nonnegative number is a double. -/
def Representable (value : ℚ) : Prop :=
  ∃ (mantissa : ℕ) (exponent : ℤ), mantissa ≤ 2 ^ 53 ∧ -1074 ≤ exponent ∧
    value = mantissa * 2 ^ exponent ∧ value < 2 ^ 1024

theorem Representable.zero : Representable 0 :=
  ⟨0, 0, Nat.zero_le _, by omega, by simp, by positivity⟩

theorem Representable.nonneg
    {value : ℚ}
    (double : Representable value) :
    0 ≤ value := by
  obtain ⟨mantissa, exponent, -, -, rfl, -⟩ := double
  positivity

/-- Integers are not changed by rounding. -/
theorem roundHalfEven_intCast (number : ℤ) :
    roundHalfEven (number : ℚ) = number := by
  simp [roundHalfEven]

theorem roundHalfEven_bounds (number : ℚ) :
    ⌊number⌋ ≤ roundHalfEven number ∧ roundHalfEven number ≤ ⌊number⌋ + 1 := by
  unfold roundHalfEven
  dsimp only
  split
  · omega
  · split
    · omega
    · split <;> omega

/-- The spacing below a number of at most 53 bits divides it. -/
theorem spacing_le
    {mantissa : ℕ}
    {exponent : ℤ}
    (positive : mantissa ≠ 0)
    (small : mantissa ≤ 2 ^ 53)
    (least : -1074 ≤ exponent) :
    ∃ multiple : ℕ,
      (mantissa : ℚ) * 2 ^ exponent = multiple * spacing (mantissa * 2 ^ exponent) := by
  have here : (0 : ℚ) < mantissa * 2 ^ exponent := by
    have := Nat.pos_of_ne_zero positive
    positivity
  rcases Nat.lt_or_eq_of_le small with below | equal
  · have logBound : Int.log 2 ((mantissa : ℚ) * 2 ^ exponent) < exponent + 53 := by
      have bound : (mantissa : ℚ) * 2 ^ exponent < ((2 : ℕ) : ℚ) ^ (exponent + 53) := by
        have cast : (mantissa : ℚ) < 2 ^ (53 : ℕ) := by exact_mod_cast below
        rw [Nat.cast_ofNat, zpow_add₀ (by norm_num), mul_comm]
        exact (mul_lt_mul_iff_right₀ (by positivity)).mpr cast
      exact (Int.lt_zpow_iff_log_lt (by norm_num) here).mp bound
    let unit := max (Int.log 2 ((mantissa : ℚ) * 2 ^ exponent) - 52) (-1074)
    have unitLe : unit ≤ exponent := by omega
    refine ⟨mantissa * 2 ^ (exponent - unit).toNat, ?_⟩
    have split : (2 : ℚ) ^ exponent = 2 ^ (exponent - unit).toNat * 2 ^ unit := by
      rw [← zpow_natCast, Int.toNat_of_nonneg (by omega), ← zpow_add₀ (by norm_num)]
      congr 1
      omega
    change (mantissa : ℚ) * 2 ^ exponent = _ * 2 ^ unit
    rw [split]
    push_cast
    ring
  · have power : (mantissa : ℚ) * 2 ^ exponent = ((2 : ℕ) : ℚ) ^ (exponent + 53) := by
      rw [equal, Nat.cast_ofNat, zpow_add₀ (by norm_num)]
      push_cast
      ring
    have logIs : Int.log 2 ((mantissa : ℚ) * 2 ^ exponent) = exponent + 53 := by
      rw [power]
      exact Int.log_zpow (by norm_num) _
    refine ⟨2 ^ 52, ?_⟩
    have unitIs : spacing ((mantissa : ℚ) * 2 ^ exponent) = 2 ^ (exponent + 1) := by
      rw [spacing, logIs]
      congr 1
      omega
    rw [unitIs, power, Nat.cast_ofNat, zpow_add₀ (by norm_num), zpow_add₀ (by norm_num)]
    norm_num
    ring

/-- A double is not changed by rounding. -/
theorem round_of_representable
    {value : ℚ}
    (double : Representable value) :
    round value = .finite value := by
  have nonneg := double.nonneg
  obtain ⟨mantissa, exponent, small, least, rfl, finite⟩ := double
  by_cases zero : mantissa = 0
  · simp [zero]
  · have positive : (0 : ℚ) < mantissa * 2 ^ exponent := by
      have := Nat.pos_of_ne_zero zero
      positivity
    obtain ⟨multiple, divides⟩ := spacing_le zero small least
    have unit : (0 : ℚ) < spacing (mantissa * 2 ^ exponent) := by
      unfold spacing
      positivity
    have quotient : (mantissa : ℚ) * 2 ^ exponent / spacing (mantissa * 2 ^ exponent) =
        ((multiple : ℤ) : ℚ) := by
      rw [div_eq_iff unit.ne']
      exact_mod_cast divides
    unfold round
    rw [if_neg positive.ne', abs_of_pos positive]
    simp only [quotient, roundHalfEven_intCast]
    have whole : ((multiple : ℤ) : ℚ) * spacing (mantissa * 2 ^ exponent) =
        mantissa * 2 ^ exponent := by
      exact_mod_cast divides.symm
    rw [whole, if_pos finite, if_neg (not_lt.mpr nonneg)]

/-- Rounding to half even stays below a power of two that is below the number's own. -/
theorem round_spec
    {number value : ℚ}
    (positive : 0 < number)
    (rounded : round number = .finite value) :
    ∃ mantissa : ℕ, mantissa ≤ 2 ^ 53 ∧ value = mantissa * spacing number ∧
      value < 2 ^ 1024 ∧ ((-1022 : ℤ) ≤ Int.log 2 number → 2 ^ 52 ≤ mantissa) := by
  have unit : (0 : ℚ) < spacing number := by
    unfold spacing
    positivity
  have below : number / spacing number < 2 ^ 53 := by
    rw [div_lt_iff₀ unit]
    have log : number < ((2 : ℕ) : ℚ) ^ (Int.log 2 number + 1) :=
      Int.lt_zpow_succ_log_self (by norm_num) number
    refine lt_of_lt_of_le log ?_
    rw [Nat.cast_ofNat, spacing, ← zpow_natCast, ← zpow_add₀ (by norm_num)]
    exact zpow_le_zpow_right₀ (by norm_num) (by push_cast; omega)
  have quotient : 0 ≤ number / spacing number := by positivity
  obtain ⟨least, most⟩ := roundHalfEven_bounds (number / spacing number)
  have floorNonneg : 0 ≤ ⌊number / spacing number⌋ := Int.floor_nonneg.mpr quotient
  have floorBelow : ⌊number / spacing number⌋ < 2 ^ 53 := by
    rw [Int.floor_lt]
    exact_mod_cast below
  obtain ⟨mantissa, isNat⟩ := Int.eq_ofNat_of_zero_le (floorNonneg.trans least)
  unfold round at rounded
  rw [if_neg positive.ne', abs_of_pos positive] at rounded
  simp only [isNat, Int.cast_natCast] at rounded
  split at rounded
  · next finite =>
    rw [if_neg (not_lt.mpr positive.le), Double.finite.injEq] at rounded
    refine ⟨mantissa, by omega, rounded.symm, rounded ▸ finite, fun normal => ?_⟩
    have full : (2 ^ 52 : ℚ) ≤ number / spacing number := by
      rw [le_div_iff₀ unit]
      have log : ((2 : ℕ) : ℚ) ^ Int.log 2 number ≤ number :=
        Int.zpow_log_le_self (by norm_num) positive
      refine le_trans ?_ log
      rw [Nat.cast_ofNat, spacing, max_eq_left (by omega), ← zpow_natCast,
        ← zpow_add₀ (by norm_num)]
      exact zpow_le_zpow_right₀ (by norm_num) (by push_cast; omega)
    have floorFull : (2 ^ 52 : ℤ) ≤ ⌊number / spacing number⌋ := by
      rw [Int.le_floor]
      exact_mod_cast full
    omega
  · cases rounded

theorem round_ne_nan (number : ℚ) : round number ≠ .nan := by
  unfold round
  dsimp only
  split
  · exact fun same => by cases same
  · split <;> exact fun same => by cases same

/-- Rounding keeps the sign. -/
theorem nonpos_of_round
    {number value : ℚ}
    (negative : number < 0)
    (rounded : round number = .finite value) :
    value ≤ 0 := by
  have unit : (0 : ℚ) < spacing |number| := by
    unfold spacing
    positivity
  have quotient : 0 ≤ |number| / spacing |number| := by positivity
  have nonneg : 0 ≤ roundHalfEven (|number| / spacing |number|) :=
    (Int.floor_nonneg.mpr quotient).trans (roundHalfEven_bounds _).1
  unfold round at rounded
  rw [if_neg negative.ne] at rounded
  dsimp only at rounded
  split at rounded
  · rw [Double.finite.injEq] at rounded
    rw [← rounded, neg_nonpos]
    have cast : (0 : ℚ) ≤ roundHalfEven (|number| / spacing |number|) := by
      exact_mod_cast nonneg
    exact mul_nonneg cast unit.le
  · cases rounded

/-- What rounding returns is a double. -/
theorem representable_of_round
    {number value : ℚ}
    (rounded : round number = .finite value)
    (nonneg : 0 ≤ value) :
    Representable value := by
  rcases lt_trichotomy number 0 with negative | rfl | positive
  · have zero : value = 0 := le_antisymm (nonpos_of_round negative rounded) nonneg
    exact zero ▸ .zero
  · rw [round_zero, Double.finite.injEq] at rounded
    exact rounded ▸ .zero
  · obtain ⟨mantissa, small, rfl, finite, _⟩ := round_spec positive rounded
    exact ⟨mantissa, max (Int.log 2 number - 52) (-1074), small, le_max_right _ _, rfl,
      finite⟩

/-- Rounding does not fall below the power of two at which a number starts. -/
theorem zpow_log_le_of_round
    {number value : ℚ}
    (large : (2 : ℚ) ^ (-20 : ℤ) ≤ number)
    (rounded : round number = .finite value) :
    (2 : ℚ) ^ (Int.log 2 number) ≤ value := by
  have positive : 0 < number := lt_of_lt_of_le (by positivity) large
  have normal : (-20 : ℤ) ≤ Int.log 2 number := by
    have bound : ((2 : ℕ) : ℚ) ^ (-20 : ℤ) ≤ number := by exact_mod_cast large
    exact (Int.zpow_le_iff_le_log (by norm_num) positive).mp bound
  obtain ⟨mantissa, _, rfl, _, full⟩ := round_spec positive rounded
  have many : ((2 ^ 52 : ℕ) : ℚ) ≤ mantissa := by exact_mod_cast full (by omega)
  have unit : (0 : ℚ) < spacing number := by
    unfold spacing
    positivity
  refine le_trans ?_ (mul_le_mul_of_nonneg_right many unit.le)
  rw [spacing, max_eq_left (by omega), Nat.cast_pow, Nat.cast_ofNat, ← zpow_natCast,
    ← zpow_add₀ (by norm_num)]
  exact zpow_le_zpow_right₀ (by norm_num) (by push_cast; omega)

theorem nonneg_of_round
    {number value : ℚ}
    (nonneg : 0 ≤ number)
    (rounded : round number = .finite value) :
    0 ≤ value := by
  rcases nonneg.eq_or_lt with rfl | positive
  · rw [round_zero, Double.finite.injEq] at rounded
    exact rounded.le
  · obtain ⟨mantissa, _, rfl, _⟩ := round_spec positive rounded
    have unit : (0 : ℚ) < spacing number := by
      unfold spacing
      positivity
    exact mul_nonneg (Nat.cast_nonneg mantissa) unit.le

/-- A number of at least one is rounded to such a number. -/
theorem one_le_of_round
    {number value : ℚ}
    (large : 1 ≤ number)
    (rounded : round number = .finite value) :
    1 ≤ value := by
  have power : (2 : ℚ) ^ (-20 : ℤ) ≤ 1 :=
    zpow_le_one_of_nonpos₀ (by norm_num) (by norm_num)
  have log : 0 ≤ Int.log 2 number := by
    have bound : ((2 : ℕ) : ℚ) ^ (0 : ℤ) ≤ number := by simpa using large
    exact (Int.zpow_le_iff_le_log (by norm_num) (by linarith)).mp bound
  exact (one_le_zpow₀ (by norm_num) log).trans
    (zpow_log_le_of_round (power.trans large) rounded)

/-- Rounding half to even does not turn the order of two numbers around. -/
theorem roundHalfEven_mono
    {first second : ℚ}
    (le : first ≤ second) :
    roundHalfEven first ≤ roundHalfEven second := by
  rcases (Int.floor_mono le).lt_or_eq with below | same
  · have most := (roundHalfEven_bounds first).2
    have least := (roundHalfEven_bounds second).1
    omega
  · unfold roundHalfEven
    dsimp only
    rw [same]
    split_ifs <;> first | omega | linarith

/-- Rounding does not turn the order of two normal numbers around. -/
theorem round_mono
    {first second value other : ℚ}
    (large : (2 : ℚ) ^ (-20 : ℤ) ≤ first)
    (le : first ≤ second)
    (rounded : round first = .finite value)
    (otherRounded : round second = .finite other) :
    value ≤ other := by
  have positive : 0 < first := lt_of_lt_of_le (by positivity) large
  have unit : (0 : ℚ) < spacing first := by
    unfold spacing
    positivity
  rcases (Int.log_mono_right (b := 2) positive le).lt_or_eq with below | same
  · -- a power of two lies between the two
    have normal : (-20 : ℤ) ≤ Int.log 2 first := by
      have bound : ((2 : ℕ) : ℚ) ^ (-20 : ℤ) ≤ first := by exact_mod_cast large
      exact (Int.zpow_le_iff_le_log (by norm_num) positive).mp bound
    obtain ⟨mantissa, small, rfl, _, _⟩ := round_spec positive rounded
    have few : (mantissa : ℚ) ≤ 2 ^ 53 := by exact_mod_cast small
    calc (mantissa : ℚ) * spacing first ≤ 2 ^ 53 * spacing first :=
          mul_le_mul_of_nonneg_right few unit.le
      _ = (2 : ℚ) ^ (Int.log 2 first + 1) := by
          rw [spacing, max_eq_left (by omega), ← zpow_natCast, ← zpow_add₀ (by norm_num)]
          congr 1
          push_cast
          omega
      _ ≤ (2 : ℚ) ^ Int.log 2 second := zpow_le_zpow_right₀ (by norm_num) (by omega)
      _ ≤ other := zpow_log_le_of_round (large.trans le) otherRounded
  · have sameSpacing : spacing second = spacing first := by rw [spacing, spacing, same]
    have quotient : first / spacing first ≤ second / spacing first :=
      div_le_div_of_nonneg_right le unit.le
    have rounds : (roundHalfEven (first / spacing first) : ℚ) ≤
        roundHalfEven (second / spacing first) := by
      exact_mod_cast roundHalfEven_mono quotient
    have positive' : 0 < second := positive.trans_le le
    unfold round at rounded otherRounded
    rw [if_neg positive.ne', abs_of_pos positive] at rounded
    rw [if_neg positive'.ne', abs_of_pos positive', sameSpacing] at otherRounded
    dsimp only at rounded otherRounded
    rw [if_neg (not_lt.mpr positive.le)] at rounded
    rw [if_neg (not_lt.mpr positive'.le)] at otherRounded
    split at rounded
    · split at otherRounded
      · cases rounded
        cases otherRounded
        exact mul_le_mul_of_nonneg_right rounds unit.le
      · cases otherRounded
    · cases rounded

/-! ## Overflow -/

/-- The least number that is rounded to infinity. -/
def overflowBound : ℚ :=
  (2 : ℚ) ^ (1024 : ℤ) - 2 ^ (970 : ℤ)

/-- A number is rounded up to `2 ^ 53` from half below it on. -/
theorem roundHalfEven_lt_iff
    {number : ℚ}
    (below : number < 2 ^ 53) :
    roundHalfEven number < 2 ^ 53 ↔ number < 2 ^ 53 - 1 / 2 := by
  have floorBelow : ⌊number⌋ < 2 ^ 53 := by
    rw [Int.floor_lt]
    exact_mod_cast below
  have floorLe := Int.floor_le number
  have ltFloor := Int.lt_floor_add_one number
  rcases Int.lt_or_eq_of_le (Int.le_sub_one_of_lt floorBelow) with less | last
  · have bound : (⌊number⌋ : ℚ) ≤ 2 ^ 53 - 2 := by
      have whole : ⌊number⌋ ≤ 2 ^ 53 - 2 := by omega
      exact_mod_cast whole
    have upper := (roundHalfEven_bounds number).2
    refine ⟨fun _ => by linarith, fun _ => by omega⟩
  · have cast : (⌊number⌋ : ℚ) = 2 ^ 53 - 1 := by exact_mod_cast last
    unfold roundHalfEven
    dsimp only
    rw [cast]
    split
    · next small => exact ⟨fun _ => by linarith, fun _ => by omega⟩
    · next large =>
      have notSmall : ¬number < 2 ^ 53 - 1 / 2 := by linarith
      have odd : ¬⌊number⌋ % 2 = 0 := by omega
      split
      · exact ⟨fun finite => by omega, fun small => absurd small notSmall⟩
      · exact ⟨fun finite => by omega, fun small => absurd small notSmall⟩

/-- A number is rounded to a finite double exactly if it is below the bound. -/
theorem round_eq_finite_iff
    {number : ℚ}
    (nonneg : 0 ≤ number) :
    (∃ value, round number = .finite value) ↔ number < overflowBound := by
  obtain ⟨big, bigIs⟩ : ∃ big : ℚ, big = 2 ^ (970 : ℤ) := ⟨_, rfl⟩
  have bigPos : 0 < big := bigIs ▸ by positivity
  have power (exponent : ℤ) : (2 : ℚ) ^ (970 + exponent) = big * 2 ^ exponent := by
    rw [bigIs, ← zpow_add₀ (by norm_num)]
  have power971 : (2 : ℚ) ^ (971 : ℤ) = big * 2 := by
    rw [show (971 : ℤ) = 970 + 1 from rfl, power]
    norm_num
  have power1023 : (2 : ℚ) ^ (1023 : ℤ) = big * 2 ^ 53 := by
    rw [show (1023 : ℤ) = 970 + 53 from rfl, power]
    norm_num
  have power1024 : (2 : ℚ) ^ (1024 : ℤ) = big * 2 ^ 54 := by
    rw [show (1024 : ℤ) = 970 + 54 from rfl, power]
    norm_num
  have limit : (2 : ℚ) ^ (1024 : ℕ) = big * 2 ^ 54 := by
    rw [← power1024, ← zpow_natCast]
    rfl
  rw [overflowBound, power1024, ← bigIs]
  rcases nonneg.eq_or_lt with rfl | positive
  · have bound : 0 < big * 2 ^ 54 - big := by
      have whole : big * 2 ^ 54 - big = big * (2 ^ 54 - 1) := by ring
      rw [whole]
      exact mul_pos bigPos (by norm_num)
    exact ⟨fun _ => bound, fun _ => ⟨0, round_zero⟩⟩
  have unit : (0 : ℚ) < spacing number := by
    unfold spacing
    positivity
  have finite_iff : (∃ value, round number = .finite value) ↔
      (roundHalfEven (number / spacing number) : ℚ) * spacing number < big * 2 ^ 54 := by
    rw [← limit]
    unfold round
    rw [if_neg positive.ne', abs_of_pos positive]
    dsimp only
    split
    · next below => exact ⟨fun _ => below, fun _ => ⟨_, rfl⟩⟩
    · next above =>
      refine ⟨?_, fun below => absurd below above⟩
      rintro ⟨_, infinite⟩
      cases infinite
  rw [finite_iff]
  have logLe : ((2 : ℕ) : ℚ) ^ Int.log 2 number ≤ number :=
    Int.zpow_log_le_self (by norm_num) positive
  have ltLog : number < ((2 : ℕ) : ℚ) ^ (Int.log 2 number + 1) :=
    Int.lt_zpow_succ_log_self (by norm_num) number
  rw [Nat.cast_ofNat] at logLe ltLog
  obtain ⟨least, most⟩ := roundHalfEven_bounds (number / spacing number)
  have floorLe : (⌊number / spacing number⌋ : ℚ) * spacing number ≤ number := by
    have := Int.floor_le (number / spacing number)
    rwa [le_div_iff₀ unit] at this
  have roundLe : (roundHalfEven (number / spacing number) : ℚ) ≤
      ⌊number / spacing number⌋ + 1 := by exact_mod_cast most
  have leRound : (⌊number / spacing number⌋ : ℚ) ≤
      roundHalfEven (number / spacing number) := by exact_mod_cast least
  rcases lt_trichotomy (Int.log 2 number) 1023 with small | top | large
  · -- The next double above is still in the range.
    have unitLe : spacing number ≤ big := by
      rw [spacing, bigIs]
      exact zpow_le_zpow_right₀ (by norm_num) (by omega)
    have numberLt : number < big * 2 ^ 53 := by
      rw [← power1023]
      exact lt_of_lt_of_le ltLog (zpow_le_zpow_right₀ (by norm_num) (by omega))
    have product : (roundHalfEven (number / spacing number) : ℚ) * spacing number ≤
        number + spacing number := by nlinarith
    exact ⟨fun _ => by linarith only [numberLt, bigPos],
      fun _ => by linarith only [product, unitLe, numberLt, bigPos]⟩
  · have unitIs : spacing number = big * 2 := by
      rw [spacing, top, ← power971]
      rfl
    have below : number / spacing number < 2 ^ 53 := by
      rw [div_lt_iff₀ unit, unitIs]
      rw [top, show (1023 : ℤ) + 1 = 1024 from rfl, power1024] at ltLog
      linarith
    have rounded := roundHalfEven_lt_iff below
    have cast : (roundHalfEven (number / spacing number) : ℚ) * spacing number <
        big * 2 ^ 54 ↔ roundHalfEven (number / spacing number) < 2 ^ 53 := by
      have whole : big * 2 ^ 54 = ((2 ^ 53 : ℤ) : ℚ) * (big * 2) := by
        push_cast
        ring
      rw [whole, unitIs, ← Int.cast_lt (R := ℚ)]
      have twice : 0 < big * 2 := mul_pos bigPos two_pos
      exact ⟨fun less => lt_of_mul_lt_mul_right less twice.le,
        fun less => mul_lt_mul_of_pos_right less twice⟩
    rw [cast, rounded, div_lt_iff₀ unit, unitIs]
    exact ⟨fun less => by linarith only [less], fun less => by linarith only [less]⟩
  · -- Rounding does not fall below the power of two.
    have numberGe : big * 2 ^ 54 ≤ number := by
      rw [← power1024]
      exact le_trans (zpow_le_zpow_right₀ (by norm_num) (by omega)) logLe
    have unitGe : spacing number = 2 ^ (Int.log 2 number - 52) := by
      rw [spacing, max_eq_left (by omega)]
    have full : (2 ^ 52 : ℚ) ≤ number / spacing number := by
      rw [le_div_iff₀ unit, unitGe, ← zpow_natCast, ← zpow_add₀ (by norm_num)]
      exact le_trans (zpow_le_zpow_right₀ (by norm_num) (by push_cast; omega)) logLe
    have floorFull : (2 ^ 52 : ℚ) ≤ ⌊number / spacing number⌋ := by
      have whole : (2 ^ 52 : ℤ) ≤ ⌊number / spacing number⌋ := by
        rw [Int.le_floor]
        exact_mod_cast full
      exact_mod_cast whole
    have start : big * 2 ^ 54 ≤ 2 ^ 52 * spacing number := by
      rw [← power1024, unitGe, ← zpow_natCast, ← zpow_add₀ (by norm_num)]
      exact zpow_le_zpow_right₀ (by norm_num) (by push_cast; omega)
    have product : 2 ^ 52 * spacing number ≤
        (roundHalfEven (number / spacing number) : ℚ) * spacing number :=
      mul_le_mul_of_nonneg_right (floorFull.trans leRound) unit.le
    exact ⟨fun less => by linarith only [less, start, product],
      fun less => by linarith only [less, numberGe, bigPos]⟩

/-! ## Integers -/

/-- An integer of at most 53 bits is a double. -/
theorem representable_of_le
    {number : ℕ}
    (small : number ≤ 2 ^ 53) :
    Representable number := by
  refine ⟨number, 0, small, by omega, by simp, ?_⟩
  have bound : (number : ℚ) ≤ 2 ^ 53 := by exact_mod_cast small
  refine lt_of_le_of_lt bound ?_
  exact pow_lt_pow_right₀ (by norm_num) (by norm_num)

/-- The integers next to a double are doubles. -/
theorem Representable.between
    {value : ℚ}
    {number : ℕ}
    (double : Representable value)
    (close : (number : ℤ) = ⌊value⌋ ∨ (number : ℤ) = ⌈value⌉) :
    Representable number := by
  obtain ⟨mantissa, exponent, small, least, rfl, finite⟩ := double
  rcases le_or_gt 0 exponent with whole | fraction
  · have isNat : (mantissa : ℚ) * 2 ^ exponent =
        (((mantissa * 2 ^ exponent.toNat : ℕ) : ℤ) : ℚ) := by
      push_cast
      rw [← zpow_natCast, Int.toNat_of_nonneg whole]
    have same : (number : ℚ) = mantissa * 2 ^ exponent := by
      rw [isNat, Int.floor_intCast, Int.ceil_intCast, or_self] at close
      rw [isNat]
      exact_mod_cast close
    rw [same]
    exact ⟨mantissa, exponent, small, least, rfl, finite⟩
  · apply representable_of_le
    have power : (2 : ℚ) ^ exponent ≤ 1 :=
      zpow_le_one_of_nonpos₀ (by norm_num) fraction.le
    have bound : (mantissa : ℚ) * 2 ^ exponent ≤ ((2 ^ 53 : ℤ) : ℚ) := by
      have cast : (mantissa : ℚ) ≤ 2 ^ 53 := by exact_mod_cast small
      have nonneg : (0 : ℚ) ≤ mantissa := Nat.cast_nonneg mantissa
      push_cast
      nlinarith
    have ceil : ⌈(mantissa : ℚ) * 2 ^ exponent⌉ ≤ 2 ^ 53 := Int.ceil_le.mpr bound
    have floor := Int.floor_le_ceil ((mantissa : ℚ) * 2 ^ exponent)
    rcases close with close | close <;> omega

/-- `float(number)` does not change an integer that is a double. -/
theorem ofInt_of_representable
    {number : ℕ}
    (double : Representable number) :
    ofInt number = .ok (.finite number) := by
  have rounded := round_of_representable double
  unfold ofInt
  rw [Int.cast_natCast, rounded]

end Maze.Python.Double

namespace Maze.Python.Number

open Double

/-- What `float` returns is a double. -/
theorem representable_of_float
    {value : PyVal}
    {number : ℚ}
    (converted : float value = .ok (.finite number))
    (nonneg : 0 ≤ number) :
    Representable number := by
  cases value with
  | bool value =>
      simp only [float, Except.ok.injEq, Double.finite.injEq] at converted
      subst converted
      have small : (if value then 1 else 0) ≤ 2 ^ 53 := by split <;> norm_num
      have double := representable_of_le small
      cases value <;> simpa using double
  | int value =>
      simp only [float, ofInt] at converted
      split at converted
      · next rounded =>
        cases converted
        exact representable_of_round rounded nonneg
      · cases converted
  | float value =>
      simp only [float, Except.ok.injEq] at converted
      cases value with
      | finite negative magnitude => exact representable_of_round converted nonneg
      | nan | infinity => cases converted
  | str value =>
      simp only [float, floatOfText] at converted
      split at converted
      · cases converted
      · split at converted
        · cases converted
        · split at converted
          · simp only [Except.ok.injEq] at converted
            exact representable_of_round converted nonneg
          · cases converted
  | null | list | dict => cases converted

/-- `int(float(value))` is a double, when it is not negative. -/
theorem representable_of_intOfFloat
    {value : PyVal}
    {number : ℤ}
    (converted : intOfFloat value = .ok number) :
    Representable (number.toNat : ℕ) := by
  simp only [intOfFloat, bind_eq_ok] at converted
  obtain ⟨double, floated, truncated⟩ := converted
  cases double with
  | nan | infinity => cases truncated
  | finite value =>
      simp only [trunc, Except.ok.injEq] at truncated
      subst truncated
      split
      · next negative =>
        have nonneg : 0 ≤ ⌊-value⌋ := Int.floor_nonneg.mpr (by linarith)
        have zero : (-⌊-value⌋).toNat = 0 := by omega
        rw [zero]
        exact_mod_cast Representable.zero
      · next positive =>
        rw [not_lt] at positive
        have nonneg : 0 ≤ ⌊value⌋ := Int.floor_nonneg.mpr positive
        exact (representable_of_float floated positive).between
          (.inl (Int.toNat_of_nonneg nonneg))

/-- `int(float(number))` of an integer that is a double. -/
theorem intOfFloat_of_representable
    {number : ℕ}
    (double : Representable number) :
    intOfFloat (.int number) = .ok number := by
  have nonneg : ¬((number : ℚ) < 0) := not_lt.mpr (Nat.cast_nonneg number)
  simp [intOfFloat, float, ofInt_of_representable double, trunc, nonneg, bind,
    Except.bind]

end Maze.Python.Number
