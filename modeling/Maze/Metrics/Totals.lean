import Maze.Python.DoubleExact
import Maze.Python.Numeric

namespace Maze.Metrics

open Maze.Python

/-!
# Exact totals

Numbers are added without rounding, so that a total does not depend on the order in which its
numbers come. What is left of the order is where an `int` that is too large for a double meets
a `float`: the sums of the positive and of the negative integers bound every sum on the way.
-/

/-! ## Exact numbers -/

/-- `first + second`, without rounding. -/
def exactAdd : Double → Double → Double
  | .nan, _ => .nan
  | _, .nan => .nan
  | .infinity first, .infinity second => if first = second then .infinity first else .nan
  | .infinity negative, .finite _ => .infinity negative
  | .finite _, .infinity negative => .infinity negative
  | .finite first, .finite second => .finite (first + second)

theorem exactAdd_comm (first second : Double) :
    exactAdd first second = exactAdd second first := by
  cases first with
  | nan => cases second <;> rfl
  | finite value => cases second <;> simp [exactAdd, add_comm]
  | infinity negative =>
      cases second with
      | infinity other =>
          by_cases same : negative = other
          · rw [same]
          · have back : ¬other = negative := fun equal => same equal.symm
            simp [exactAdd, same, back]
      | _ => rfl

theorem exactAdd_assoc (first second third : Double) :
    exactAdd (exactAdd first second) third = exactAdd first (exactAdd second third) := by
  cases first with
  | nan => rfl
  | finite value =>
      cases second with
      | nan => rfl
      | finite other => cases third <;> simp [exactAdd, add_assoc]
      | infinity negative =>
          cases third with
          | infinity other => by_cases same : negative = other <;> simp [exactAdd, same]
          | _ => rfl
  | infinity negative =>
      cases second with
      | nan => rfl
      | finite other => cases third <;> rfl
      | infinity second =>
          cases third with
          | nan => by_cases same : negative = second <;> simp [exactAdd, same]
          | finite other => by_cases same : negative = second <;> simp [exactAdd, same]
          | infinity third =>
              cases negative <;> cases second <;> cases third <;> rfl

@[simp] theorem exactAdd_zero (value : Double) : exactAdd value (.finite 0) = value := by
  cases value <;> simp [exactAdd]

/-- The number itself. -/
def exactValue : Numeric → Double
  | .int value => .finite value
  | .float value => value

/-- The sum of numbers. -/
def exactSum (values : List Numeric) : Double :=
  values.foldr (fun value sum => exactAdd (exactValue value) sum) (.finite 0)

/-- The order of the numbers does not matter to their sum. -/
theorem exactSum_perm
    {first second : List Numeric}
    (same : first.Perm second) :
    exactSum first = exactSum second := by
  induction same with
  | nil => rfl
  | cons value _ inductionHypothesis =>
      exact congrArg (exactAdd (exactValue value)) inductionHypothesis
  | swap first second rest =>
      change exactAdd _ (exactAdd _ (exactSum rest)) = exactAdd _ (exactAdd _ (exactSum rest))
      rw [← exactAdd_assoc, exactAdd_comm (exactValue second), exactAdd_assoc]
  | trans _ _ first second => exact first.trans second

theorem exactSum_concat
    (values : List Numeric)
    (value : Numeric) :
    exactSum (values ++ [value]) = exactAdd (exactSum values) (exactValue value) := by
  rw [exactSum_perm (List.perm_append_singleton value values), exactAdd_comm]
  rfl

/-! ## Adding with the types of the numbers -/

/-- `float(number)`, without rounding. -/
def toExact (number : Numeric) : Except PyErr Double := do
  let _ ← number.toDouble
  .ok (exactValue number)

/-- `first + second`. -/
def plus : Numeric → Numeric → Except PyErr Numeric
  | .int first, .int second => .ok (.int (first + second))
  | first, second => do
      let first ← toExact first
      let second ← toExact second
      .ok (.float (exactAdd first second))

/-- The integer, if the number is one. -/
def int? : Numeric → Option ℤ
  | .int value => some value
  | .float _ => none

/-- What numbers sum to: an `int` if all of them are. -/
def total (values : List Numeric) : Numeric :=
  if values.all fun value => (int? value).isSome then .int (values.filterMap int?).sum
  else .float (exactSum values)

/-- The sum of the integers that are positive. -/
def gains (values : List Numeric) : ℤ :=
  ((values.filterMap int?).map fun value => max value 0).sum

/-- The sum of the integers that are negative. -/
def losses (values : List Numeric) : ℤ :=
  ((values.filterMap int?).map fun value => min value 0).sum

/-- An integer that a double is close to. -/
def Fits (value : ℤ) : Prop :=
  ¬(Numeric.int value).Huge

/-- No sum of integers among the numbers is too large for a `float` among them. -/
def Addable (values : List Numeric) : Prop :=
  (∃ value ∈ values, int? value = none) → Fits (gains values) ∧ Fits (losses values)

/-- Whether a number is too large does not depend on its sign. -/
theorem round_finite_abs (number : ℚ) :
    (∃ value, Double.round number = .finite value) ↔
      ∃ value, Double.round |number| = .finite value := by
  unfold Double.round
  by_cases zero : number = 0
  · simp [zero]
  · rw [if_neg zero, if_neg (abs_ne_zero.mpr zero), abs_abs]
    dsimp only
    split
    · exact ⟨fun _ => ⟨_, rfl⟩, fun _ => ⟨_, rfl⟩⟩
    · exact ⟨fun ⟨_, same⟩ => (by cases same), fun ⟨_, same⟩ => (by cases same)⟩

theorem fits_iff (value : ℤ) :
    Fits value ↔ |(value : ℚ)| < Double.overflowBound := by
  rw [← Double.round_eq_finite_iff (abs_nonneg _), ← round_finite_abs]
  unfold Fits Numeric.Huge
  dsimp only [Double.ofInt]
  cases rounded : Double.round value with
  | finite number => simp
  | nan => simp
  | infinity negative => simp

/-- An integer between two that fit does so too. -/
theorem fits_of_between
    {lower value upper : ℤ}
    (low : Fits lower)
    (high : Fits upper)
    (least : lower ≤ value)
    (most : value ≤ upper) :
    Fits value := by
  rw [fits_iff, abs_lt] at low high ⊢
  have leastCast : (lower : ℚ) ≤ value := by exact_mod_cast least
  have mostCast : (value : ℚ) ≤ upper := by exact_mod_cast most
  exact ⟨lt_of_lt_of_le low.1 leastCast, lt_of_le_of_lt mostCast high.2⟩

theorem fits_zero : Fits 0 := by
  rw [fits_iff, Int.cast_zero, abs_zero, Double.overflowBound, sub_pos]
  exact zpow_lt_zpow_right₀ (by norm_num) (by norm_num)

theorem sum_bounds (values : List ℤ) :
    (values.map fun value => min value 0).sum ≤ values.sum ∧
      values.sum ≤ (values.map fun value => max value 0).sum := by
  induction values with
  | nil => exact ⟨le_refl 0, le_refl 0⟩
  | cons value rest inductionHypothesis =>
      simp only [List.map_cons, List.sum_cons]
      omega

theorem mem_bounds
    {values : List ℤ}
    {value : ℤ}
    (inside : value ∈ values) :
    (values.map fun value => min value 0).sum ≤ value ∧
      value ≤ (values.map fun value => max value 0).sum := by
  have signs (values : List ℤ) : (values.map fun value => min value 0).sum ≤ 0 ∧
      0 ≤ (values.map fun value => max value 0).sum := by
    induction values with
    | nil => exact ⟨le_refl 0, le_refl 0⟩
    | cons value rest inductionHypothesis =>
        simp only [List.map_cons, List.sum_cons]
        omega
  induction values with
  | nil => exact absurd inside List.not_mem_nil
  | cons first rest inductionHypothesis =>
      have others := signs rest
      simp only [List.map_cons, List.sum_cons]
      rcases List.mem_cons.mp inside with rfl | later
      · omega
      · have bounds := inductionHypothesis later
        omega

theorem signs (values : List Numeric) :
    losses values ≤ 0 ∧ 0 ≤ gains values := by
  unfold losses gains
  induction values.filterMap int? with
  | nil => exact ⟨le_refl 0, le_refl 0⟩
  | cons value rest inductionHypothesis =>
      simp only [List.map_cons, List.sum_cons]
      omega

/-- Sums of integers fit if they do so with more of them. -/
theorem fits_left
    {values rest : List Numeric}
    (gain : Fits (gains (values ++ rest)))
    (loss : Fits (losses (values ++ rest))) :
    Fits (gains values) ∧ Fits (losses values) := by
  have here := signs values
  have there := signs rest
  have gainSum : gains (values ++ rest) = gains values + gains rest := by
    simp [gains]
  have lossSum : losses (values ++ rest) = losses values + losses rest := by
    simp [losses]
  exact ⟨fits_of_between fits_zero gain here.2 (by omega),
    fits_of_between loss fits_zero (by omega) here.1⟩

/-- Numbers that can be added stay so without the last ones. -/
theorem Addable.left
    {values rest : List Numeric}
    (addable : Addable (values ++ rest)) :
    Addable values := by
  rintro ⟨value, inside, float⟩
  obtain ⟨gain, loss⟩ := addable ⟨value, List.mem_append_left rest inside, float⟩
  exact fits_left gain loss

theorem exactSum_ints
    {values : List Numeric}
    (ints : ∀ value ∈ values, (int? value).isSome = true) :
    exactSum values = .finite ((values.filterMap int?).sum : ℤ) := by
  induction values with
  | nil => simp [exactSum]
  | cons value rest inductionHypothesis =>
      obtain ⟨here, later⟩ := List.forall_mem_cons.mp ints
      cases value with
      | float value => cases here
      | int value =>
          change exactAdd (.finite value) (exactSum rest) = _
          rw [inductionHypothesis later]
          simp [exactAdd, int?]

/-- What numbers sum to is their sum. -/
theorem exactValue_total (values : List Numeric) :
    exactValue (total values) = exactSum values := by
  unfold total
  split
  · next ints =>
    rw [exactSum_ints (List.all_eq_true.mp ints)]
    rfl
  · rfl

theorem toExact_of_fits
    {number : Numeric}
    (fits : ∀ value, int? number = some value → Fits value) :
    toExact number = .ok (exactValue number) := by
  have small : ¬number.Huge := by
    cases number with
    | float value => exact id
    | int value => exact fits value rfl
  obtain ⟨value, converted⟩ := (Numeric.toDouble_spec number).1 small
  rw [toExact, converted]
  rfl

/-- One more number is added to what the others sum to. -/
theorem plus_total
    {values : List Numeric}
    {value : Numeric}
    (addable : Addable (values ++ [value])) :
    plus (total values) value = .ok (total (values ++ [value])) := by
  by_cases ints : ∀ other ∈ values ++ [value], (int? other).isSome = true
  · have whole : total (values ++ [value]) = .int ((values ++ [value]).filterMap int?).sum := by
      rw [total, if_pos (List.all_eq_true.mpr ints)]
    have before : total values = .int (values.filterMap int?).sum := by
      rw [total, if_pos (List.all_eq_true.mpr fun other inside =>
        ints other (List.mem_append_left _ inside))]
    cases value with
    | float value =>
        have here := ints _ (List.mem_append_right values (List.mem_singleton_self _))
        cases here
    | int value =>
        rw [whole, before, plus, List.filterMap_append, List.sum_append]
        simp [int?]
  · have float : ∃ other ∈ values ++ [value], int? other = none := by
      by_contra none
      exact ints fun other inside =>
        Option.isSome_iff_ne_none.mpr fun float => none ⟨other, inside, float⟩
    obtain ⟨gain, loss⟩ := addable float
    have whole : total (values ++ [value]) = .float (exactSum (values ++ [value])) := by
      rw [total, if_neg]
      exact fun all => ints (List.all_eq_true.mp all)
    have first : toExact (total values) = .ok (exactSum values) := by
      rw [← exactValue_total]
      refine toExact_of_fits fun sum same => ?_
      obtain ⟨gain, loss⟩ := fits_left gain loss
      have isSum : (values.filterMap int?).sum = sum := by
        unfold total at same
        split at same
        · exact Option.some.inj same
        · cases same
      obtain ⟨least, most⟩ := sum_bounds (values.filterMap int?)
      exact fits_of_between loss gain (isSum ▸ least) (isSum ▸ most)
    have second : toExact value = .ok (exactValue value) := by
      refine toExact_of_fits fun number same => ?_
      have inside : number ∈ (values ++ [value]).filterMap int? :=
        List.mem_filterMap.mpr ⟨value, List.mem_append_right _ List.mem_cons_self, same⟩
      obtain ⟨least, most⟩ := mem_bounds inside
      exact fits_of_between loss gain least most
    have added : plus (total values) value = (do
        let first ← toExact (total values)
        let second ← toExact value
        .ok (.float (exactAdd first second))) := by
      unfold plus
      split
      · next sum number same =>
        unfold total at same
        split at same
        · next all =>
          refine absurd (fun other inside => ?_) ints
          rcases List.mem_append.mp inside with before | last
          · exact List.all_eq_true.mp all other before
          · rw [List.mem_singleton.mp last]
            rfl
        · cases same
      · rfl
    rw [added, first, second, whole, exactSum_concat]
    rfl

/-- Nothing is what numbers are first added to. -/
theorem plus_zero (value : Numeric) : plus (.int 0) value = .ok value := by
  cases value with
  | int value => simp [plus]
  | float value =>
      have zero : toExact (.int 0) = .ok (.finite 0) := by
        refine (toExact_of_fits fun value same => ?_).trans (by simp [exactValue])
        cases same
        exact fits_zero
      rw [plus, zero]
      · simp only [toExact, Numeric.toDouble, exactValue, Bind.bind, Except.bind]
        rw [exactAdd_comm, exactAdd_zero]
      · intro _ _ _ other
        cases other

/-- A number that fits is added to no cost. -/
theorem plus_zeroFloat
    {value : Numeric}
    (fits : ∀ number, int? value = some number → Fits number) :
    plus (.float (.finite 0)) value = .ok (.float (exactValue value)) := by
  rw [plus, toExact_of_fits fits]
  · simp only [toExact, Numeric.toDouble, exactValue, Bind.bind, Except.bind]
    rw [exactAdd_comm, exactAdd_zero]
  · intro _ _ other
    cases other

/-- The order of the numbers does not matter to what they sum to. -/
theorem total_perm
    {first second : List Numeric}
    (same : first.Perm second) :
    total first = total second := by
  have all : (first.all fun value => (int? value).isSome) =
      second.all fun value => (int? value).isSome := same.all_eq
  unfold total
  rw [all, exactSum_perm same, (same.filterMap int?).sum_eq]

theorem Addable.perm
    {first second : List Numeric}
    (addable : Addable first)
    (same : first.Perm second) :
    Addable second := by
  rintro ⟨value, inside, float⟩
  have fits := addable ⟨value, same.mem_iff.mpr inside, float⟩
  unfold gains losses at fits ⊢
  rwa [((same.filterMap int?).map _).sum_eq, ((same.filterMap int?).map _).sum_eq] at fits

end Maze.Metrics
