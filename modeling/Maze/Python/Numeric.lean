import Maze.Python.Number

namespace Maze.Python

/-!
# Adding numbers

An `int` is exact and a `float` is a double; where the two meet, the `int` is converted, and
one that is too large for a double raises.
-/

namespace Double

/-- `first + second`. -/
def add : Double → Double → Double
  | .nan, _ => .nan
  | _, .nan => .nan
  | .infinity first, .infinity second => if first = second then .infinity first else .nan
  | .infinity negative, .finite _ => .infinity negative
  | .finite _, .infinity negative => .infinity negative
  | .finite first, .finite second => round (first + second)

end Double

/-- A number; a `bool` is one of the numbers 0 and 1. -/
inductive Numeric where
  | int (value : ℤ)
  | float (value : Double)
  deriving DecidableEq

namespace Numeric

/-- `float(number)`. -/
def toDouble : Numeric → Except PyErr Double
  | .int value => Double.ofInt value
  | .float value => .ok value

/-- `first + second`. -/
def add : Numeric → Numeric → Except PyErr Numeric
  | .int first, .int second => .ok (.int (first + second))
  | first, second => do
      let first ← first.toDouble
      let second ← second.toDouble
      .ok (.float (first.add second))

/-- An `int` that no double is close to. -/
def Huge : Numeric → Prop
  | .int value => Double.ofInt value = .error .overflowError
  | .float _ => False

/-- A number of the type `float`. -/
def IsFloat : Numeric → Prop
  | .int _ => False
  | .float _ => True

/-- One is a `float`, and the other an `int` that cannot be converted. -/
def Clash (first second : Numeric) : Prop :=
  first.Huge ∧ second.IsFloat ∨ first.IsFloat ∧ second.Huge

theorem toDouble_spec (number : Numeric) :
    (¬number.Huge → ∃ value, number.toDouble = .ok value) ∧
      (number.Huge → number.toDouble = .error .overflowError) := by
  cases number with
  | float value => exact ⟨fun _ => ⟨value, rfl⟩, fun huge => huge.elim⟩
  | int value =>
      refine ⟨fun fits => ?_, fun huge => huge⟩
      change ¬Double.ofInt value = .error .overflowError at fits
      change ∃ result, Double.ofInt value = .ok result
      unfold Double.ofInt at fits ⊢
      split
      · exact ⟨_, rfl⟩
      · next other =>
        split at fits
        · next result here => exact absurd here (other result)
        · exact absurd rfl fits

/-- Two numbers are added without an error unless they clash. -/
theorem add_iff
    (first second : Numeric) :
    (∃ sum, first.add second = .ok sum) ↔ ¬first.Clash second := by
  cases first with
  | int left =>
      cases second with
      | int right =>
          refine ⟨fun _ clash => ?_, fun _ => ⟨_, rfl⟩⟩
          rcases clash with ⟨_, float⟩ | ⟨float, _⟩
          · exact float
          · exact float
      | float right =>
          have same : (Numeric.int left).Clash (.float right) ↔ (Numeric.int left).Huge := by
            simp [Clash, IsFloat]
          rw [same]
          obtain ⟨fits, overflows⟩ := toDouble_spec (.int left)
          constructor
          · rintro ⟨sum, added⟩ huge
            rw [add, overflows huge] at added
            · cases added
            · intro _ _ _ other
              cases other
          · intro small
            obtain ⟨value, converted⟩ := fits small
            refine ⟨.float (value.add right), ?_⟩
            rw [add, converted]
            · rfl
            · intro _ _ _ other
              cases other
  | float left =>
      have same : (Numeric.float left).Clash second ↔ second.Huge := by
        simp [Clash, IsFloat, Huge]
      rw [same]
      obtain ⟨fits, overflows⟩ := toDouble_spec second
      constructor
      · rintro ⟨sum, added⟩ huge
        rw [add, overflows huge] at added
        · cases added
        · intro _ _ other
          cases other
      · intro small
        obtain ⟨value, converted⟩ := fits small
        refine ⟨.float (left.add value), ?_⟩
        rw [add, converted]
        · rfl
        · intro _ _ other
          cases other

end Numeric

end Maze.Python
