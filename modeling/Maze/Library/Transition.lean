import Mathlib.Data.List.Basic

namespace Maze.Library.Transition

/-!
# Runs of a partial transition function

A system is given by `step? : State → Action → Option State`: `none` says that
the action is not enabled. Every nondeterministic choice of the system is part
of the action, so a run is a list of actions. The module packages the induction
over a run once, with and without a condition that every step has to meet.
-/

variable {State Action : Type}

/-- Execute a list of actions from left to right. -/
def run?
    (step? : State → Action → Option State) :
    State → List Action → Option State
  | state, [] => some state
  | state, action :: rest =>
      (step? state action).bind fun next => run? step? next rest

/-- The condition holds at every step that the run from `state` takes. -/
def EveryStep
    (step? : State → Action → Option State)
    (condition : State → Action → Prop) :
    State → List Action → Prop
  | _, [] => True
  | state, action :: rest =>
      ∀ next, step? state action = some next →
        condition state action ∧ EveryStep step? condition next rest

@[simp] theorem run?_nil
    (step? : State → Action → Option State)
    (state : State) :
    run? step? state [] = some state := rfl

@[simp] theorem run?_cons
    (step? : State → Action → Option State)
    (state : State)
    (action : Action)
    (rest : List Action) :
    run? step? state (action :: rest) =
      (step? state action).bind fun next => run? step? next rest := rfl

/-- A run over a concatenation is the run over its two parts. -/
theorem run?_append
    (step? : State → Action → Option State)
    (state : State)
    (first second : List Action) :
    run? step? state (first ++ second) =
      (run? step? state first).bind fun next => run? step? next second := by
  induction first generalizing state with
  | nil =>
      rfl
  | cons action rest inductionHypothesis =>
      simp [inductionHypothesis, Option.bind_assoc]

/-- A predicate that every step preserves holds at the end of every run. -/
theorem run?_invariant
    {step? : State → Action → Option State}
    {invariant : State → Prop}
    (preserved :
      ∀ state action next,
        invariant state → step? state action = some next → invariant next)
    {state final : State}
    {actions : List Action}
    (initially : invariant state)
    (executed : run? step? state actions = some final) :
    invariant final := by
  induction actions generalizing state with
  | nil =>
      simp only [run?_nil, Option.some.injEq] at executed
      exact executed ▸ initially
  | cons action rest inductionHypothesis =>
      rw [run?_cons, Option.bind_eq_some_iff] at executed
      obtain ⟨next, stepped, executed⟩ := executed
      exact inductionHypothesis
        (preserved state action next initially stepped) executed

/--
Two facts about single steps that agree wherever the invariant holds agree along
every run, if a step at which the first fact holds preserves the invariant.
-/
theorem everyStep_iff_of_invariant
    {step? : State → Action → Option State}
    {fact condition : State → Action → Prop}
    {invariant : State → Prop}
    (preserved :
      ∀ state action next,
        invariant state → condition state action →
          step? state action = some next → invariant next)
    (agree :
      ∀ state action next,
        invariant state → step? state action = some next →
          (fact state action ↔ condition state action))
    {state : State}
    (initially : invariant state)
    (actions : List Action) :
    EveryStep step? fact state actions ↔
      EveryStep step? condition state actions := by
  induction actions generalizing state with
  | nil =>
      rfl
  | cons action rest inductionHypothesis =>
      refine forall_congr' fun next => imp_congr_right fun stepped => ?_
      have here := agree state action next initially stepped
      constructor
      · rintro ⟨holds, later⟩
        have met := here.mp holds
        have kept := preserved state action next initially met stepped
        exact ⟨met, (inductionHypothesis kept).mp later⟩
      · rintro ⟨met, later⟩
        have kept := preserved state action next initially met stepped
        exact ⟨here.mpr met, (inductionHypothesis kept).mpr later⟩

/-- A condition that follows from another one holds at every step where that does. -/
theorem EveryStep.weaken
    {step? : State → Action → Option State}
    {condition weaker : State → Action → Prop}
    (follows : ∀ state action, condition state action → weaker state action)
    {state : State}
    {actions : List Action}
    (met : EveryStep step? condition state actions) :
    EveryStep step? weaker state actions := by
  induction actions generalizing state with
  | nil =>
      trivial
  | cons action rest inductionHypothesis =>
      intro next stepped
      obtain ⟨here, later⟩ := met next stepped
      exact ⟨follows state action here, inductionHypothesis later⟩

/--
A fact that follows from the condition wherever the invariant holds holds at every
step of a run whose steps meet the condition, if such a step preserves the invariant.
-/
theorem everyStep_of_invariant
    {step? : State → Action → Option State}
    {fact condition : State → Action → Prop}
    {invariant : State → Prop}
    (preserved :
      ∀ state action next,
        invariant state → condition state action →
          step? state action = some next → invariant next)
    (follows :
      ∀ state action, invariant state → condition state action → fact state action)
    {state : State}
    {actions : List Action}
    (initially : invariant state)
    (met : EveryStep step? condition state actions) :
    EveryStep step? fact state actions := by
  induction actions generalizing state with
  | nil =>
      trivial
  | cons action rest inductionHypothesis =>
      intro next stepped
      obtain ⟨here, later⟩ := met next stepped
      have kept := preserved state action next initially here stepped
      exact ⟨follows state action initially here, inductionHypothesis kept later⟩

/-- What holds at every step of a run holds at the one after a part of it. -/
theorem EveryStep.of_run
    {step? : State → Action → Option State}
    {condition : State → Action → Prop}
    {state reached next : State}
    {leading rest : List Action}
    {action : Action}
    (met : EveryStep step? condition state (leading ++ action :: rest))
    (executed : run? step? state leading = some reached)
    (stepped : step? reached action = some next) :
    condition reached action := by
  induction leading generalizing state with
  | nil =>
      simp only [run?_nil, Option.some.injEq] at executed
      subst executed
      exact (met next stepped).1
  | cons first leading inductionHypothesis =>
      rw [run?_cons, Option.bind_eq_some_iff] at executed
      obtain ⟨middle, taken, executed⟩ := executed
      exact inductionHypothesis (met middle taken).2 executed

/-- What holds at every step of a run holds at every step of its first part. -/
theorem EveryStep.leading
    {step? : State → Action → Option State}
    {condition : State → Action → Prop}
    {state : State}
    {leading rest : List Action}
    (met : EveryStep step? condition state (leading ++ rest)) :
    EveryStep step? condition state leading := by
  induction leading generalizing state with
  | nil =>
      trivial
  | cons action leading inductionHypothesis =>
      intro next stepped
      obtain ⟨here, later⟩ := met next stepped
      exact ⟨here, inductionHypothesis later⟩

/-- What holds at every step of a run holds at every step after its first part. -/
theorem EveryStep.trailing
    {step? : State → Action → Option State}
    {condition : State → Action → Prop}
    {state reached : State}
    {leading rest : List Action}
    (met : EveryStep step? condition state (leading ++ rest))
    (executed : run? step? state leading = some reached) :
    EveryStep step? condition reached rest := by
  induction leading generalizing state with
  | nil =>
      simp only [run?_nil, Option.some.injEq] at executed
      exact executed ▸ met
  | cons action leading inductionHypothesis =>
      rw [run?_cons, Option.bind_eq_some_iff] at executed
      obtain ⟨next, stepped, executed⟩ := executed
      exact inductionHypothesis (met next stepped).2 executed

/--
A relation that every step meeting the condition establishes relates the two ends
of a run whose steps all meet it.
-/
theorem run?_related
    {step? : State → Action → Option State}
    {condition : State → Action → Prop}
    {invariant : State → Prop}
    {relation : State → State → Prop}
    (same : ∀ state, invariant state → relation state state)
    (composed :
      ∀ first second third,
        relation first second → relation second third → relation first third)
    (preserved :
      ∀ state action next,
        invariant state → condition state action →
          step? state action = some next →
            invariant next ∧ relation state next)
    {state final : State}
    {actions : List Action}
    (initially : invariant state)
    (met : EveryStep step? condition state actions)
    (executed : run? step? state actions = some final) :
    invariant final ∧ relation state final := by
  induction actions generalizing state with
  | nil =>
      simp only [run?_nil, Option.some.injEq] at executed
      subst executed
      exact ⟨initially, same state initially⟩
  | cons action rest inductionHypothesis =>
      rw [run?_cons, Option.bind_eq_some_iff] at executed
      obtain ⟨next, stepped, executed⟩ := executed
      obtain ⟨here, later⟩ := met next stepped
      obtain ⟨kept, related⟩ := preserved state action next initially here stepped
      obtain ⟨finally_, relatedLater⟩ := inductionHypothesis kept later executed
      exact ⟨finally_, composed state next final related relatedLater⟩

/-- The predicate holds in every state that the run from `state` reaches. -/
def EveryState
    (step? : State → Action → Option State)
    (predicate : State → Prop)
    (state : State)
    (actions : List Action) : Prop :=
  ∀ leading rest reached,
    actions = leading ++ rest →
    run? step? state leading = some reached →
    predicate reached

/--
A predicate that every step meeting the condition preserves holds in every state
of a run whose steps all meet it.
-/
theorem everyState_of_everyStep
    {step? : State → Action → Option State}
    {condition : State → Action → Prop}
    {invariant : State → Prop}
    (preserved :
      ∀ state action next,
        invariant state → condition state action →
          step? state action = some next → invariant next)
    {state : State}
    {actions : List Action}
    (initially : invariant state)
    (met : EveryStep step? condition state actions) :
    EveryState step? invariant state actions := by
  intro leading rest reached split executed
  subst split
  induction leading generalizing state with
  | nil =>
      simp only [run?_nil, Option.some.injEq] at executed
      exact executed ▸ initially
  | cons action leading inductionHypothesis =>
      rw [run?_cons, Option.bind_eq_some_iff] at executed
      obtain ⟨next, stepped, executed⟩ := executed
      obtain ⟨here, later⟩ := met next stepped
      exact inductionHypothesis (preserved state action next initially here stepped)
        executed later

/-- A predicate holds in every state if it holds at first and after every step. -/
theorem everyState_iff
    {step? : State → Action → Option State}
    {predicate : State → Prop}
    {state : State}
    {actions : List Action} :
    EveryState step? predicate state actions ↔
      predicate state ∧
        EveryStep step?
          (fun before action =>
            ∀ next, step? before action = some next → predicate next)
          state actions := by
  induction actions generalizing state with
  | nil =>
      constructor
      · intro every
        exact ⟨every [] [] state rfl rfl, trivial⟩
      · rintro ⟨initially, _⟩ leading rest reached split executed
        obtain ⟨rfl, rfl⟩ := List.append_eq_nil_iff.mp split.symm
        simp only [run?_nil, Option.some.injEq] at executed
        exact executed ▸ initially
  | cons action rest inductionHypothesis =>
      constructor
      · intro every
        refine ⟨every [] (action :: rest) state rfl rfl, ?_⟩
        intro next stepped
        have later : EveryState step? predicate next rest := by
          intro leading trailing reached split executed
          refine every (action :: leading) trailing reached ?_ ?_
          · simp [split]
          · simp [stepped, executed]
        obtain ⟨here, steps⟩ := inductionHypothesis.mp later
        refine ⟨?_, steps⟩
        intro other same
        obtain rfl : next = other := Option.some.inj (stepped.symm.trans same)
        exact here
      · rintro ⟨initially, steps⟩ leading trailing reached split executed
        cases leading with
        | nil =>
            simp only [run?_nil, Option.some.injEq] at executed
            exact executed ▸ initially
        | cons first leading =>
            simp only [List.cons_append, List.cons.injEq] at split
            obtain ⟨rfl, split⟩ := split
            rw [run?_cons, Option.bind_eq_some_iff] at executed
            obtain ⟨next, stepped, executed⟩ := executed
            obtain ⟨here, later⟩ := steps next stepped
            exact inductionHypothesis.mpr ⟨here next stepped, later⟩
              leading trailing reached split executed

end Maze.Library.Transition
