import Mathlib.Data.List.Basic

namespace Maze.Library.Fallible

/-!
# Calls that change a state and may raise

A call of `EStateM` leaves a state behind also where it raises. `Ensures` relates
what holds before a call to what holds when it returns and when it raises, with
one rule for each way to put calls together, so that a proof about a call follows
its text.
-/

variable {State Error Value Next Item : Type}

/--
From a state with the precondition the call returns with `returns`, or raises an
error with `raises`.
-/
def Ensures
    (before : State → Prop)
    (call : EStateM Error State Value)
    (returns : Value → State → Prop)
    (raises : Error → State → Prop) : Prop :=
  ∀ state, before state →
    match call state with
    | .ok value after => returns value after
    | .error error after => raises error after

/-- Where the call raises, put back a part of the state from before. -/
def restoring
    (restore : State → State → State)
    (call : EStateM Error State Value) :
    EStateM Error State Value :=
  fun before =>
    match call before with
    | .ok value after => .ok value after
    | .error error after => .error error (restore before after)

/-- The value, or the error. -/
def returning : Except Error Value → EStateM Error State Value
  | .ok value => pure value
  | .error error => throw error

variable
  {call : EStateM Error State Value}
  {first : EStateM Error State Value}
  {second : Value → EStateM Error State Next}
  {value : Value}
  {error : Error}
  {start : State}

theorem bind_of_ok
    {state after : State}
    (returned : first state = .ok value after) :
    (first >>= second) state = second value after := by
  change EStateM.bind first second state = _
  rw [EStateM.bind, returned]

theorem bind_of_error
    {state after : State}
    (raised : first state = .error error after) :
    (first >>= second) state = .error error after := by
  change EStateM.bind first second state = _
  rw [EStateM.bind, raised]

section Rules

variable
  {before : State → Prop}
  {returns : Value → State → Prop}
  {raises : Error → State → Prop}

/-- What a call ensures of its outcome, where it returns. -/
theorem Ensures.returned
    (ensures : Ensures before call returns raises)
    {state after : State}
    (holds : before state)
    (returned : call state = .ok value after) :
    returns value after := by
  have outcome := ensures state holds
  rw [returned] at outcome
  exact outcome

/-- What a call ensures of its outcome, where it raises. -/
theorem Ensures.raised
    (ensures : Ensures before call returns raises)
    {state after : State}
    (holds : before state)
    (raised : call state = .error error after) :
    raises error after := by
  have outcome := ensures state holds
  rw [raised] at outcome
  exact outcome

/-- Assume more before a call and conclude less of its outcome. -/
theorem Ensures.weaken
    {stronger : State → Prop}
    {mayReturn : Value → State → Prop}
    {mayRaise : Error → State → Prop}
    (ensures : Ensures before call returns raises)
    (strengthen : ∀ state, stronger state → before state)
    (weakenReturn : ∀ value state, returns value state → mayReturn value state)
    (weakenRaise : ∀ error state, raises error state → mayRaise error state) :
    Ensures stronger call mayReturn mayRaise := by
  intro state holds
  have outcome := ensures state (strengthen state holds)
  cases ended : call state with
  | ok value after =>
      rw [ended] at outcome
      exact weakenReturn value after outcome
  | error error after =>
      rw [ended] at outcome
      exact weakenRaise error after outcome

/-- What two facts about a call ensure together. -/
theorem Ensures.and
    {alsoReturns : Value → State → Prop}
    {alsoRaises : Error → State → Prop}
    (ensures : Ensures before call returns raises)
    (also : Ensures before call alsoReturns alsoRaises) :
    Ensures before call
      (fun value state => returns value state ∧ alsoReturns value state)
      (fun error state => raises error state ∧ alsoRaises error state) := by
  intro state holds
  have first := ensures state holds
  have second := also state holds
  cases ended : call state with
  | ok value after =>
      rw [ended] at first second
      exact ⟨first, second⟩
  | error error after =>
      rw [ended] at first second
      exact ⟨first, second⟩

theorem ensures_pure
    (implies : ∀ state, before state → returns value state) :
    Ensures before (pure value : EStateM Error State Value) returns raises :=
  implies

theorem ensures_throw
    (implies : ∀ state, before state → raises error state) :
    Ensures before (throw error : EStateM Error State Value) returns raises :=
  implies

theorem ensures_modify
    {update : State → State}
    {returns : Unit → State → Prop}
    (establishes : ∀ state, before state → returns () (update state)) :
    Ensures before (modify update : EStateM Error State Unit) returns raises :=
  establishes

/-- What is given from outside does not touch the state. -/
theorem returning_ensures (outcome : Except Error Value) :
    Ensures before (returning outcome) (fun _ => before) (fun _ => before) := by
  cases outcome with
  | ok value =>
      exact ensures_pure fun _ holds => holds
  | error error =>
      exact ensures_throw fun _ holds => holds

/-- A call that only changes the state. -/
theorem ensures_modify_from
    {update : State → State} :
    Ensures (fun state => state = start)
      (modify update : EStateM Error State Unit)
      (fun _ state => state = update start) raises := by
  rintro state rfl
  rfl

/-- The second call starts where the first one has returned. -/
theorem ensures_bind
    {middle : Value → State → Prop}
    {returns : Next → State → Prop}
    (firstEnsures : Ensures before first middle raises)
    (secondEnsures : ∀ value, Ensures (middle value) (second value) returns raises) :
    Ensures before (first >>= second) returns raises := by
  intro state holds
  have outcome := firstEnsures state holds
  change
    match EStateM.bind first second state with
    | .ok value after => returns value after
    | .error error after => raises error after
  unfold EStateM.bind
  cases ended : first state with
  | ok value after =>
      rw [ended] at outcome
      exact secondEnsures value after outcome
  | error error after =>
      rw [ended] at outcome
      exact outcome

/-- What holds between two calls is given where it cannot be found. -/
theorem ensures_via
    (middle : Value → State → Prop)
    {returns : Next → State → Prop}
    (firstEnsures : Ensures before first middle raises)
    (secondEnsures : ∀ value, Ensures (middle value) (second value) returns raises) :
    Ensures before (first >>= second) returns raises :=
  ensures_bind firstEnsures secondEnsures

/-- Reading the state fixes the state that the call goes on from. -/
theorem ensures_get
    {call : State → EStateM Error State Value}
    (reading :
      ∀ state, before state →
        Ensures (fun current => current = state) (call state) returns raises) :
    Ensures before (get >>= call) returns raises := by
  intro state holds
  exact reading state holds state rfl

theorem ensures_ite
    {condition : Prop}
    [Decidable condition]
    {first second : EStateM Error State Value}
    (met : condition → Ensures before first returns raises)
    (unmet : ¬ condition → Ensures before second returns raises) :
    Ensures before (if condition then first else second) returns raises := by
  split
  · next holds => exact met holds
  · next fails => exact unmet fails

/-- A loop keeps an invariant on the items that are left. -/
theorem ensures_forM
    {body : Item → EStateM Error State PUnit}
    {invariant : List Item → State → Prop}
    (each :
      ∀ item rest,
        Ensures (invariant (item :: rest)) (body item)
          (fun _ => invariant rest) raises)
    (items : List Item) :
    Ensures (invariant items) (items.forM body) (fun _ => invariant [])
      raises := by
  induction items with
  | nil =>
      exact ensures_pure fun _ holds => holds
  | cons item rest inductionHypothesis =>
      exact ensures_bind (each item rest) fun _ => inductionHypothesis

/-- A loop keeps what each of its rounds keeps. -/
theorem ensures_each
    {body : Item → EStateM Error State PUnit}
    {invariant : State → Prop}
    (each : ∀ item, Ensures invariant (body item) (fun _ => invariant) raises)
    (items : List Item) :
    Ensures invariant (items.forM body) (fun _ => invariant) raises := by
  let always : List Item → State → Prop := fun _ => invariant
  have loop : Ensures (always items) (items.forM body) (fun _ => always [])
      raises := ensures_forM (fun item _ => each item) items
  exact loop

/-- Only the outcome of a raising call is changed by what is put back. -/
theorem ensures_restoring
    {restore : State → State → State}
    (ensures :
      ∀ state, before state →
        Ensures (fun current => current = state) call returns
          fun error after => raises error (restore state after)) :
    Ensures before (restoring restore call) returns raises := by
  intro state holds
  have outcome := ensures state holds state rfl
  unfold restoring
  cases ended : call state with
  | ok value after =>
      rw [ended] at outcome
      exact outcome
  | error error after =>
      rw [ended] at outcome
      exact outcome

/-- The handler starts where the call has raised. -/
theorem ensures_tryCatch
    {handler : Error → EStateM Error State Value}
    {caught : Error → State → Prop}
    (callEnsures : Ensures before call returns caught)
    (handlerEnsures :
      ∀ error, Ensures (caught error) (handler error) returns raises) :
    Ensures before (tryCatch call handler) returns raises := by
  intro state holds
  have outcome := callEnsures state holds
  change
    match EStateM.tryCatch call handler state with
    | .ok value after => returns value after
    | .error error after => raises error after
  unfold EStateM.tryCatch
  cases ended : call state with
  | ok value after =>
      rw [ended] at outcome
      exact outcome
  | error error after =>
      rw [ended] at outcome
      exact handlerEnsures error after outcome

/-- Only the precondition is strengthened. -/
theorem Ensures.from
    {stronger : State → Prop}
    (ensures : Ensures before call returns raises)
    (strengthen : ∀ state, stronger state → before state) :
    Ensures stronger call returns raises :=
  fun state holds => ensures state (strengthen state holds)

/-- Only what holds where the call raises is weakened. -/
theorem Ensures.raising
    {mayRaise : Error → State → Prop}
    (ensures : Ensures before call returns raises)
    (weakenRaise : ∀ error state, raises error state → mayRaise error state) :
    Ensures before call returns mayRaise :=
  ensures.weaken (fun _ => id) (fun _ _ => id) weakenRaise

/-! ### From a state that is known -/

theorem Ensures.here
    (ensures : Ensures before call returns raises)
    (holds : before start) :
    Ensures (fun state => state = start) call returns raises := by
  rintro state rfl
  exact ensures state holds

theorem ensures_pure_here
    (holds : returns value start) :
    Ensures (fun state => state = start) (pure value : EStateM Error State Value) returns
      raises := by
  rintro state rfl
  exact holds

theorem ensures_throw_here
    (holds : raises error start) :
    Ensures (fun state => state = start) (throw error : EStateM Error State Value) returns
      raises := by
  rintro state rfl
  exact holds

end Rules

end Maze.Library.Fallible
