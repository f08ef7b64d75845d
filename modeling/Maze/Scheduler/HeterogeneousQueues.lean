import Mathlib.Algebra.Order.Field.Basic
import Mathlib.Data.List.Sort
import Maze.Library.Transition
import Maze.Python.Number

namespace Maze.Scheduler.HeterogeneousQueues

open Maze.Python
open Maze.Library.Transition

/-!
# The resource queues

Tasks wait in one of three queues. A scan computes the keys of all entries of a queue anew and
sorts it by them; a task that cannot run is taken out and put back under the sequence number
that it came with.

Numbers are elements of a linear ordered field, so that they are read exactly; the logarithms
and the exponential are those of `math`. Task objects are told apart by a number.
-/

/-- `QUEUE_NAMES`. -/
inductive QueueName where
  | gpu
  | cpu
  | io
  deriving DecidableEq

/-- The name that a text is after `strip` and `lower`, or `cpu`. -/
def normalizeQueueName (value : Option PyStr) : QueueName :=
  let normalized : PyStr :=
    ⟨(Number.strip ((value.getD "cpu").chars)).map Number.lower⟩
  if normalized = "gpu" then .gpu
  else if normalized = "io" then .io
  else .cpu

/-! ## Strategies -/

/-- The functions of `math`. -/
structure MathFunctions (K : Type) where
  log2 : K → K
  log : K → K
  exp : K → K

/-- The mode of the context of a task. -/
inductive Mode where
  | static
  | dynamic
  deriving DecidableEq

/-- `scheduling_context`, as far as it decides about the order. -/
structure SchedulingContext (K : Type) where
  mode : Mode
  predictedDuration : Option K
  workflowSubmittedTime : Option K
  nDesc : Option K
  nAnc : Option K
  remainingValueTasks : Option K

/-- A task object. -/
structure Task (K : Type) where
  taskKind : Option PyStr
  createdTime : Option K
  context : SchedulingContext K
  queueName : Option QueueName
  queueSequence : Option ℕ
  queueEnteredTime : Option K

variable {K : Type} [Field K] [LinearOrder K]

/-- `EPSILON`. -/
def epsilon : K := 1 / 1000

/-- `DEFAULT_PREDICTED_DURATION_SECONDS`. -/
def defaultPredictedDurationSeconds : QueueName → K
  | .gpu => 60
  | .cpu => 30
  | .io => 10

/-- The configuration and the average of the HACS strategy. -/
structure Hacs (K : Type) [Field K] [LinearOrder K] where
  alpha : K
  beta : K
  completionEmaAlpha : K
  starvationSeconds : K
  avgCompletionSeconds : K
  completionSampleCount : ℕ
  alpha_pos : 0 < alpha
  beta_gt : 1 < beta
  starvation_pos : 0 < starvationSeconds

/-- `observe_workflow_completion`. -/
def Hacs.observeWorkflowCompletion
    (hacs : Hacs K)
    (duration : K) : Hacs K :=
  if duration ≤ 0 then hacs
  else
    { hacs with
      avgCompletionSeconds :=
        if hacs.completionSampleCount = 0 then duration
        else hacs.completionEmaAlpha * duration +
          (1 - hacs.completionEmaAlpha) * hacs.avgCompletionSeconds
      completionSampleCount := hacs.completionSampleCount + 1 }

/-- `_safe_power`. -/
def safePower
    (math : MathFunctions K)
    (base exponent : K) : K :=
  math.exp (max (-700) (min 700 (math.log base * exponent)))

/-- What `refresh_task_metadata` finds out about a task. -/
structure Metadata (K : Type) where
  queueName : QueueName
  mode : Mode
  predictedDuration : K
  topologicalWeight : K
  queueWaitTime : K
  workflowWaitTime : K
  remainingValueTasks : K
  phi : K
  valueMultiplier : K
  hacsScore : K
  starved : Bool

/-- The duration that is predicted for a task. -/
def predictedDuration (task : Task K) : K :=
  let default := defaultPredictedDurationSeconds (normalizeQueueName task.taskKind)
  let predicted := task.context.predictedDuration.getD default
  max (if predicted ≤ 0 then default else predicted) epsilon

/-- `refresh_task_metadata`. -/
def refreshTaskMetadata
    (math : MathFunctions K)
    (hacs : Hacs K)
    (task : Task K)
    (now : K) : Metadata K :=
  let context := task.context
  let predicted := predictedDuration task
  let submittedTime := context.workflowSubmittedTime.getD (task.createdTime.getD now)
  let queueEnteredTime := task.queueEnteredTime.getD (task.createdTime.getD now)
  let queueWaitTime := max 0 (now - queueEnteredTime)
  let avgCompletion := max hacs.avgCompletionSeconds epsilon
  let nDesc := max 0 (context.nDesc.getD 0)
  let nAnc := max 0 (context.nAnc.getD 0)
  let remaining := max 0 (context.remainingValueTasks.getD 0)
  let waiting := queueWaitTime / (hacs.alpha * avgCompletion)
  let topologicalWeight :=
    match context.mode with
    | .static => math.log2 (2 + 2 * nDesc)
    | .dynamic => nAnc + waiting
  let phi :=
    match context.mode with
    | .static => waiting - remaining
    | .dynamic => 0
  let valueMultiplier :=
    match context.mode with
    | .static => safePower math hacs.beta phi
    | .dynamic => 1
  {
    queueName := normalizeQueueName task.taskKind
    mode := context.mode
    predictedDuration := predicted
    topologicalWeight := topologicalWeight
    queueWaitTime := queueWaitTime
    workflowWaitTime := max 0 (now - submittedTime)
    remainingValueTasks := remaining
    phi := phi
    valueMultiplier := valueMultiplier
    hacsScore :=
      match context.mode with
      | .static => (topologicalWeight * valueMultiplier) / predicted
      | .dynamic => topologicalWeight / predicted
    starved := hacs.starvationSeconds ≤ queueWaitTime
  }

/-- A strategy. -/
inductive Strategy (K : Type) [Field K] [LinearOrder K] where
  | fcfs
  | hacs (hacs : Hacs K)

/-- A key that entries are sorted by: `(sequence,)`, `(0, sequence)`, `(1, -score, sequence)`. -/
inductive PriorityKey (K : Type) where
  | arrival (sequence : ℕ)
  | starved (sequence : ℕ)
  | scored (negated : K) (sequence : ℕ)

/-- `first <= second` of two keys, which are compared as tuples. -/
def PriorityKey.le : PriorityKey K → PriorityKey K → Bool
  | .arrival first, .arrival second => first ≤ second
  | .starved first, .starved second => first ≤ second
  | .starved _, .scored _ _ => true
  | .scored _ _, .starved _ => false
  | .scored first firstSequence, .scored second secondSequence =>
      first < second ∨ first = second ∧ firstSequence ≤ secondSequence
  -- keys of the two strategies do not meet
  | .arrival _, _ => true
  | _, .arrival _ => false

/-- `priority_key`. -/
def priorityKey
    (math : MathFunctions K)
    (strategy : Strategy K)
    (task : Task K)
    (sequence : ℕ)
    (now : K) : PriorityKey K :=
  match strategy with
  | .fcfs => .arrival sequence
  | .hacs hacs =>
      let metadata := refreshTaskMetadata math hacs task now
      if metadata.starved then .starved sequence
      else .scored (-metadata.hacsScore) sequence

/-! ## Queues -/

/-- `QueuedTask`. -/
structure QueuedTask (K : Type) where
  key : PriorityKey K
  sequence : ℕ
  task : ℕ

/--
`HeterogeneousTaskQueues`. No code reads the last two fields: `taken` has the entries that were
taken out and not put back, `puts` the tasks in the order in which they were put.
-/
structure State (K : Type) [Field K] [LinearOrder K] where
  strategy : Strategy K
  tasks : ℕ → Task K
  queues : QueueName → List (QueuedTask K)
  sequence : ℕ
  taken : List (QueuedTask K)
  puts : List ℕ

/-- Nothing was put yet. -/
def State.initial
    (strategy : Strategy K)
    (tasks : ℕ → Task K) : State K where
  strategy := strategy
  tasks := tasks
  queues := fun _ => []
  sequence := 0
  taken := []
  puts := []

/-- The queue that is asked for, or the one of the kind of the task. -/
def resolvedQueue
    (queueName : Option PyStr)
    (task : Task K) : QueueName :=
  match queueName with
  | some name =>
      if name.isEmpty then normalizeQueueName task.taskKind else normalizeQueueName (some name)
  | none => normalizeQueueName task.taskKind

/-- `put`. -/
def put
    (math : MathFunctions K)
    (state : State K)
    (x : ℕ)
    (queueName : Option PyStr)
    (now : K) : State K :=
  let resolved := resolvedQueue queueName (state.tasks x)
  let task :=
    { state.tasks x with
      queueName := some resolved
      queueSequence := some state.sequence
      queueEnteredTime := some now }
  let key := priorityKey math state.strategy task state.sequence now
  { state with
    tasks := Function.update state.tasks x task
    queues := Function.update state.queues resolved
      (state.queues resolved ++ [⟨key, state.sequence, x⟩])
    sequence := state.sequence + 1
    puts := state.puts ++ [x] }

/-- An entry with its key at a time. -/
def refreshed
    (math : MathFunctions K)
    (state : State K)
    (now : K)
    (queued : QueuedTask K) : QueuedTask K :=
  { queued with
    key := priorityKey math state.strategy (state.tasks queued.task) queued.sequence now }

/-- `_refresh_queue`. -/
def refreshQueue
    (math : MathFunctions K)
    (state : State K)
    (name : QueueName)
    (now : K) : State K :=
  { state with
    queues := Function.update state.queues name
      (((state.queues name).map (refreshed math state now)).mergeSort
        fun first second => first.key.le second.key) }

/-- The first entry of a task, and the others. -/
def takeFirst
    (x : ℕ) :
    List (QueuedTask K) → Option (QueuedTask K × List (QueuedTask K))
  | [] => none
  | queued :: rest =>
      if queued.task = x then some (queued, rest)
      else (takeFirst x rest).map fun found => (found.1, queued :: found.2)

/-- `take`; `none` if it raises. -/
def take
    (state : State K)
    (name : QueueName)
    (x : Option ℕ) : Option (State K) :=
  let found :=
    match x with
    | none => (state.queues name).head?.map fun queued => (queued, (state.queues name).tail)
    | some x => takeFirst x (state.queues name)
  found.map fun found =>
    { state with
      queues := Function.update state.queues name found.2
      taken := found.1 :: state.taken }

/-- `restore` of the entry at a place in `taken`. -/
def restore
    (state : State K)
    (index : ℕ)
    (queueName : Option PyStr) : Option (State K) :=
  state.taken[index]?.map fun queued =>
    let task := state.tasks queued.task
    let resolved :=
      match queueName with
      | some name =>
          if name.isEmpty then task.queueName.getD .cpu else normalizeQueueName (some name)
      | none => task.queueName.getD .cpu
    { state with
      tasks := Function.update state.tasks queued.task { task with queueName := some resolved }
      queues := Function.update state.queues resolved (state.queues resolved ++ [queued])
      taken := state.taken.eraseIdx index }

/-- What is done with the queues; the clock is read where it is needed. -/
inductive Action (K : Type) where
  | put (x : ℕ) (queueName : Option PyStr) (now : K)
  | peek (name : QueueName) (now : K)
  | take (name : QueueName) (x : Option ℕ)
  | restore (index : ℕ) (queueName : Option PyStr)
  | observeWorkflowCompletion (duration : K)

/-- What a completed workflow changes. -/
def observe
    (state : State K)
    (duration : K) : State K :=
  match state.strategy with
  | .fcfs => state
  | .hacs hacs =>
      { state with strategy := .hacs (hacs.observeWorkflowCompletion duration) }

/-- One call. -/
def step?
    (math : MathFunctions K)
    (state : State K) :
    Action K → Option (State K)
  | .put x queueName now => some (put math state x queueName now)
  | .peek name now => some (refreshQueue math state name now)
  | .take name x => take state name x
  | .restore index queueName => restore state index queueName
  | .observeWorkflowCompletion duration => some (observe state duration)

/-- The entry whose task `peek` returns. -/
def offered
    (state : State K)
    (name : QueueName) : Option (QueuedTask K) :=
  (state.queues name).head?

/-! ## Where entries are -/

/-- What an entry is told by. -/
def QueuedTask.identity (queued : QueuedTask K) : ℕ × ℕ :=
  (queued.sequence, queued.task)

/-- The entries of the three queues. -/
def queued (queues : QueueName → List (QueuedTask K)) : List (QueuedTask K) :=
  queues .gpu ++ queues .cpu ++ queues .io

/-- All entries, with the ones that were taken out. -/
def places (state : State K) : List (ℕ × ℕ) :=
  (queued state.queues ++ state.taken).map QueuedTask.identity

/-- Every put has one entry, in a queue or taken out. -/
structure Placed (state : State K) : Prop where
  sequence : state.sequence = state.puts.length
  entries : (places state).Perm (state.puts.zipIdx.map Prod.swap)

omit [LinearOrder K] [Field K] in
/-- Whatever a queue is set to is beside the entries of the other two. -/
theorem queued_update
    (queues : QueueName → List (QueuedTask K))
    (name : QueueName) :
    ∃ others, ∀ entries,
      (queued (Function.update queues name entries)).Perm (entries ++ others) := by
  cases name with
  | gpu =>
      refine ⟨queues .cpu ++ queues .io, fun entries => ?_⟩
      simp [queued, Function.update]
  | cpu =>
      refine ⟨queues .gpu ++ queues .io, fun entries => ?_⟩
      simp only [queued, Function.update, reduceCtorEq, dite_false, dite_true]
      rw [List.append_assoc, ← List.append_assoc entries]
      exact List.perm_append_comm_assoc _ _ _ |>.trans (by rw [List.append_assoc])
  | io =>
      refine ⟨queues .gpu ++ queues .cpu, fun entries => ?_⟩
      simp only [queued, Function.update, reduceCtorEq, dite_false, dite_true]
      exact List.perm_append_comm

/-- A call that sets a queue and what is taken moves the entries that it says. -/
theorem places_perm
    {state next : State K}
    {name : QueueName}
    {entries : List (QueuedTask K)}
    {added : List (ℕ × ℕ)}
    (queues : next.queues = Function.update state.queues name entries)
    (moved : (entries ++ next.taken).map QueuedTask.identity |>.Perm
      ((state.queues name ++ state.taken).map QueuedTask.identity ++ added)) :
    (places next).Perm (places state ++ added) := by
  obtain ⟨others, update⟩ := queued_update state.queues name
  have before : (queued state.queues).Perm (state.queues name ++ others) := by
    have same := update (state.queues name)
    rwa [Function.update_eq_self] at same
  have rotate (first : List (QueuedTask K)) (last : List (QueuedTask K)) :
      ((first ++ others ++ last).map QueuedTask.identity).Perm
        (others.map QueuedTask.identity ++ (first ++ last).map QueuedTask.identity) := by
    simp only [List.map_append]
    exact (List.perm_append_comm.append_right _).trans (by rw [List.append_assoc])
  have here : (places state).Perm (others.map QueuedTask.identity ++
      (state.queues name ++ state.taken).map QueuedTask.identity) :=
    ((before.append_right _).map _).trans (rotate _ _)
  have there : (places next).Perm (others.map QueuedTask.identity ++
      (entries ++ next.taken).map QueuedTask.identity) := by
    unfold places
    rw [queues]
    exact (((update entries).append_right _).map _).trans (rotate _ _)
  refine there.trans ?_
  refine (moved.append_left _).trans ?_
  rw [← List.append_assoc]
  exact here.symm.append_right added

omit [LinearOrder K] [Field K] in
theorem takeFirst_spec
    {x : ℕ}
    {entries rest : List (QueuedTask K)}
    {found : QueuedTask K}
    (taken : takeFirst x entries = some (found, rest)) :
    found.task = x ∧ entries.Perm (found :: rest) := by
  induction entries generalizing rest with
  | nil => cases taken
  | cons queued others inductionHypothesis =>
      unfold takeFirst at taken
      split at taken
      · next same =>
        cases taken
        exact ⟨same, .refl _⟩
      · obtain ⟨⟨later, left⟩, isLater, same⟩ := Option.map_eq_some_iff.mp taken
        cases same
        obtain ⟨isTask, perm⟩ := inductionHypothesis isLater
        exact ⟨isTask, (perm.cons queued).trans (.swap _ _ _)⟩

theorem Placed.put
    {state : State K}
    (placed : Placed state)
    (math : MathFunctions K)
    (x : ℕ)
    (queueName : Option PyStr)
    (now : K) :
    Placed (put math state x queueName now) := by
  refine ⟨?_, ?_⟩
  · simp [HeterogeneousQueues.put, placed.sequence]
  · have added : (places (HeterogeneousQueues.put math state x queueName now)).Perm
        (places state ++ [(state.sequence, x)]) := by
      refine places_perm rfl ?_
      simp only [HeterogeneousQueues.put, List.map_append, List.map_cons, List.map_nil,
        QueuedTask.identity, List.append_assoc]
      exact List.perm_append_comm.append_left _
    have swapped : ((state.puts ++ [x]).zipIdx.map Prod.swap) =
        state.puts.zipIdx.map Prod.swap ++ [(state.puts.length, x)] := by
      simp [List.zipIdx_append]
    refine added.trans ?_
    change (places state ++ [(state.sequence, x)]).Perm
      ((state.puts ++ [x]).zipIdx.map Prod.swap)
    rw [swapped, placed.sequence]
    exact placed.entries.append_right _

/-- A scan keeps the entries of the queue. -/
theorem refreshQueue_perm
    (math : MathFunctions K)
    (state : State K)
    (name : QueueName)
    (now : K) :
    (((refreshQueue math state name now).queues name).map QueuedTask.identity).Perm
      ((state.queues name).map QueuedTask.identity) := by
  have sorted : (refreshQueue math state name now).queues name =
      ((state.queues name).map (refreshed math state now)).mergeSort
        fun first second => first.key.le second.key := by
    simp [refreshQueue]
  rw [sorted]
  refine ((List.mergeSort_perm _ _).map _).trans (List.Perm.of_eq ?_)
  rw [List.map_map]
  rfl

/-- A call that changes no put keeps the entries in their places. -/
theorem Placed.moved
    {state next : State K}
    (placed : Placed state)
    {name : QueueName}
    {entries : List (QueuedTask K)}
    (sequence : next.sequence = state.sequence)
    (puts : next.puts = state.puts)
    (queues : next.queues = Function.update state.queues name entries)
    (moved : (entries ++ next.taken).map QueuedTask.identity |>.Perm
      ((state.queues name ++ state.taken).map QueuedTask.identity)) :
    Placed next := by
  refine ⟨by rw [sequence, puts, placed.sequence], ?_⟩
  rw [puts]
  refine (places_perm queues (moved.trans (List.Perm.of_eq (List.append_nil _).symm))).trans ?_
  rw [List.append_nil]
  exact placed.entries

theorem Placed.refreshQueue
    {state : State K}
    (placed : Placed state)
    (math : MathFunctions K)
    (name : QueueName)
    (now : K) :
    Placed (refreshQueue math state name now) := by
  have perm := refreshQueue_perm math state name now
  refine placed.moved rfl rfl rfl ?_
  simp only [HeterogeneousQueues.refreshQueue, Function.update_self] at perm
  rw [List.map_append, List.map_append]
  exact perm.append_right _

theorem Placed.take
    {state next : State K}
    (placed : Placed state)
    {name : QueueName}
    {x : Option ℕ}
    (took : take state name x = some next) :
    Placed next := by
  obtain ⟨⟨found, rest⟩, isFound, rfl⟩ := Option.map_eq_some_iff.mp took
  have perm : (state.queues name).Perm (found :: rest) := by
    cases x with
    | some x => exact (takeFirst_spec isFound).2
    | none =>
        obtain ⟨head, isHead, same⟩ := Option.map_eq_some_iff.mp isFound
        cases same
        exact List.Perm.of_eq (List.eq_cons_of_mem_head? isHead)
  refine placed.moved rfl rfl rfl (List.Perm.map _ ?_)
  exact (List.perm_middle).trans ((perm.append_right _).symm)

theorem Placed.restore
    {state next : State K}
    (placed : Placed state)
    {index : ℕ}
    {queueName : Option PyStr}
    (restored : restore state index queueName = some next) :
    Placed next := by
  obtain ⟨queued, isTaken, rfl⟩ := Option.map_eq_some_iff.mp restored
  obtain ⟨bound, same⟩ := List.getElem?_eq_some_iff.mp isTaken
  have perm := List.getElem_cons_eraseIdx_perm bound
  rw [same] at perm
  refine placed.moved rfl rfl rfl (List.Perm.map _ ?_)
  rw [List.append_assoc]
  exact perm.append_left _

/-- A call keeps the entries in their places. -/
theorem Placed.step
    {math : MathFunctions K}
    {state next : State K}
    {action : Action K}
    (placed : Placed state)
    (stepped : step? math state action = some next) :
    Placed next := by
  cases action with
  | put x queueName now =>
      cases stepped
      exact placed.put math x queueName now
  | peek name now =>
      cases stepped
      exact placed.refreshQueue math name now
  | take name x => exact placed.take stepped
  | restore index queueName => exact placed.restore stepped
  | observeWorkflowCompletion duration =>
      cases stepped
      unfold observe
      split
      · exact placed
      · exact ⟨placed.sequence, placed.entries⟩

/-- In every run every put has one entry. -/
theorem placed_run
    {math : MathFunctions K}
    {strategy : Strategy K}
    {tasks : ℕ → Task K}
    {actions : List (Action K)}
    {state : State K}
    (executed : run? (step? math) (State.initial strategy tasks) actions = some state) :
    Placed state :=
  run?_invariant (fun _ _ _ placed stepped => placed.step stepped)
    ⟨rfl, .refl _⟩ executed

/-! ## The order of a scan -/

omit [Field K] in
theorem PriorityKey.le_total (first second : PriorityKey K) :
    (first.le second || second.le first) = true := by
  cases first <;> cases second <;> simp only [PriorityKey.le, Bool.or_eq_true,
    decide_eq_true_eq, Bool.true_or, Bool.or_true]
  · exact Nat.le_total _ _
  · exact Nat.le_total _ _
  · next first firstSequence second secondSequence =>
    rcases lt_trichotomy first second with less | same | more
    · exact .inl (.inl less)
    · rcases Nat.le_total firstSequence secondSequence with before | after
      · exact .inl (.inr ⟨same, before⟩)
      · exact .inr (.inr ⟨same.symm, after⟩)
    · exact .inr (.inl more)

omit [Field K] in
theorem PriorityKey.le_trans
    (first second third : PriorityKey K)
    (before : first.le second = true)
    (after : second.le third = true) :
    first.le third = true := by
  cases first <;> cases second <;> cases third <;>
    simp only [PriorityKey.le, decide_eq_true_eq, Bool.false_eq_true] at before after ⊢
  · exact Nat.le_trans before after
  · exact Nat.le_trans before after
  · rcases before with less | ⟨rfl, before⟩
    · rcases after with more | ⟨rfl, _⟩
      · exact .inl (less.trans more)
      · exact .inl less
    · rcases after with more | ⟨rfl, after⟩
      · exact .inl more
      · exact .inr ⟨rfl, Nat.le_trans before after⟩

/-- A scan sorts the queue by the keys of the time. -/
theorem refreshQueue_sorted
    (math : MathFunctions K)
    (state : State K)
    (name : QueueName)
    (now : K) :
    ((refreshQueue math state name now).queues name).Pairwise fun first second =>
      (priorityKey math state.strategy (state.tasks first.task) first.sequence now).le
        (priorityKey math state.strategy (state.tasks second.task) second.sequence now) =
          true := by
  have scanned : (refreshQueue math state name now).queues name =
      ((state.queues name).map (refreshed math state now)).mergeSort
        fun first second => first.key.le second.key := by
    simp [refreshQueue]
  have keys : ∀ queued ∈ (refreshQueue math state name now).queues name, queued.key =
      priorityKey math state.strategy (state.tasks queued.task) queued.sequence now := by
    intro queued inside
    rw [scanned, List.mem_mergeSort] at inside
    obtain ⟨old, _, rfl⟩ := List.mem_map.mp inside
    rfl
  have sorted : ((refreshQueue math state name now).queues name).Pairwise
      fun first second => first.key.le second.key = true := by
    rw [scanned]
    exact List.pairwise_mergeSort
      (fun first second third => PriorityKey.le_trans first.key second.key third.key)
      (fun first second => PriorityKey.le_total first.key second.key) _
  refine sorted.imp_of_mem fun {first second} firstIn secondIn before => ?_
  rwa [keys first firstIn, keys second secondIn] at before

/-- The entries of a queue have different numbers. -/
theorem Placed.nodup
    {state : State K}
    (placed : Placed state)
    (name : QueueName) :
    ((state.queues name).map QueuedTask.sequence).Nodup := by
  obtain ⟨others, update⟩ := queued_update state.queues name
  have perm := update (state.queues name)
  rw [Function.update_eq_self] at perm
  have all : ((places state).map Prod.fst).Nodup := by
    refine (placed.entries.map Prod.fst).nodup_iff.mpr ?_
    rw [List.map_map]
    have numbers : Prod.fst ∘ Prod.swap = (Prod.snd : ℕ × ℕ → ℕ) := rfl
    rw [numbers, List.zipIdx_map_snd]
    exact List.nodup_range'
  unfold places at all
  rw [List.map_map] at all
  have here : ((state.queues name ++ others ++ state.taken).map QueuedTask.sequence).Nodup :=
    ((perm.append_right state.taken).map QueuedTask.sequence).nodup_iff.mp all
  rw [List.append_assoc, List.map_append] at here
  exact here.of_append_left

/-- An entry is offered before another one under HACS. -/
def Before
    (math : MathFunctions K)
    (hacs : Hacs K)
    (tasks : ℕ → Task K)
    (now : K)
    (first second : QueuedTask K) : Prop :=
  let firstData := refreshTaskMetadata math hacs (tasks first.task) now
  let secondData := refreshTaskMetadata math hacs (tasks second.task) now
  if firstData.starved then
    secondData.starved = true → first.sequence < second.sequence
  else
    secondData.starved = false ∧
      (secondData.hacsScore < firstData.hacsScore ∨
        firstData.hacsScore = secondData.hacsScore ∧ first.sequence < second.sequence)

/-- The keys of HACS put an entry before another one. -/
theorem before_of_le
    [IsStrictOrderedRing K]
    {math : MathFunctions K}
    {hacs : Hacs K}
    {tasks : ℕ → Task K}
    {now : K}
    {first second : QueuedTask K}
    (before : (priorityKey math (.hacs hacs) (tasks first.task) first.sequence now).le
      (priorityKey math (.hacs hacs) (tasks second.task) second.sequence now) = true)
    (differ : first.sequence ≠ second.sequence) :
    Before math hacs tasks now first second := by
  unfold priorityKey at before
  unfold Before
  dsimp only at before ⊢
  by_cases firstStarved :
      (refreshTaskMetadata math hacs (tasks first.task) now).starved = true
  · rw [if_pos firstStarved] at before ⊢
    intro secondStarved
    rw [if_pos secondStarved] at before
    exact lt_of_le_of_ne (of_decide_eq_true before) differ
  · rw [if_neg firstStarved] at before ⊢
    by_cases secondStarved :
        (refreshTaskMetadata math hacs (tasks second.task) now).starved = true
    · rw [if_pos secondStarved] at before
      cases before
    · rw [if_neg secondStarved] at before
      refine ⟨by simpa using secondStarved, ?_⟩
      rcases of_decide_eq_true before with less | ⟨same, order⟩
      · exact .inl (neg_lt_neg_iff.mp less)
      · exact .inr ⟨neg_injective same, lt_of_le_of_ne order differ⟩

/-- The entries of a task in a list. -/
def entriesOf
    (x : ℕ)
    (entries : List (QueuedTask K)) : ℕ :=
  entries.countP fun queued => queued.task = x

/-- The default configuration. -/
def defaultHacs : Hacs ℚ where
  alpha := 2
  beta := 5
  completionEmaAlpha := 1 / 5
  starvationSeconds := 600
  avgCompletionSeconds := 60
  completionSampleCount := 0
  alpha_pos := by norm_num
  beta_gt := by norm_num
  starvation_pos := by norm_num

/-- The functions at the numbers `2`, `1` and `0`, which tasks of dynamic runs do not need. -/
def constantMath : MathFunctions ℚ where
  log2 := fun _ => 1
  log := fun _ => 0
  exp := fun _ => 1

/-- A task of a dynamic run. -/
def dynamicTask : Task ℚ where
  taskKind := none
  createdTime := none
  context := ⟨.dynamic, none, none, none, none, none⟩
  queueName := none
  queueSequence := none
  queueEnteredTime := none

end Maze.Scheduler.HeterogeneousQueues
