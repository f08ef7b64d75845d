import Maze.Scheduler.QueueEntries

namespace Maze.Scheduler.TaskQueues

open Maze.Python
open Maze.Library
open Maze.Library.Transition
open Maze.Scheduler.TaskLeases (Status AttemptIdentity maxRecoveries)

/-!
# The start of a dispatch comes first

The start of a dispatch waits in the messages of the submit thread when its worker may
already have ended. Until the message has been sent the runtime is running and not
published, and nothing but the callback of that message changes it. So every outcome
that carries the identity of the dispatch is sent after the start, or the launch of the
dispatch has raised and there is no start.
-/

/-- The `start_task` message of a dispatch. -/
def startMessage (identity : DispatchIdentity) : Message :=
  ⟨.startTask, some identity⟩

/-- The runtime runs, and its start has not been published. -/
def Task.AwaitsStart (task : Task) : Prop :=
  task.status = .running ∧ task.dispatchPublished = false

namespace State

/-- The start of the dispatch has been sent, or its launch has raised. -/
def Started
    (state : State)
    (identity : DispatchIdentity) : Prop :=
  startMessage identity ∈ state.sent ∨ identity ∈ state.failedLaunches

/-- The callbacks that will publish the start of the runtime. -/
def publications
    (state : State)
    (x : ℕ) :
    ℕ :=
  (state.outboundMessages.countP fun outgoing =>
      outgoing.onSent = some (.publishDispatch x)) +
    state.callbacks.count (.publishDispatch x)

/--
Every outcome that carries the identity of a dispatch comes after the start of it, or
the launch of the dispatch has raised.
-/
def Ordered (state : State) : Prop :=
  ∀ before message after identity, state.sent = before ++ message :: after →
    message.messageType ≠ .startTask → message.identity? = some identity →
      startMessage identity ∈ before ∨ identity ∈ state.failedLaunches

/-- The starts of dispatches are announced before anything else about them. -/
structure Announced (state : State) : Prop where
  current : ∀ x task identity, state.tasks.get? x = some task →
    task.identity? = some identity → task.AwaitsStart ∨ state.Started identity
  previous : ∀ x task identity, state.tasks.get? x = some task →
    task.previousIdentity? = some identity → state.Started identity
  starting : ∀ x, 0 < state.publications x →
    ∃ task identity, state.tasks.get? x = some task ∧ task.AwaitsStart ∧
      task.identity? = some identity ∧
      (∀ outgoing ∈ state.outboundMessages,
        outgoing.onSent = some (.publishDispatch x) →
          outgoing.message = startMessage identity) ∧
      (.publishDispatch x ∈ state.callbacks → startMessage identity ∈ state.sent)
  once : ∀ x, state.publications x ≤ 1
  outcomes : ∀ outgoing ∈ state.outboundMessages, ∀ identity,
    outgoing.message.messageType ≠ .startTask →
      outgoing.message.identity? = some identity → state.Started identity
  ordered : state.Ordered

section Steps

variable {state next : State} {x : ℕ}

/-! ## Steps that announce nothing -/

/-- The runtime is as it was, or it did not await its start and has no new identity. -/
def Follows
    (state : State)
    (x : ℕ)
    (task' : Task) : Prop :=
  (task'.identity? = none ∧ task'.previousIdentity? = none) ∨
    ∃ task, state.tasks.get? x = some task ∧
      (task' = task ∨
        ¬ task.AwaitsStart ∧
          (∀ identity, task'.identity? = some identity →
            task.identity? = some identity) ∧
          ∀ identity, task'.previousIdentity? = some identity →
            task.identity? = some identity ∨ task.previousIdentity? = some identity)

/-- Nothing is sent, and what is deferred is about dispatches that have started. -/
structure Quiet (state next : State) : Prop where
  follows : ∀ x task', next.tasks.get? x = some task' → state.Follows x task'
  kept : ∀ x task, state.tasks.get? x = some task → task.AwaitsStart →
    next.tasks.get? x = some task
  sent : next.sent = state.sent
  failedLaunches : next.failedLaunches = state.failedLaunches
  deferred : ∃ more, next.outboundMessages = state.outboundMessages ++ more ∧
    ∀ outgoing ∈ more, (∀ x, outgoing.onSent ≠ some (.publishDispatch x)) ∧
      ∀ identity, outgoing.message.identity? = some identity → state.Started identity
  callbacks : ∀ x, next.callbacks.count (.publishDispatch x) =
    state.callbacks.count (.publishDispatch x)

theorem Announced.started_of_not_awaits
    {task : Task}
    {identity : DispatchIdentity}
    (announced : state.Announced)
    (found : state.tasks.get? x = some task)
    (known : task.identity? = some identity)
    (published : ¬ task.AwaitsStart) :
    state.Started identity :=
  (announced.current x task identity found known).resolve_left published

theorem Announced.of_quiet
    (announced : state.Announced)
    (quiet : Quiet state next) :
    next.Announced := by
  obtain ⟨more, outbound, about⟩ := quiet.deferred
  have started (identity : DispatchIdentity) :
      next.Started identity ↔ state.Started identity := by
    rw [Started, quiet.sent, quiet.failedLaunches, Started]
  have publications (y : ℕ) : next.publications y = state.publications y := by
    have none_ : (more.countP fun outgoing =>
        outgoing.onSent = some (.publishDispatch y)) = 0 := by
      refine List.countP_eq_zero.mpr fun outgoing inside => ?_
      simpa using (about outgoing inside).1 y
    rw [State.publications, outbound, List.countP_append, none_, quiet.callbacks,
      State.publications, add_zero]
  refine ⟨?_, ?_, ?_, ?_, ?_, ?_⟩
  · intro y task' identity found known
    rw [started]
    rcases quiet.follows y task' found with ⟨none_, _⟩ | ⟨task, before, rfl | changed⟩
    · rw [none_] at known
      cases known
    · exact announced.current y task' identity before known
    · obtain ⟨published, same, _⟩ := changed
      exact .inr (announced.started_of_not_awaits before (same identity known) published)
  · intro y task' identity found known
    rw [started]
    rcases quiet.follows y task' found with ⟨_, none_⟩ | ⟨task, before, rfl | changed⟩
    · rw [none_] at known
      cases known
    · exact announced.previous y task' identity before known
    · obtain ⟨published, _, same⟩ := changed
      rcases same identity known with here | earlier
      · exact announced.started_of_not_awaits before here published
      · exact announced.previous y task identity before earlier
  · intro y positive
    rw [publications] at positive
    obtain ⟨task, identity, found, awaits, known, messages, callbacks⟩ :=
      announced.starting y positive
    refine ⟨task, identity, quiet.kept y task found awaits, awaits, known, ?_, ?_⟩
    · intro outgoing inside publishes
      rw [outbound, List.mem_append] at inside
      rcases inside with before | new
      · exact messages outgoing before publishes
      · exact absurd publishes ((about outgoing new).1 y)
    · intro waiting
      rw [quiet.sent]
      refine callbacks (List.count_pos_iff.mp ?_)
      rw [← quiet.callbacks]
      exact List.count_pos_iff.mpr waiting
  · intro y
    rw [publications]
    exact announced.once y
  · intro outgoing inside identity outcome known
    rw [started]
    rw [outbound, List.mem_append] at inside
    rcases inside with before | new
    · exact announced.outcomes outgoing before identity outcome known
    · exact (about outgoing new).2 identity known
  · intro before message after identity split outcome known
    rw [quiet.sent] at split
    rw [quiet.failedLaunches]
    exact announced.ordered before message after identity split outcome known

/-- What leaves the runtimes and the messages alone. -/
theorem Quiet.of_same
    (tasks : next.tasks = state.tasks)
    (sent : next.sent = state.sent)
    (failedLaunches : next.failedLaunches = state.failedLaunches)
    (outbound : next.outboundMessages = state.outboundMessages)
    (callbacks : next.callbacks = state.callbacks) :
    Quiet state next where
  follows := fun y task found => .inr ⟨task, by rwa [tasks] at found, .inl rfl⟩
  kept := fun y task found _ => by rwa [tasks]
  sent := sent
  failedLaunches := failedLaunches
  deferred := ⟨[], by rw [outbound, List.append_nil], fun _ inside =>
    absurd inside List.not_mem_nil⟩
  callbacks := fun y => by rw [callbacks]

/-- A runtime that does not await its start changes and keeps its identities. -/
theorem Quiet.modifyTask
    {change : Task → Task}
    (published : ∀ task, state.tasks.get? x = some task → ¬ task.AwaitsStart)
    (identity : ∀ task, (change task).identity? = task.identity?)
    (previous : ∀ task, (change task).previousIdentity? = task.previousIdentity?) :
    Quiet state (state.modifyTask x change) where
  follows := fun y task' found => by
    simp only [State.modifyTask, Table.get?_modify] at found
    split at found
    · rename_i same
      subst same
      obtain ⟨task, before, rfl⟩ := Option.map_eq_some_iff.mp found
      refine .inr ⟨task, before, .inr ⟨published task before, ?_, ?_⟩⟩
      · intro known same
        rwa [identity] at same
      · intro known same
        rw [previous] at same
        exact .inr same
    · exact .inr ⟨task', found, .inl rfl⟩
  kept := fun y task found awaits => by
    have differ : y ≠ x := by
      rintro rfl
      exact published task found awaits
    simp [State.modifyTask, differ, found]
  sent := rfl
  failedLaunches := rfl
  deferred := ⟨[], (List.append_nil _).symm, fun _ inside =>
    absurd inside List.not_mem_nil⟩
  callbacks := fun _ => rfl

theorem Announced.setStatus
    (announced : state.Announced)
    (published : ∀ task, state.tasks.get? x = some task → ¬ task.AwaitsStart)
    (status : Status) :
    (state.setStatus x status).Announced := by
  refine announced.of_quiet (Quiet.modifyTask published ?_ ?_)
  · exact fun _ => rfl
  · exact fun _ => rfl

/-- An outcome that is deferred is about a dispatch that has started. -/
theorem Announced.defer
    (announced : state.Announced)
    {message : Message}
    {onSent : Option Callback}
    (about : ∀ identity, message.identity? = some identity → state.Started identity)
    (outcome : ∀ y, onSent ≠ some (.publishDispatch y)) :
    (state.defer message onSent).Announced := by
  refine announced.of_quiet
    { follows := fun y task found => .inr ⟨task, found, .inl rfl⟩
      kept := fun y task found _ => found
      sent := rfl
      failedLaunches := rfl
      deferred := ⟨[⟨message, onSent⟩], rfl, fun outgoing inside => ?_⟩
      callbacks := fun _ => rfl }
  obtain rfl := List.mem_singleton.mp inside
  exact ⟨outcome, about⟩

/-! ## Failures -/

/-- The message of a final failure is about a dispatch of its task that has started. -/
theorem Announced.failFinally
    (announced : state.Announced)
    {task : Task}
    (about : ∀ identity, task.identity? = some identity ∨
      task.previousIdentity? = some identity → state.Started identity)
    (error : PyDict) :
    (state.failFinally task error).Announced := by
  have cleared : ((state.removeModelWaiters task.workflowId).clearWorkflow
      task.workflowId).Announced :=
    announced.of_quiet (.of_same rfl rfl rfl rfl rfl)
  refine cleared.defer (fun identity known => about identity ?_) (by simp)
  simp only [exceptionIdentity?] at known
  split at known
  · exact .inr known
  · exact .inl known

/-- A failure of a task that does not await its start keeps the order. -/
theorem Announced.retryOrFailTask
    (announced : state.Announced)
    (published : ∀ task, state.tasks.get? x = some task → ¬ task.AwaitsStart)
    (failure : Failure) :
    (state.retryOrFailTask x failure).Announced := by
  unfold State.retryOrFailTask
  split
  · exact announced
  · rename_i task found
    have about (identity : DispatchIdentity)
        (known : task.identity? = some identity ∨
          task.previousIdentity? = some identity) :
        state.Started identity := by
      rcases known with here | earlier
      · exact announced.started_of_not_awaits found here (published task found)
      · exact announced.previous x task identity found earlier
    have marked : (state.markStopped task.workflowId).Announced :=
      announced.of_quiet (.of_same rfl rfl rfl rfl rfl)
    have unmarked : ((state.markStopped task.workflowId).unmarkStopped
        task.workflowId).Announced :=
      marked.of_quiet (.of_same rfl rfl rfl rfl rfl)
    dsimp only
    split
    · split
      · exact marked.failFinally about _
      · exact (unmarked.setStatus published .retrying).defer
          (fun identity known => about identity (.inl known)) (by simp)
      · split
        · rename_i submitted given
          split at given
          · simp only [submitRecovery, Option.ite_none_left_eq_some,
              Option.some.injEq] at given
            obtain ⟨_, rfl⟩ := given
            exact (unmarked.setStatus published .recovering).of_quiet
              (.of_same rfl rfl rfl rfl rfl)
          · cases given
        · have spent : ((state.markStopped task.workflowId).modifyTask x fun task =>
              { task with maxRetries := 0 }).Announced := by
            refine marked.of_quiet (Quiet.modifyTask published ?_ ?_)
            · exact fun _ => rfl
            · exact fun _ => rfl
          exact spent.failFinally about _
    · exact marked.failFinally about _

/-- A runtime with an entry does not await its start. -/
theorem Placed.not_awaits
    (placed : state.Placed)
    (entered : 0 < state.entries x)
    (task : Task)
    (found : state.tasks.get? x = some task) :
    ¬ task.AwaitsStart := by
  rintro ⟨running, _⟩
  have once := placed.once x
  rw [holds, running_eq found, if_pos running] at once
  omega

theorem entries_pos_of_queued (queued : x ∈ state.taskQueues) :
    0 < state.entries x := by
  have counted := List.count_pos_iff.mpr queued
  unfold entries
  omega

theorem entries_pos_of_taken (taken : x ∈ state.takenWaiters) :
    0 < state.entries x := by
  have counted := List.count_pos_iff.mpr taken
  unfold entries
  omega

theorem entries_pos_of_pending
    {recovery : PendingRecovery}
    (pending : recovery ∈ state.recoveries) :
    0 < state.entries recovery.task := by
  have counted : 0 < state.recoveries.countP fun other => other.task = recovery.task :=
    List.countP_pos_iff.mpr ⟨recovery, pending, by simp⟩
  unfold entries
  omega

theorem entries_pos_of_retry (waiting : .enqueueRetry x ∈ state.callbacks) :
    0 < state.entries x := by
  have counted := List.count_pos_iff.mpr waiting
  unfold entries retries
  omega

/-- A runtime that is published does not await its start. -/
theorem not_awaits_of_published
    {task : Task}
    (found : state.tasks.get? x = some task)
    (flag : task.dispatchPublished = true)
    (other : Task)
    (same : state.tasks.get? x = some other) :
    ¬ other.AwaitsStart := by
  obtain rfl := Option.some.inj (found.symm.trans same)
  rintro ⟨_, unpublished⟩
  rw [flag] at unpublished
  cases unpublished

/-! ## Launches -/

/-- The record of a runtime whose attempt has begun. -/
theorem get?_beginAttempt
    {task : Task}
    (found : state.tasks.get? x = some task)
    (dispatchId leaseId : Identifier) :
    (state.beginAttempt x dispatchId leaseId).tasks.get? x =
      some { task with toTaskRuntime :=
        task.toTaskRuntime.beginAttempt dispatchId leaseId } := by
  simp [State.beginAttempt, modifyTask, found]

theorem get?_beginAttempt_of_ne
    {y : ℕ}
    (differ : y ≠ x)
    (dispatchId leaseId : Identifier) :
    (state.beginAttempt x dispatchId leaseId).tasks.get? y = state.tasks.get? y := by
  simp [State.beginAttempt, modifyTask, differ]

/-- Neither callbacks nor messages publish a runtime that does not await its start. -/
theorem Announced.publications_eq_zero
    (announced : state.Announced)
    (published : ∀ task, state.tasks.get? x = some task → ¬ task.AwaitsStart) :
    state.publications x = 0 := by
  by_contra some_
  obtain ⟨task, _, found, awaits, _⟩ :=
    announced.starting x (Nat.pos_of_ne_zero some_)
  exact published task found awaits

/-- A dispatch that starts defers its start. -/
theorem Announced.start
    {task : Task}
    (announced : state.Announced)
    (found : state.tasks.get? x = some task)
    (published : ∀ task, state.tasks.get? x = some task → ¬ task.AwaitsStart)
    {named : Task}
    (same : named.toTaskRuntime = task.toTaskRuntime)
    (dispatchId leaseId : Identifier) :
    (state.runTask x named dispatchId leaseId .started).Announced := by
  let begun : Task :=
    { task with
      toTaskRuntime := task.toTaskRuntime.beginAttempt dispatchId leaseId
      status := .running
      dispatchPublished := false }
  let identity := named.nextIdentity dispatchId
  have idle := announced.publications_eq_zero published
  have here : (state.runTask x named dispatchId leaseId .started).tasks.get? x =
      some begun := by
    simp [State.runTask, State.defer, State.beginAttempt, modifyTask, found, begun]
  have others (y : ℕ) (differ : y ≠ x) :
      (state.runTask x named dispatchId leaseId .started).tasks.get? y =
        state.tasks.get? y := by
    simp [State.runTask, State.defer, State.beginAttempt, modifyTask, differ]
  have known : begun.identity? = some identity := by
    simp only [Task.identity?, begun, TaskRuntime.beginAttempt, Option.map_some, identity,
      Task.nextIdentity, same]
  have awaits : begun.AwaitsStart := ⟨rfl, rfl⟩
  have publications (y : ℕ) :
      (state.runTask x named dispatchId leaseId .started).publications y =
        state.publications y + if x = y then 1 else 0 := by
    simp only [State.runTask, State.publications, State.defer, State.beginAttempt, modifyTask,
      List.countP_append, List.countP_cons, List.countP_nil, Option.some.injEq,
      Callback.publishDispatch.injEq, decide_eq_true_eq]
    omega
  refine ⟨?_, ?_, ?_, ?_, ?_, announced.ordered⟩
  · intro y task' id found' known'
    by_cases which : y = x
    · subst which
      rw [here, Option.some.injEq] at found'
      subst found'
      exact .inl awaits
    · rw [others y which] at found'
      exact announced.current y task' id found' known'
  · intro y task' id found' known'
    by_cases which : y = x
    · subst which
      rw [here, Option.some.injEq] at found'
      subst found'
      exact announced.previous y task id found known'
    · rw [others y which] at found'
      exact announced.previous y task' id found' known'
  · intro y positive
    rw [publications] at positive
    by_cases which : y = x
    · subst which
      refine ⟨begun, identity, here, awaits, known, ?_, ?_⟩
      · intro outgoing inside publishes
        simp only [State.runTask, State.defer, List.mem_append, List.mem_singleton] at inside
        rcases inside with before | rfl
        · have none_ : (state.outboundMessages.countP fun outgoing =>
              outgoing.onSent = some (.publishDispatch y)) = 0 := by
            unfold State.publications at idle
            omega
          exact absurd publishes (by
            simpa using List.countP_eq_zero.mp none_ outgoing before)
        · rfl
      · intro waiting
        have none_ : state.callbacks.count (.publishDispatch y) = 0 := by
          unfold State.publications at idle
          omega
        exact absurd waiting (List.count_eq_zero.mp none_)
    · rw [if_neg (Ne.symm which), add_zero] at positive
      obtain ⟨task', id, found', awaits', known', messages, callbacks⟩ :=
        announced.starting y positive
      refine ⟨task', id, by rwa [others y which], awaits', known', ?_, callbacks⟩
      intro outgoing inside publishes
      simp only [State.runTask, State.defer, List.mem_append, List.mem_singleton] at inside
      rcases inside with before | rfl
      · exact messages outgoing before publishes
      · simp only [Option.some.injEq, Callback.publishDispatch.injEq] at publishes
        exact absurd publishes.symm which
  · intro y
    rw [publications]
    split
    · rename_i which
      subst which
      omega
    · exact announced.once y
  · intro outgoing inside id outcome known'
    simp only [State.runTask, State.defer, List.mem_append, List.mem_singleton] at inside
    rcases inside with before | rfl
    · exact announced.outcomes outgoing before id outcome known'
    · exact absurd rfl outcome

/-- An attempt whose launch raises is one of the launches that have failed. -/
theorem Announced.failLaunch
    {task : Task}
    (announced : state.Announced)
    (found : state.tasks.get? x = some task)
    (published : ∀ task, state.tasks.get? x = some task → ¬ task.AwaitsStart)
    {named : Task}
    (same : named.toTaskRuntime = task.toTaskRuntime)
    (dispatchId leaseId : Identifier) :
    ({ state.beginAttempt x dispatchId leaseId with
      failedLaunches :=
        named.nextIdentity dispatchId :: state.failedLaunches } : State).Announced := by
  have here := get?_beginAttempt found dispatchId leaseId
  have others (y : ℕ) (differ : y ≠ x) :
      (state.beginAttempt x dispatchId leaseId).tasks.get? y = state.tasks.get? y :=
    get?_beginAttempt_of_ne differ dispatchId leaseId
  have started {id : DispatchIdentity} (before : state.Started id) :
      ({ state.beginAttempt x dispatchId leaseId with
        failedLaunches :=
          named.nextIdentity dispatchId :: state.failedLaunches } : State).Started id :=
    before.imp (fun sent => sent) fun failed => List.mem_cons_of_mem _ failed
  have idle := announced.publications_eq_zero published
  refine ⟨?_, ?_, ?_, announced.once, ?_, ?_⟩
  · intro y task' id found' known'
    by_cases which : y = x
    · subst which
      rw [here, Option.some.injEq] at found'
      subst found'
      simp only [Task.identity?, TaskRuntime.beginAttempt, Option.map_some,
        Option.some.injEq] at known'
      subst known'
      refine .inr (.inr ?_)
      simp [Task.nextIdentity, same]
    · rw [others y which] at found'
      exact (announced.current y task' id found' known').imp (fun awaits => awaits) started
  · intro y task' id found' known'
    by_cases which : y = x
    · subst which
      rw [here, Option.some.injEq] at found'
      subst found'
      exact started (announced.previous y task id found known')
    · rw [others y which] at found'
      exact started (announced.previous y task' id found' known')
  · intro y positive
    obtain ⟨task', id, found', awaits, known', messages, callbacks⟩ :=
      announced.starting y positive
    have differ : y ≠ x := by
      rintro rfl
      exact published task' found' awaits
    exact ⟨task', id, by rwa [others y differ], awaits, known', messages, callbacks⟩
  · intro outgoing inside id outcome known'
    exact started (announced.outcomes outgoing inside id outcome known')
  · intro before message after id split outcome known'
    exact (announced.ordered before message after id split outcome known').imp
      (fun sent => sent) fun failed => List.mem_cons_of_mem _ failed

/-! ## Messages and callbacks -/

/-- A message that is sent comes after the start of the dispatch that it is about. -/
theorem Announced.send
    {outgoing : Outgoing}
    (announced : state.Announced)
    (waiting : outgoing ∈ state.outboundMessages) :
    ({ state with
      outboundMessages := state.outboundMessages.erase outgoing
      callbacks := state.callbacks ++ outgoing.onSent.toList
      sent := state.sent ++ [outgoing.message] } : State).Announced := by
  have started {id : DispatchIdentity} (before : state.Started id) :
      ({ state with
        outboundMessages := state.outboundMessages.erase outgoing
        callbacks := state.callbacks ++ outgoing.onSent.toList
        sent := state.sent ++ [outgoing.message] } : State).Started id :=
    before.imp (fun sent => List.mem_append_left _ sent) fun failed => failed
  have publications (y : ℕ) :
      ({ state with
        outboundMessages := state.outboundMessages.erase outgoing
        callbacks := state.callbacks ++ outgoing.onSent.toList
        sent := state.sent ++ [outgoing.message] } : State).publications y =
          state.publications y := by
    have split := (List.perm_cons_erase waiting).countP_eq fun outgoing =>
      outgoing.onSent = some (.publishDispatch y)
    rw [List.countP_cons] at split
    have sent : outgoing.onSent.toList.count (.publishDispatch y) =
        if outgoing.onSent = some (.publishDispatch y) then 1 else 0 := by
      cases outgoing.onSent <;> simp [List.count_singleton]
    simp only [decide_eq_true_eq] at split
    simp only [State.publications, List.count_append, sent]
    omega
  refine ⟨?_, ?_, ?_, ?_, ?_, ?_⟩
  · intro y task id found known
    exact (announced.current y task id found known).imp (fun awaits => awaits) started
  · intro y task id found known
    exact started (announced.previous y task id found known)
  · intro y positive
    rw [publications] at positive
    obtain ⟨task, id, found, awaits, known, messages, callbacks⟩ :=
      announced.starting y positive
    refine ⟨task, id, found, awaits, known, ?_, ?_⟩
    · intro other inside publishes
      exact messages other (List.mem_of_mem_erase inside) publishes
    · intro called
      rw [List.mem_append, Option.mem_toList] at called
      rcases called with before | now
      · exact List.mem_append_left _ (callbacks before)
      · refine List.mem_append_right _ (List.mem_singleton.mpr ?_)
        exact (messages outgoing waiting now).symm
  · intro y
    rw [publications]
    exact announced.once y
  · intro other inside id outcome known
    exact started (announced.outcomes other (List.mem_of_mem_erase inside) id outcome known)
  · intro before message after id split outcome known
    dsimp only at split ⊢
    rcases List.append_eq_append_iff.mp split with
      ⟨more, rfl, rest⟩ | ⟨more, sent, rest⟩
    · -- the message is the one that is sent now
      cases more with
      | nil =>
          simp only [List.nil_append, List.cons.injEq] at rest
          obtain ⟨rfl, _⟩ := rest
          rw [List.append_nil]
          exact announced.outcomes outgoing waiting id outcome known
      | cons first more =>
          simp at rest
    · cases more with
      | nil =>
          simp only [List.nil_append, List.cons.injEq] at rest
          obtain ⟨rfl, _⟩ := rest
          rw [List.append_nil] at sent
          rw [← sent]
          exact announced.outcomes outgoing waiting id outcome known
      | cons first more =>
          simp only [List.cons_append, List.cons.injEq] at rest
          obtain ⟨rfl, _⟩ := rest
          exact announced.ordered before message more id sent outcome known

/-- The callback of a start publishes a dispatch whose start has been sent. -/
theorem Announced.publish
    (announced : state.Announced)
    (waiting : .publishDispatch x ∈ state.callbacks) :
    (State.runCallback
      { state with callbacks := state.callbacks.erase (.publishDispatch x) }
      (.publishDispatch x)).Announced := by
  have counted (y : ℕ) := (List.perm_cons_erase waiting).count_eq (.publishDispatch y)
  simp only [List.count_cons, beq_iff_eq, Callback.publishDispatch.injEq] at counted
  have publications (y : ℕ) : state.publications y =
      (State.runCallback
        { state with callbacks := state.callbacks.erase (.publishDispatch x) }
        (.publishDispatch x)).publications y + if x = y then 1 else 0 := by
    have here := counted y
    simp only [State.publications, State.runCallback, modifyTask]
    omega
  have once := announced.once x
  have less := publications x
  rw [if_pos rfl] at less
  obtain ⟨task, id, found, awaits, known, _, sent⟩ := announced.starting x (by omega)
  have others (y : ℕ) (differ : y ≠ x) :
      (State.runCallback
        { state with callbacks := state.callbacks.erase (.publishDispatch x) }
        (.publishDispatch x)).tasks.get? y = state.tasks.get? y := by
    simp [State.runCallback, modifyTask, differ]
  have here : (State.runCallback
      { state with callbacks := state.callbacks.erase (.publishDispatch x) }
      (.publishDispatch x)).tasks.get? x =
        some { task with dispatchPublished := true } := by
    simp [State.runCallback, modifyTask, found]
  refine ⟨?_, ?_, ?_, ?_, announced.outcomes, announced.ordered⟩
  · intro y task' identity found' known'
    by_cases which : y = x
    · subst which
      rw [here, Option.some.injEq] at found'
      subst found'
      obtain rfl : id = identity := Option.some.inj (known.symm.trans known')
      exact .inr (.inl (sent waiting))
    · rw [others y which] at found'
      exact announced.current y task' identity found' known'
  · intro y task' identity found' known'
    by_cases which : y = x
    · subst which
      rw [here, Option.some.injEq] at found'
      subst found'
      exact announced.previous y task identity found known'
    · rw [others y which] at found'
      exact announced.previous y task' identity found' known'
  · intro y positive
    have before := publications y
    have differ : y ≠ x := by
      rintro rfl
      omega
    obtain ⟨task', identity, found', awaits', known', messages, callbacks⟩ :=
      announced.starting y (by omega)
    refine ⟨task', identity, by rwa [others y differ], awaits', known', messages, ?_⟩
    intro called
    exact callbacks (List.mem_of_mem_erase called)
  · intro y
    have before := publications y
    have most := announced.once y
    omega

/-- The callback of a retry clears an attempt that has started. -/
theorem Announced.enqueueRetry
    (announced : state.Announced)
    (published : ∀ task, state.tasks.get? x = some task → ¬ task.AwaitsStart) :
    (State.runCallback
      { state with callbacks := state.callbacks.erase (.enqueueRetry x) }
      (.enqueueRetry x)).Announced := by
  refine announced.of_quiet
    { follows := fun y task' found => ?_
      kept := fun y task found awaits => ?_
      sent := rfl
      failedLaunches := rfl
      deferred := ⟨[], (List.append_nil _).symm, fun _ inside =>
        absurd inside List.not_mem_nil⟩
      callbacks := fun y => List.count_erase_of_ne (by simp) }
  · simp only [State.runCallback, State.put, modifyTask, Table.get?_modify] at found
    split at found
    · rename_i same
      subst same
      obtain ⟨task, before, rfl⟩ := Option.map_eq_some_iff.mp found
      refine .inr ⟨task, before, .inr ⟨published task before, ?_, ?_⟩⟩
      · intro identity known
        simp [Task.identity?, TaskRuntime.clearAttemptIdentity] at known
      · intro identity known
        simp only [Task.previousIdentity?, TaskRuntime.clearAttemptIdentity] at known
        cases dispatched : task.dispatchId with
        | none =>
            rw [dispatched] at known
            exact .inr known
        | some dispatchId =>
            rw [dispatched] at known
            left
            simpa [Task.identity?, dispatched] using known
    · exact .inr ⟨task', found, .inl rfl⟩
  · have differ : y ≠ x := by
      rintro rfl
      exact published task found awaits
    simp [State.runCallback, State.put, modifyTask, differ, found]

/-! ## Steps -/

/-- A runtime that is received has no identity. -/
theorem Announced.received
    {task : Task}
    (announced : state.Announced)
    (absent : state.tasks.get? x = none)
    (dispatchId : task.dispatchId = none)
    (previous : task.previousAttemptIdentity = none) :
    ({ state with
      tasks := state.tasks.set x task
      received := state.received.set x task.maxRetries }.put x).Announced := by
  refine announced.of_quiet
    { follows := fun y task' found => ?_
      kept := fun y task' found _ => ?_
      sent := rfl
      failedLaunches := rfl
      deferred := ⟨[], (List.append_nil _).symm, fun _ inside =>
        absurd inside List.not_mem_nil⟩
      callbacks := fun _ => rfl }
  · simp only [State.put, Table.get?_set] at found
    split at found
    · cases found
      exact .inl ⟨by simp [Task.identity?, dispatchId],
        by simp [Task.previousIdentity?, previous]⟩
    · exact .inr ⟨task', found, .inl rfl⟩
  · have differ : y ≠ x := by
      rintro rfl
      rw [absent] at found
      cases found
    simp [State.put, differ, found]

/-- After its status was set to another one a runtime does not await its start. -/
theorem not_awaits_setStatus
    {status : Status}
    (other : status ≠ .running)
    (task : Task)
    (found : (state.setStatus x status).tasks.get? x = some task) :
    ¬ task.AwaitsStart := by
  simp only [State.setStatus, modifyTask, Table.get?_modify, if_true,
    Option.map_eq_some_iff] at found
  obtain ⟨_, _, rfl⟩ := found
  exact fun awaits => other awaits.1

/-- Every outcome of the launch of a head keeps the order. -/
theorem Announced.launch
    {task : Task}
    (announced : state.Announced)
    (found : state.tasks.get? x = some task)
    (published : ∀ task, state.tasks.get? x = some task → ¬ task.AwaitsStart)
    {named : Task}
    (same : named.toTaskRuntime = task.toTaskRuntime)
    (waits : task.status ≠ .running)
    (dispatchId leaseId : Identifier)
    (outcome : LaunchOutcome) :
    (state.runTask x named dispatchId leaseId outcome).Announced := by
  cases outcome with
  | started => exact announced.start found published same dispatchId leaseId
  | observerRaises failure => exact announced.retryOrFailTask published failure
  | runTaskRaises failure =>
      refine (announced.failLaunch found published same dispatchId
        leaseId).retryOrFailTask ?_ _
      intro task' here
      have begun := get?_beginAttempt found dispatchId leaseId
      rw [show _ = _ from begun] at here
      cases here
      exact fun awaits => waits awaits.1

/-- Every step announces the start of a dispatch before anything else about it. -/
theorem Announced.step
    {action : Action}
    (placed : state.Placed)
    (announced : state.Announced)
    (stepped : step? state action = some next) :
    next.Announced := by
  have readied (x : ℕ) (task : Task) (ready : state.readyTask? x = some task)
      (status : Status) : (state.setStatus x status).Announced :=
    announced.setStatus (placed.not_awaits (entries_pos_of_queued (readyTask?_spec ready).1))
      status
  have drained (recovery : PendingRecovery) :
      ({ state with recoveries := state.recoveries.erase recovery } : State).Announced :=
    announced.of_quiet (.of_same rfl rfl rfl rfl rfl)
  have left (x : ℕ) :
      ({ state with takenWaiters := state.takenWaiters.erase x } : State).Announced :=
    announced.of_quiet (.of_same rfl rfl rfl rfl rfl)
  cases becomes_of_step stepped with
  | received x task absent attempt dispatchId previous =>
      exact announced.received absent dispatchId previous
  | stopped workflowId => exact announced.of_quiet (.of_same rfl rfl rfl rfl rfl)
  | cleared workflowId => exact announced.of_quiet (.of_same rfl rfl rfl rfl rfl)
  | discarded x task queued => exact announced.of_quiet (.of_same rfl rfl rfl rfl rfl)
  | exceeded x task workflows failure ready =>
      have taken : (({ state.setStatus x .ready with
          workflows := workflows } : State).take x).Announced :=
        (readied x task ready .ready).of_quiet (.of_same rfl rfl rfl rfl rfl)
      exact taken.retryOrFailTask
        (not_awaits_setStatus (show Status.ready ≠ .running by decide)) failure
  | requeued x task ready =>
      exact (readied x task ready .ready).of_quiet (.of_same rfl rfl rfl rfl rfl)
  | waits x task ready =>
      exact (readied x task ready .pending).of_quiet (.of_same rfl rfl rfl rfl rfl)
  | superseded x task ready =>
      exact (readied x task ready .ready).of_quiet (.of_same rfl rfl rfl rfl rfl)
  | postponed x task workflows ready =>
      exact (readied x task ready .pending).of_quiet (.of_same rfl rfl rfl rfl rfl)
  | launched x task workflows dispatchId leaseId outcome ready =>
      have taken : (({ state.setStatus x .ready with
          workflows := workflows } : State).take x).Announced :=
        (readied x task ready .ready).of_quiet (.of_same rfl rfl rfl rfl rfl)
      have readied : (({ state.setStatus x .ready with
          workflows := workflows } : State).take x).tasks.get? x =
            some { task with status := .ready } := by
        simp [State.take, State.setStatus, State.modifyTask, (readyTask?_spec ready).2.1]
      exact taken.launch readied
        (not_awaits_setStatus (show Status.ready ≠ .running by decide)) rfl
        (show Status.ready ≠ .running by decide) dispatchId leaseId outcome
  | waiterTaken x waiting => exact announced.of_quiet (.of_same rfl rfl rfl rfl rfl)
  | waiterLeft x taken => exact left x
  | waiterWoken x task taken found =>
      have published := placed.not_awaits (entries_pos_of_taken taken)
      exact ((left x).setStatus published .ready).of_quiet (.of_same rfl rfl rfl rfl rfl)
  | waiterFailed x task failure taken found =>
      exact (left x).retryOrFailTask (placed.not_awaits (entries_pos_of_taken taken)) failure
  | finished x task given =>
      obtain ⟨found, flag, _⟩ := publishedTask?_spec given
      have published := not_awaits_of_published found flag
      refine (announced.setStatus published .finished).defer (fun identity known => ?_)
        (by simp)
      exact announced.started_of_not_awaits found known (published task found)
  | finishRaised x task failure given =>
      obtain ⟨found, flag, _⟩ := publishedTask?_spec given
      exact (announced.setStatus (not_awaits_of_published found flag) .finished).retryOrFailTask
        (not_awaits_setStatus (show Status.finished ≠ .running by decide)) failure
  | failed x task failure given =>
      obtain ⟨found, flag, _⟩ := publishedTask?_spec given
      exact announced.retryOrFailTask (not_awaits_of_published found flag) failure
  | drained recovery pending => exact drained recovery
  | recovered recovery task pending valid =>
      obtain ⟨found, _⟩ := recoveredTask?_spec valid
      have published := placed.not_awaits (entries_pos_of_pending pending)
      refine ((drained recovery).setStatus published .retrying).defer
        (fun identity known => ?_) (by simp)
      exact announced.started_of_not_awaits found known (published task found)
  | recoveryFailed recovery task failure pending =>
      exact (drained recovery).retryOrFailTask
        (placed.not_awaits (entries_pos_of_pending pending)) failure
  | sends outgoing waiting => exact announced.send waiting
  | calledBack callback waiting =>
      cases callback with
      | publishDispatch x => exact announced.publish waiting
      | enqueueRetry x =>
          exact announced.enqueueRetry (placed.not_awaits (entries_pos_of_retry waiting))

end Steps

end State

/-! ## Runs -/

/--
In every run an outcome that carries the identity of a dispatch is sent after the start
of that dispatch, unless the launch of the dispatch has raised.
-/
theorem start_precedes_outcomes
    {actions : List Action}
    {state : State}
    (reached : run? step? initial actions = some state) :
    state.Ordered := by
  have initially : initial.Announced :=
    { current := fun _ _ _ found => by simp [initial] at found
      previous := fun _ _ _ found => by simp [initial] at found
      starting := fun _ positive => absurd positive (lt_irrefl 0)
      once := fun _ => Nat.zero_le 1
      outcomes := fun _ inside => absurd inside List.not_mem_nil
      ordered := fun before message after _ split => by simp [initial] at split }
  have placedInitially : initial.Placed :=
    ⟨fun _ => Nat.zero_le _, fun _ _ => rfl⟩
  have preserved (state : State) (action : Action) (next : State)
      (kept : state.Placed ∧ state.Announced)
      (stepped : step? state action = some next) :
      next.Placed ∧ next.Announced :=
    ⟨kept.1.step stepped, kept.2.step kept.1 stepped⟩
  exact (run?_invariant preserved ⟨placedInitially, initially⟩ reached).2.ordered

/-- The dispatch starts, is published and finishes. -/
def finished : List Action :=
  [.receiveTask 0 someTask,
    .launch 0 someDispatch someLease .started,
    .send ⟨startMessage someIdentity, some (.publishDispatch 0)⟩,
    .callBack (.publishDispatch 0),
    .finishTask 0 .finished,
    .send ⟨⟨.finishTask, some someIdentity⟩, none⟩]

theorem finished_ordered :
    ∃ state, run? step? initial finished = some state ∧
      state.sent = [startMessage someIdentity, ⟨.finishTask, some someIdentity⟩] ∧
      state.Ordered := by
  have ran : ((run? step? initial finished).any fun state =>
      decide (state.sent =
        [startMessage someIdentity, ⟨.finishTask, some someIdentity⟩])) = true := by
    decide +kernel
  obtain ⟨state, reached, sent⟩ := (Option.any_eq_true _ _).mp ran
  exact ⟨state, reached, of_decide_eq_true sent, start_precedes_outcomes reached⟩

/-- The launch of the dispatch raises after its attempt has begun. -/
def failedLaunch : List Action :=
  [.receiveTask 0 someTask,
    .launch 0 someDispatch someLease (.runTaskRaises
      ⟨[("error_type", .str "scheduler_error"), ("retryable", .bool false)], false,
        .notApplied⟩),
    .send ⟨⟨.taskException, some someIdentity⟩, none⟩]

/-- Its exception carries the identity of the dispatch, and there is no start. -/
theorem failedLaunch_has_no_start :
    ∃ state, run? step? initial failedLaunch = some state ∧
      ⟨.taskException, some someIdentity⟩ ∈ state.sent ∧
      startMessage someIdentity ∉ state.sent := by
  have ran : ((run? step? initial failedLaunch).any fun state =>
      decide (⟨.taskException, some someIdentity⟩ ∈ state.sent ∧
        startMessage someIdentity ∉ state.sent)) = true := by
    decide +kernel
  obtain ⟨state, reached, sent⟩ := (Option.any_eq_true _ _).mp ran
  exact ⟨state, reached, of_decide_eq_true sent⟩

end Maze.Scheduler.TaskQueues
