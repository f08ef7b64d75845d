import Maze.Core.WorkflowDispatch

namespace Maze.Core.WorkflowDispatch

open Maze.Python
open Maze.Library
open Maze.Library.Transition
open Maze.Library.Fallible
open Maze.Scheduler.WorkflowRegistry (Registry)

/-!
# What holds of a dispatch

A run whose artifacts are revoked is silent: the scheduler holds no task of it and
will get none. That is known from the order of the messages. The request to stop a
run comes after every task that has been sent of it, and its id is new, so an answer
with that id says that the scheduler has taken all of them before it ended the run.
-/

section Safety

variable {uuid4 : ℕ → PyStr} {system : System} {runId : Identifier}

/-! ## The invariant -/

/-- The scheduler holds no task of the run and will hold none. -/
structure Silent
    (registry : Registry)
    (channel : List Message)
    (rayCleaned : Bool)
    (runId : Identifier) : Prop where
  unregistered : ∀ taskId, (runId, taskId) ∉ registry.registered
  final :
    rayCleaned = true ∨
      ((∀ message ∈ channel, message.starts runId = false) ∧
        (runId ∈ registry.stopped ∨ runId ∉ registry.heard))

/-- An answer to the request says that the run is silent. -/
structure Requested
    (channel : List Message)
    (answers : List Answer)
    (silent : Prop)
    (runId : Identifier)
    (requestId : PyStr) : Prop where
  ordered :
    channel.Pairwise fun earlier later =>
      earlier = .stopWorkflow runId (some requestId) → later.starts runId = false
  answered : ⟨requestId, runId, true⟩ ∈ answers → silent

/-- What holds of a run in memory, by what is on disk and at the scheduler. -/
structure HeldSound
    (stored : Option StaticSnapshot)
    (sent quiet revoked : Prop)
    (requested drawn : PyStr → Prop)
    (held : HeldRun) : Prop where
  stored :
    ∃ snapshot, stored = some snapshot ∧
      snapshot.submissionDigest = some held.submissionDigest
  unsent : held.dispatch.status = .prepared → ¬ sent
  continues :
    held.run.finishContinuations ≠ [] → held.dispatch.status = .active ∧ sent
  ended : held.dispatch.status = .terminal → held.run.isTerminal = true ∧ quiet
  unrevoked :
    held.dispatch.status = .dispatching ∨ held.dispatch.status = .active → ¬ revoked
  pending :
    ∀ requestId, held.dispatch.status = .cleanupPending →
      held.dispatch.cleanupRequestId = some requestId → requested requestId
  named :
    ∀ requestId, held.dispatch.cleanupRequestId = some requestId → drawn requestId

/-- Only a run that is under way has more to send. -/
theorem HeldSound.idle
    {stored : Option StaticSnapshot}
    {sent quiet revoked : Prop}
    {requested drawn : PyStr → Prop}
    {held : HeldRun}
    (sound : HeldSound stored sent quiet revoked requested drawn held)
    (inactive : held.dispatch.status ≠ .active) :
    held.run.finishContinuations = [] := by
  by_contra continues
  exact inactive (sound.continues continues).1

namespace System

/-- Some task of the run has been sent to a scheduler. -/
def Sent
    (system : System)
    (runId : Identifier) : Prop :=
  ∃ taskId, (runId, taskId) ∈ system.sentTasks

@[inherit_doc WorkflowDispatch.Silent]
def Silent
    (system : System)
    (runId : Identifier) : Prop :=
  WorkflowDispatch.Silent system.registry system.channel system.rayCleaned runId

/-- The run is silent, or the scheduler is told to shut down. -/
def Quiet
    (system : System)
    (runId : Identifier) : Prop :=
  system.Silent runId ∨ system.shutdownRequested = true

@[inherit_doc WorkflowDispatch.Requested]
def Requested
    (system : System)
    (runId : Identifier)
    (requestId : PyStr) : Prop :=
  WorkflowDispatch.Requested system.channel system.answers (system.Silent runId)
    runId requestId

/-- The request id has been drawn. -/
def Drew
    (uuid4 : ℕ → PyStr)
    (system : System)
    (requestId : PyStr) : Prop :=
  ∃ number < system.drawn, requestId = uuid4 number

/-- What holds of a run in memory. -/
def HeldSound
    (uuid4 : ℕ → PyStr)
    (system : System)
    (runId : Identifier)
    (held : HeldRun) : Prop :=
  WorkflowDispatch.HeldSound (system.stored.get? runId) (system.Sent runId)
    (system.Quiet runId) (runId ∈ system.revoked) (system.Requested runId)
    (system.Drew uuid4) held

end System

/-- The invariant of the system. -/
structure Sound
    (uuid4 : ℕ → PyStr)
    (system : System) : Prop where
  cleaned : system.rayCleaned = true → system.registry.registered = []
  registered : ∀ task ∈ system.registry.registered, task.1 ∈ system.registry.heard
  heard : ∀ runId ∈ system.registry.heard, system.Sent runId
  coming :
    ∀ runId, ∀ message ∈ system.channel, message.starts runId = true →
      system.Sent runId
  present :
    system.alive = true →
      ∀ runId, system.staticRuns.get? runId = none →
        runId ∉ system.registry.heard ∧
          ∀ message ∈ system.channel, message.starts runId = false
  drawnRequests :
    ∀ runId requestId, .stopWorkflow runId (some requestId) ∈ system.channel →
      system.Drew uuid4 requestId
  drawnAnswers : ∀ answer ∈ system.answers, system.Drew uuid4 answer.requestId
  drawnStored :
    ∀ runId snapshot dispatch requestId,
      system.stored.get? runId = some snapshot → snapshot.dispatch = some dispatch →
        dispatch.cleanupRequestId = some requestId → system.Drew uuid4 requestId
  roots : ∀ root ∈ system.sentRoots, root ∈ system.sentTasks
  rootsOnce : system.sentRoots.Nodup
  sent :
    ∀ runId, system.Sent runId →
      ∃ snapshot dispatch, system.stored.get? runId = some snapshot ∧
        snapshot.dispatch = some dispatch ∧ dispatch.status ≠ .prepared
  accepted :
    ∀ submission ∈ system.accepted,
      ∃ snapshot, system.stored.get? submission.1 = some snapshot ∧
        snapshot.submissionDigest = some submission.2
  revoked :
    ∀ runId ∈ system.revoked,
      system.stored.get? runId ≠ none ∧ system.Quiet runId
  held :
    ∀ runId held, system.staticRuns.get? runId = some held →
      system.HeldSound uuid4 runId held

theorem sound_initial : Sound uuid4 .initial where
  cleaned _ := rfl
  registered task inside := by cases inside
  heard runId inside := by cases inside
  coming runId message inside := by cases inside
  present alive := by cases alive
  drawnRequests runId requestId inside := by cases inside
  drawnAnswers answer inside := by cases inside
  drawnStored runId snapshot dispatch requestId stored := by cases stored
  roots root inside := by cases inside
  rootsOnce := List.nodup_nil
  sent runId sent := sent.elim fun _ inside => absurd inside List.not_mem_nil
  accepted submission inside := by cases inside
  revoked runId inside := by cases inside
  held runId held found := by cases found

/-! ## Runs that are silent -/

variable
  {registry : Registry}
  {rayCleaned : Bool}
  {message : Message}
  {rest : List Message}

/-- Fewer tasks, fewer messages and more marks keep a run silent. -/
theorem Silent.shrink
    {before after : Registry}
    {channel : List Message}
    (silent : Silent before channel rayCleaned runId)
    (registered : ∀ task ∈ after.registered, task ∈ before.registered)
    (messages : ∀ message ∈ rest, message ∈ channel)
    (stopped : ∀ other ∈ before.stopped, other ∈ after.stopped)
    (heard : after.heard = before.heard) :
    Silent after rest rayCleaned runId where
  unregistered taskId inside :=
    silent.unregistered taskId (registered _ inside)
  final := by
    refine silent.final.imp id ?_
    rintro ⟨coming, known⟩
    refine ⟨fun message inside => coming message (messages message inside), ?_⟩
    rw [heard]
    exact known.imp (stopped runId) id

/-- A run whose workflow has ended is silent if no task of it is on the way. -/
theorem silent_of_ended
    {channel : List Message}
    (coming : ∀ message ∈ channel, message.starts runId = false) :
    Silent (registry.endWorkflow runId) channel rayCleaned runId where
  unregistered :=
    (Scheduler.WorkflowRegistry.ended_endWorkflow registry runId).unregistered
  final :=
    .inr ⟨coming,
      .inl (Scheduler.WorkflowRegistry.ended_endWorkflow registry runId).stopped⟩

/-- A run of which a task has been received. -/
def hears
    (registry : Registry)
    (runId : Identifier) :
    Registry :=
  { registry with heard := runId :: registry.heard }

theorem Silent.hear
    {runId other : Identifier}
    (silent : Silent registry (message :: rest) rayCleaned runId)
    (starts : message.starts other = true) :
    Silent (hears registry other) rest rayCleaned runId where
  unregistered := silent.unregistered
  final := by
    refine silent.final.imp id ?_
    rintro ⟨coming, known⟩
    refine ⟨fun later inside => coming later (List.mem_cons_of_mem message inside),
      known.imp id fun unheard inside => ?_⟩
    rcases List.mem_cons.mp inside with same | inside
    · have absent := coming message List.mem_cons_self
      rw [same, starts] at absent
      cases absent
    · exact unheard inside

theorem mem_answerTo
    {requestId : Option PyStr}
    {ok : Bool}
    {answer : Answer}
    (inside : answer ∈ answerTo runId requestId ok) :
    requestId = some answer.requestId ∧ answer.runId = runId ∧ answer.ok = ok := by
  cases requestId with
  | none => simp [answerTo] at inside
  | some requestId =>
      obtain rfl := List.mem_singleton.mp inside
      exact ⟨rfl, rfl, rfl⟩

theorem System.Drew.later
    {requestId : PyStr}
    (drew : system.Drew uuid4 requestId) :
    System.Drew uuid4 { system with drawn := system.drawn + 1 } requestId := by
  obtain ⟨number, below, same⟩ := drew
  exact ⟨number, Nat.lt_succ_of_lt below, same⟩

variable (sound : Sound uuid4 system)
include sound

theorem Sound.silent_of_unsent
    (unsent : ¬ system.Sent runId) :
    system.Silent runId where
  unregistered _ inside :=
    unsent (sound.heard runId (sound.registered _ inside))
  final :=
    .inr ⟨fun message inside =>
        Bool.eq_false_iff.mpr fun starts =>
          unsent (sound.coming runId message inside starts),
      .inr fun inside => unsent (sound.heard runId inside)⟩

theorem Sound.silent_of_absent
    (alive : system.alive = true)
    (absent : system.staticRuns.get? runId = none) :
    system.Silent runId := by
  obtain ⟨unheard, coming⟩ := sound.present alive runId absent
  exact ⟨fun taskId inside => unheard (sound.registered _ inside),
    .inr ⟨coming, .inr unheard⟩⟩

theorem Sound.silent_of_cleaned
    (cleaned : system.rayCleaned = true)
    (runId : Identifier) :
    system.Silent runId :=
  ⟨fun _ inside => by simp [sound.cleaned cleaned] at inside, .inl cleaned⟩

/-! ## Elementary changes -/

/-- A run is put into memory, or replaced there. -/
theorem Sound.hold
    {held : HeldRun}
    (holds : system.HeldSound uuid4 runId held) :
    Sound uuid4
      { system with staticRuns := system.staticRuns.set runId held } :=
  { sound with
    present := fun alive other absent => by
      rw [Table.get?_set] at absent
      split at absent
      · cases absent
      · exact sound.present alive other absent
    held := fun other current found => by
      rw [Table.get?_set] at found
      split at found
      · next same =>
        subst same
        obtain rfl := Option.some.inj found
        exact holds
      · exact sound.held other current found }

/-- A run in memory is changed. -/
theorem Sound.change
    {change : HeldRun → HeldRun}
    (holds :
      ∀ held, system.staticRuns.get? runId = some held →
        system.HeldSound uuid4 runId (change held)) :
    Sound uuid4
      { system with staticRuns := system.staticRuns.modify runId change } :=
  { sound with
    present := fun alive other absent => by
      refine sound.present alive other ?_
      rw [Table.get?_modify] at absent
      split at absent
      · exact Option.map_eq_none_iff.mp absent
      · exact absent
    held := fun other current found => by
      rw [Table.get?_modify] at found
      split at found
      · next same =>
        subst same
        obtain ⟨before, there, rfl⟩ := Option.map_eq_some_iff.mp found
        exact holds before there
      · exact sound.held other current found }

/-- What a snapshot must say to be saved. -/
structure System.Storable
    (uuid4 : ℕ → PyStr)
    (system : System)
    (runId : Identifier)
    (snapshot : StaticSnapshot) : Prop where
  sent :
    system.Sent runId →
      ∃ dispatch, snapshot.dispatch = some dispatch ∧ dispatch.status ≠ .prepared
  digest :
    ∀ old, system.stored.get? runId = some old →
      snapshot.submissionDigest = old.submissionDigest
  drawn :
    ∀ dispatch requestId, snapshot.dispatch = some dispatch →
      dispatch.cleanupRequestId = some requestId → system.Drew uuid4 requestId

/-- A snapshot is saved. -/
theorem Sound.store
    {snapshot : StaticSnapshot}
    (storable : system.Storable uuid4 runId snapshot) :
    Sound uuid4 (storeSnapshot runId snapshot system) :=
  { sound with
    drawnStored := fun other current dispatch requestId found saved named => by
      simp only [storeSnapshot, Table.get?_set] at found
      split at found
      · obtain rfl := Option.some.inj found
        exact storable.drawn dispatch requestId saved named
      · exact sound.drawnStored other current dispatch requestId found saved named
    sent := fun other there => by
      simp only [storeSnapshot, Table.get?_set]
      split
      · next same =>
        subst same
        obtain ⟨dispatch, found, unprepared⟩ := storable.sent there
        exact ⟨snapshot, dispatch, rfl, found, unprepared⟩
      · exact sound.sent other there
    accepted := fun submission inside => by
      obtain ⟨old, found, same⟩ := sound.accepted submission inside
      simp only [storeSnapshot, Table.get?_set]
      split
      · next here =>
        exact ⟨snapshot, rfl, (storable.digest old (here ▸ found)).trans same⟩
      · exact ⟨old, found, same⟩
    revoked := fun other inside => by
      refine ⟨?_, (sound.revoked other inside).2⟩
      simp only [storeSnapshot, Table.get?_set]
      split
      · simp
      · exact (sound.revoked other inside).1
    held := fun other held found => by
      have holds := sound.held other held found
      refine { holds with stored := ?_ }
      obtain ⟨old, there, same⟩ := holds.stored
      simp only [storeSnapshot, Table.get?_set]
      split
      · next here =>
        exact ⟨snapshot, rfl, (storable.digest old (here ▸ there)).trans same⟩
      · exact ⟨old, there, same⟩ }

/-- The capabilities of a run that is silent are revoked. -/
theorem Sound.revoke
    (stored : system.stored.get? runId ≠ none)
    (quiet : system.Quiet runId)
    (closed :
      ∀ held, system.staticRuns.get? runId = some held →
        held.dispatch.status ≠ .dispatching ∧ held.dispatch.status ≠ .active) :
    Sound uuid4 { system with revoked := runId :: system.revoked } :=
  { sound with
    revoked := List.forall_mem_cons.mpr ⟨⟨stored, quiet⟩, sound.revoked⟩
    held := fun other held found => by
      have holds := sound.held other held found
      refine { holds with unrevoked := fun open_ inside => ?_ }
      rcases List.mem_cons.mp inside with same | inside
      · subst same
        rcases open_ with dispatching | active
        · exact (closed held found).1 dispatching
        · exact (closed held found).2 active
      · exact holds.unrevoked open_ inside }

/-- The scheduler is told to shut down. -/
theorem Sound.shutdown :
    Sound uuid4 { system with shutdownRequested := true } :=
  { sound with
    revoked := fun runId inside => ⟨(sound.revoked runId inside).1, .inr rfl⟩
    held := fun runId held found =>
      { sound.held runId held found with
        ended := fun terminal =>
          ⟨((sound.held runId held found).ended terminal).1, .inr rfl⟩ } }

/-- A request id is drawn. -/
theorem Sound.draw :
    Sound uuid4 { system with drawn := system.drawn + 1 } :=
  { sound with
    drawnRequests := fun runId requestId inside =>
      (sound.drawnRequests runId requestId inside).later
    drawnAnswers := fun answer inside => (sound.drawnAnswers answer inside).later
    drawnStored := fun runId snapshot dispatch requestId stored saved named =>
      (sound.drawnStored runId snapshot dispatch requestId stored saved named).later
    held := fun runId held found =>
      { sound.held runId held found with
        named := fun requestId named =>
          ((sound.held runId held found).named requestId named).later } }

/-- A submission is answered with its run id. -/
theorem Sound.accept
    {submission : Submission}
    (stored :
      ∃ snapshot, system.stored.get? submission.runId = some snapshot ∧
        snapshot.submissionDigest = some submission.digest) :
    Sound uuid4
      { system with
        accepted := system.accepted ++ [(submission.runId, submission.digest)] } :=
  { sound with
    accepted := List.forall_mem_append.mpr
      ⟨sound.accepted, List.forall_mem_singleton.mpr stored⟩ }

/-! ## Messages -/

/-- A message is sent; the runs of the tasks that it brings are under way. -/
theorem Sound.post
    {tasks roots : List (Identifier × TaskId)}
    (brings :
      ∀ name, message.starts name = true → ∃ taskId, (name, taskId) ∈ tasks)
    (drawn :
      ∀ name requestId, message = .stopWorkflow name (some requestId) →
        system.Drew uuid4 requestId)
    (underway :
      ∀ name taskId, (name, taskId) ∈ tasks →
        (∃ held, system.staticRuns.get? name = some held ∧
            (held.dispatch.status = .dispatching ∨ held.dispatch.status = .active)) ∧
          ∃ snapshot dispatch, system.stored.get? name = some snapshot ∧
            snapshot.dispatch = some dispatch ∧ dispatch.status ≠ .prepared)
    (brought : ∀ root ∈ roots, root ∈ tasks)
    (once : (system.sentRoots ++ roots).Nodup) :
    Sound uuid4
      { system with
        channel := system.channel ++ [message]
        sentTasks := system.sentTasks ++ tasks
        sentRoots := system.sentRoots ++ roots } := by
  let after : System :=
    { system with
      channel := system.channel ++ [message]
      sentTasks := system.sentTasks ++ tasks
      sentRoots := system.sentRoots ++ roots }
  have sent :
      ∀ name, after.Sent name ↔
        (∃ taskId, (name, taskId) ∈ tasks) ∨ system.Sent name := by
    intro name
    simp only [after, System.Sent, List.mem_append, exists_or, or_comm]
  have plain :
      ∀ name, (¬ ∃ taskId, (name, taskId) ∈ tasks) → message.starts name = false :=
    fun name none_ => Bool.eq_false_iff.mpr fun starts => none_ (brings name starts)
  have silent :
      ∀ name, (¬ ∃ taskId, (name, taskId) ∈ tasks) → system.Silent name →
        after.Silent name := by
    refine fun name none_ silent =>
      ⟨silent.unregistered, silent.final.imp id fun known => ⟨?_, known.2⟩⟩
    exact List.forall_mem_append.mpr
      ⟨known.1, List.forall_mem_singleton.mpr (plain name none_)⟩
  refine
    { sound with
      heard := fun name inside => (sent name).mpr (.inr (sound.heard name inside))
      coming := ?_
      present := ?_
      drawnRequests := ?_
      roots := ?_
      rootsOnce := once
      sent := ?_
      revoked := ?_
      held := ?_ }
  · intro name other inside starts
    rcases List.mem_append.mp inside with inside | inside
    · exact (sent name).mpr (.inr (sound.coming name other inside starts))
    · obtain rfl := List.mem_singleton.mp inside
      exact (sent name).mpr (.inl (brings name starts))
  · intro alive name missing
    obtain ⟨unheard, coming⟩ := sound.present alive name missing
    refine ⟨unheard, List.forall_mem_append.mpr
      ⟨coming, List.forall_mem_singleton.mpr (plain name ?_)⟩⟩
    rintro ⟨taskId, inside⟩
    obtain ⟨⟨held, found, _⟩, _⟩ := underway name taskId inside
    rw [found] at missing
    cases missing
  · intro name requestId inside
    rcases List.mem_append.mp inside with inside | inside
    · exact sound.drawnRequests name requestId inside
    · exact drawn name requestId (List.mem_singleton.mp inside).symm
  · intro root inside
    exact List.mem_append.mpr
      ((List.mem_append.mp inside).imp (sound.roots root) (brought root))
  · intro name there
    rcases (sent name).mp there with ⟨taskId, inside⟩ | there
    · exact (underway name taskId inside).2
    · exact sound.sent name there
  · intro name inside
    refine (sound.revoked name inside).imp id (Or.imp (silent name ?_) id)
    rintro ⟨taskId, there⟩
    obtain ⟨⟨held, found, open_⟩, _⟩ := underway name taskId there
    exact (sound.held name held found).unrevoked open_ inside
  · intro name current there
    have holds := sound.held name current there
    have continues :=
      fun more => (holds.continues more).imp id fun before => (sent name).mpr (.inr before)
    by_cases now : ∃ taskId, (name, taskId) ∈ tasks
    · obtain ⟨taskId, inside⟩ := now
      obtain ⟨⟨held, found, open_⟩, _⟩ := underway name taskId inside
      obtain rfl := Option.some.inj (found.symm.trans there)
      exact
        { holds with
          unsent := fun same => by simp [same] at open_
          continues := continues
          ended := fun same => by simp [same] at open_
          pending := fun _ same => by simp [same] at open_ }
    · refine
        { holds with
          unsent := fun prepared before =>
            ((sent name).mp before).elim now (holds.unsent prepared)
          continues := continues
          ended := fun terminal => (holds.ended terminal).imp id (Or.imp (silent name now) id)
          pending := fun requestId pending named => ?_ }
      have requested := holds.pending requestId pending named
      refine
        { ordered := List.pairwise_append.mpr
            ⟨requested.ordered, List.pairwise_singleton _ _, ?_⟩
          answered := fun inside => silent name now (requested.answered inside) }
      intro earlier _ later inside _
      obtain rfl := List.mem_singleton.mp inside
      exact plain name now

/-- A message is sent that brings no task. -/
theorem Sound.send
    (plain : ∀ name, message.starts name = false)
    (drawn :
      ∀ name requestId, message = .stopWorkflow name (some requestId) →
        system.Drew uuid4 requestId) :
    Sound uuid4 { system with channel := system.channel ++ [message] } := by
  have none_ : ∀ root ∈ ([] : List (Identifier × TaskId)), root ∈ [] := fun _ => id
  have posted := sound.post (fun name starts => by simp [plain name] at starts) drawn
    (fun _ _ inside => by cases inside) none_
    (by rw [List.append_nil]; exact sound.rootsOnce)
  simp only [List.append_nil] at posted
  exact posted

/-- A task of a run is sent whose dispatch is under way or has ended well. -/
theorem Sound.sendTask
    {held : HeldRun}
    {roots : List (Identifier × TaskId)}
    (found : system.staticRuns.get? runId = some held)
    (open_ : held.dispatch.status = .dispatching ∨ held.dispatch.status = .active)
    (saved :
      ∃ snapshot dispatch, system.stored.get? runId = some snapshot ∧
        snapshot.dispatch = some dispatch ∧ dispatch.status ≠ .prepared)
    (taskId : TaskId)
    (named : ∀ root ∈ roots, root ∈ [(runId, taskId)])
    (once : (system.sentRoots ++ roots).Nodup) :
    Sound uuid4
      { system with
        channel := system.channel ++ [.runTask runId taskId]
        sentTasks := system.sentTasks ++ [(runId, taskId)]
        sentRoots := system.sentRoots ++ roots } := by
  refine sound.post (fun name starts => ⟨taskId, ?_⟩)
    (fun name requestId same => by cases same) (fun name other inside => ?_) named once
  · rw [← of_decide_eq_true starts]
    exact List.mem_cons_self
  · obtain ⟨rfl, _⟩ := Prod.mk.inj (List.mem_singleton.mp inside)
    exact ⟨⟨held, found, open_⟩, saved⟩

/-! ## The scheduler -/

/-- What the scheduler may make of its registry when it has taken some messages. -/
structure System.Advances
    (system : System)
    (registry : Registry)
    (rest : List Message) : Prop where
  cleaned : system.rayCleaned = true → registry.registered = []
  registered : ∀ task ∈ registry.registered, task.1 ∈ registry.heard
  heard : ∀ name ∈ registry.heard, system.Sent name
  known :
    ∀ name ∈ registry.heard,
      name ∈ system.registry.heard ∨
        ∃ message ∈ system.channel, message.starts name = true
  suffix : ∃ taken, system.channel = taken ++ rest
  silent :
    ∀ name, system.Silent name →
      WorkflowDispatch.Silent registry rest system.rayCleaned name

/-- The scheduler answers positively only for a run that is silent then. -/
theorem Sound.schedule
    {answers : List Answer}
    (advances : system.Advances registry rest)
    (drawn : ∀ answer ∈ answers, system.Drew uuid4 answer.requestId)
    (answered :
      ∀ name requestId,
        (system.channel.Pairwise fun earlier later =>
            earlier = .stopWorkflow name (some requestId) →
              later.starts name = false) →
          ⟨requestId, name, true⟩ ∈ answers →
            Silent registry rest system.rayCleaned name) :
    Sound uuid4
      { system with
        channel := rest
        registry := registry
        answers := system.answers ++ answers } := by
  obtain ⟨taken, channel⟩ := advances.suffix
  have later : ∀ message ∈ rest, message ∈ system.channel := by
    intro message inside
    rw [channel]
    exact List.mem_append_right taken inside
  have quiet :
      ∀ name, system.Quiet name →
        System.Quiet
          { system with
            channel := rest
            registry := registry
            answers := system.answers ++ answers }
          name :=
    fun name => Or.imp (advances.silent name) id
  exact
    { sound with
      cleaned := advances.cleaned
      registered := advances.registered
      heard := advances.heard
      coming := fun name message inside =>
        sound.coming name message (later message inside)
      present := fun alive name missing => by
        obtain ⟨unheard, coming⟩ := sound.present alive name missing
        refine ⟨fun inside => ?_, fun message inside =>
          coming message (later message inside)⟩
        rcases advances.known name inside with inside | ⟨message, inside, starts⟩
        · exact unheard inside
        · rw [coming message inside] at starts
          cases starts
      drawnRequests := fun name requestId inside =>
        sound.drawnRequests name requestId (later _ inside)
      drawnAnswers := List.forall_mem_append.mpr ⟨sound.drawnAnswers, drawn⟩
      revoked := fun name inside => (sound.revoked name inside).imp id (quiet name)
      held := fun name held found =>
        { sound.held name held found with
          ended := fun terminal =>
            ((sound.held name held found).ended terminal).imp id (quiet name)
          pending := fun requestId pending named => by
            have requested :=
              (sound.held name held found).pending requestId pending named
            refine
              { ordered := ?_
                answered := fun inside => ?_ }
            · have ordered := requested.ordered
              rw [channel] at ordered
              exact (List.pairwise_append.mp ordered).2.1
            · rcases List.mem_append.mp inside with inside | inside
              · exact advances.silent name (requested.answered inside)
              · exact answered name requestId requested.ordered inside } }

/-- The scheduler does something and answers nothing. -/
theorem Sound.scheduleQuietly
    (advances : system.Advances registry rest) :
    Sound uuid4 { system with channel := rest, registry := registry } := by
  have none_ : ∀ answer ∈ ([] : List Answer), system.Drew uuid4 answer.requestId :=
    fun answer inside => absurd inside List.not_mem_nil
  have kept := sound.schedule advances none_
    fun name requestId _ inside => absurd inside List.not_mem_nil
  rw [List.append_nil] at kept
  exact kept

/-- The scheduler takes messages and leaves its registry as it is. -/
theorem Sound.advances
    {taken : List Message}
    (channel : system.channel = taken ++ rest) :
    system.Advances system.registry rest where
  cleaned := sound.cleaned
  registered := sound.registered
  heard := sound.heard
  known _ := .inl
  suffix := ⟨taken, channel⟩
  silent name silent := by
    refine silent.shrink (fun _ => id) (fun message inside => ?_) (fun _ => id) rfl
    rw [channel]
    exact List.mem_append_right taken inside

omit sound in
/-- It may forget tasks and mark workflows. -/
theorem System.Advances.shrink
    {after : Registry}
    (advances : system.Advances registry rest)
    (registered : ∀ task ∈ after.registered, task ∈ registry.registered)
    (stopped : ∀ name ∈ registry.stopped, name ∈ after.stopped)
    (heard : after.heard = registry.heard) :
    system.Advances after rest where
  cleaned cleaned := by
    rw [advances.cleaned cleaned] at registered
    exact List.eq_nil_iff_forall_not_mem.mpr fun task inside =>
      List.not_mem_nil (registered task inside)
  registered task inside := by
    rw [heard]
    exact advances.registered task (registered task inside)
  heard := by rw [heard]; exact advances.heard
  known := by rw [heard]; exact advances.known
  suffix := advances.suffix
  silent name silent :=
    (advances.silent name silent).shrink registered (fun _ => id) stopped heard

omit sound in
theorem System.Advances.endWorkflow
    (advances : system.Advances registry rest)
    (runId : Identifier) :
    system.Advances (registry.endWorkflow runId) rest :=
  advances.shrink (fun _ => List.mem_of_mem_filter)
    (fun _ => List.mem_cons_of_mem runId) rfl

/-- The scheduler hears of the run whose task it takes. -/
theorem Sound.advances_hears
    (channel : system.channel = message :: rest)
    (starts : message.starts runId = true) :
    system.Advances (hears system.registry runId) rest := by
  have first : message ∈ system.channel := by
    rw [channel]
    exact List.mem_cons_self
  have started := sound.coming runId message first starts
  exact
    { cleaned := sound.cleaned
      registered := fun task inside =>
        List.mem_cons_of_mem runId (sound.registered task inside)
      heard := List.forall_mem_cons.mpr ⟨started, sound.heard⟩
      known := List.forall_mem_cons.mpr
        ⟨.inr ⟨message, first, starts⟩, fun _ => .inl⟩
      suffix := ⟨[message], channel⟩
      silent := fun other silent => by
        rw [System.Silent, channel] at silent
        exact silent.hear starts }

/-- The scheduler takes the next message. -/
theorem Sound.receive
    (channel : system.channel = message :: rest)
    (delivery : Delivery) :
    Sound uuid4
      (receive delivery message { system with channel := rest }) := by
  have taken : system.channel = [message] ++ rest := channel
  have advances := sound.advances taken
  have ends :
      ∀ runId answers,
        (∀ answer ∈ answers, system.Drew uuid4 answer.requestId) →
          (∀ answer ∈ answers, answer.ok = true →
            answer.runId = runId ∧
              message = .stopWorkflow runId (some answer.requestId)) →
            Sound uuid4
              { system with
                channel := rest
                registry := system.registry.endWorkflow runId
                answers := system.answers ++ answers } := by
    intro runId answers drawn positive
    refine sound.schedule (advances.endWorkflow runId) drawn ?_
    intro other requestId ordered inside
    obtain ⟨rfl, stops⟩ := positive _ inside rfl
    rw [channel, List.pairwise_cons] at ordered
    exact silent_of_ended fun later there => ordered.1 later there stops
  cases message with
  | runTask runId taskId =>
      have hearing := sound.advances_hears channel (decide_eq_true rfl)
      unfold WorkflowDispatch.receive
      dsimp only
      split
      · exact sound.scheduleQuietly advances
      · cases delivery with
        | accepted => exact sound.scheduleQuietly hearing
        | failed cleared => exact sound.scheduleQuietly (hearing.endWorkflow runId)
  | stopWorkflow runId requestId =>
      have drawn :
          ∀ ok, ∀ answer ∈ answerTo runId requestId ok,
            system.Drew uuid4 answer.requestId := by
        intro ok answer inside
        refine sound.drawnRequests runId answer.requestId ?_
        rw [channel, ← (mem_answerTo inside).1]
        exact List.mem_cons_self
      cases delivery with
      | accepted =>
          refine ends runId (answerTo runId requestId true) (drawn true) ?_
          intro answer inside _
          obtain ⟨named, same, _⟩ := mem_answerTo inside
          exact ⟨same, by rw [named]⟩
      | failed cleared =>
          have refused :
              ∀ answer ∈ answerTo runId requestId false, ¬ answer.ok = true := by
            intro answer inside
            simp [(mem_answerTo inside).2.2]
          cases cleared with
          | true =>
              exact ends runId (answerTo runId requestId false) (drawn false)
                fun answer inside ok => absurd ok (refused answer inside)
          | false =>
              have marked : system.Advances (system.registry.markStopped runId) rest :=
                advances.shrink (fun _ => id) (fun _ => List.mem_cons_of_mem runId) rfl
              exact sound.schedule marked (drawn false)
                fun other requestId _ inside => absurd rfl (refused _ inside)
  | clearWorkflow runId => exact sound.scheduleQuietly (advances.endWorkflow runId)
  | shutdown => exact { sound.scheduleQuietly advances with }

/-- The scheduler does something by itself, unless it has been cleaned up. -/
theorem Sound.advance
    {action : Scheduler.WorkflowRegistry.Action}
    (running : system.rayCleaned = false)
    (owned : ∀ runId, action ≠ .receive runId)
    (stepped :
      Scheduler.WorkflowRegistry.step? system.registry action = some registry) :
    Sound uuid4 { system with registry := registry } := by
  have nothing : system.channel = [] ++ system.channel := rfl
  have advances := sound.advances nothing
  have cleaned : system.rayCleaned = true → registry.registered = [] := by
    rw [running]
    intro cleaned
    cases cleaned
  refine sound.scheduleQuietly ?_
  cases action with
  | receive runId => exact absurd rfl (owned runId)
  | register other taskId =>
      obtain ⟨⟨there, unmarked⟩, ⟨⟩⟩ := Option.ite_none_right_eq_some.mp stepped
      refine
        { advances with
          cleaned := cleaned
          registered := List.forall_mem_cons.mpr ⟨there, sound.registered⟩
          silent := fun runId silent => ⟨fun wanted inside => ?_, silent.final⟩ }
      rcases List.mem_cons.mp inside with same | inside
      · obtain ⟨rfl, _⟩ := Prod.mk.inj same
        obtain ⟨_, known⟩ := silent.final.resolve_left (by simp [running])
        exact known.elim unmarked fun unheard => unheard there
      · exact silent.unregistered wanted inside
  | retry other taskId =>
      obtain ⟨there, ⟨⟩⟩ := Option.ite_none_right_eq_some.mp stepped
      refine
        { advances with
          cleaned := cleaned
          silent := fun runId silent => ⟨silent.unregistered, silent.final.imp id
            fun known => known.imp id (Or.imp (fun inside => ?_) id)⟩ }
      refine List.mem_filter.mpr ⟨inside, decide_eq_true ?_⟩
      rintro rfl
      exact silent.unregistered taskId there
  | endWorkflow other =>
      obtain rfl := Option.some.inj stepped
      exact advances.endWorkflow other

/-- What the scheduler has left behind is gone. -/
theorem Sound.clean :
    Sound uuid4
      { system with
        registry := { system.registry with registered := [] }
        rayCleaned := true } := by
  have silent :
      ∀ runId, WorkflowDispatch.Silent
        { system.registry with registered := [] } system.channel true runId :=
    fun runId => ⟨fun taskId => List.not_mem_nil, .inl rfl⟩
  exact
    { sound with
      cleaned := fun _ => rfl
      registered := fun task inside => by cases inside
      revoked := fun runId inside =>
        ⟨(sound.revoked runId inside).1, .inl (silent runId)⟩
      held := fun runId held found =>
        { sound.held runId held found with
          ended := fun terminal =>
            ⟨((sound.held runId held found).ended terminal).1, .inl (silent runId)⟩
          pending := fun requestId pending named =>
            { (sound.held runId held found).pending requestId pending named with
              answered := fun _ => silent runId } } }

/-! ## Restarts -/

/-- Core's process dies. -/
theorem Sound.crash :
    Sound uuid4 system.crash :=
  { sound with
    present := fun alive => by cases alive
    held := fun runId held found => by simp [System.crash] at found }

/-- A new process of Core and a new scheduler. -/
theorem Sound.start :
    Sound uuid4 system.start := by
  have silent : ∀ runId, system.start.Silent runId := fun runId =>
    ⟨fun taskId => List.not_mem_nil,
      .inr ⟨fun _ inside => (by cases inside), .inr List.not_mem_nil⟩⟩
  exact
    { sound with
      cleaned := fun _ => rfl
      registered := fun task inside => by cases inside
      heard := fun runId inside => by cases inside
      coming := fun runId message inside => by cases inside
      present := fun _ runId _ =>
        ⟨List.not_mem_nil, fun message inside => by cases inside⟩
      drawnRequests := fun runId requestId inside => by cases inside
      drawnAnswers := fun answer inside => by cases inside
      revoked := fun runId inside =>
        ⟨(sound.revoked runId inside).1, .inl (silent runId)⟩
      held := fun runId held found => by simp [System.start] at found }

end Safety

end Maze.Core.WorkflowDispatch
