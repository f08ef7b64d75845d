import Maze.Core.DispatchInvariant

namespace Maze.Core.WorkflowDispatch

open Maze.Python
open Maze.Library
open Maze.Library.Fallible
open Maze.Scheduler.WorkflowRegistry (Registry)

/-!
# The calls of Core keep the invariant

A call is left in a sound state however it ends: it returns, it raises, or the
process dies in the middle of it.
-/

section Calls

variable
  {uuid4 : ℕ → PyStr}
  {runId : Identifier}
  {workflowId requestId : PyStr}
  {system start : System}
  {held : HeldRun}
  {snapshot : StaticSnapshot}
  {dispatch : Dispatch}
  {error : PyVal}
  {before after : System → Prop}
  {kept : Table Identifier HeldRun → Prop}

/-- However the call ends, this holds after it. -/
abbrev Leaves
    {Value : Type}
    (before : System → Prop)
    (call : Call Value)
    (after : System → Prop) : Prop :=
  Ensures before call (fun _ => after) fun _ => after

/-- Core runs, the system is sound, and this holds of the runs in memory. -/
structure LiveWith
    (uuid4 : ℕ → PyStr)
    (kept : Table Identifier HeldRun → Prop)
    (system : System) : Prop where
  alive : system.alive = true
  sound : Sound uuid4 system
  memory : kept system.staticRuns

/-- Core runs, and the system is sound. -/
abbrev Live (uuid4 : ℕ → PyStr) : System → Prop :=
  LiveWith uuid4 fun _ => True

/-! ## Operations -/

theorem perform_ensures
    {returns : Unit → System → Prop}
    {raises : Ending → System → Prop}
    {effect : System → System}
    (outcome : Outcome)
    (returned : ∀ system, before system → returns () (effect system))
    (raised :
      ∀ ending system, before system →
        raises ending system ∧ raises ending (effect system)) :
    Ensures before (perform outcome effect) returns raises := by
  intro system holds
  cases outcome with
  | returns => exact returned system holds
  | raises took error =>
      cases took with
      | true => exact (raised (.raised error) system holds).2
      | false => exact (raised (.raised error) system holds).1
  | crashes took =>
      cases took with
      | true => exact (raised .crashed system holds).2
      | false => exact (raised .crashed system holds).1

/-- An operation that may have its effect however it ends. -/
theorem perform_keeps
    {effect : System → System}
    (outcome : Outcome)
    (keeps : ∀ system, before system → before (effect system)) :
    Leaves before (perform outcome effect) before :=
  perform_ensures outcome keeps fun _ system holds => ⟨holds, keeps system holds⟩

/-- An operation without an effect that the system sees. -/
theorem perform_id_ensures
    {raises : Ending → System → Prop}
    (outcome : Outcome)
    (raised : ∀ ending system, before system → raises ending system) :
    Ensures before (perform outcome id) (fun _ => before) raises :=
  (perform_keeps outcome fun _ => id).raising raised

theorem raise_ensures
    {Value : Type}
    {returns : Value → System → Prop}
    {raises : Ending → System → Prop}
    {exceptionType message : PyStr}
    (raised : ∀ ending system, before system → raises ending system) :
    Ensures before (raise exceptionType message) returns raises :=
  ensures_throw fun system holds => raised _ system holds

/-- A call that is logged ends as it should, or the process dies. -/
theorem logging_ensures
    {call : Call Unit}
    (ensures : Leaves before call after) :
    Leaves before (logging call) after := by
  refine ensures_tryCatch ensures fun ending => ?_
  refine ensures_ite (fun _ => ?_) fun _ => ?_
  · exact ensures_throw fun _ => id
  · exact ensures_pure fun _ => id

/-- What Core notes about its cleanups, and the logs, say nothing about soundness. -/
theorem LiveWith.note
    (live : LiveWith uuid4 kept system)
    (cleanupRequests : Table PyStr Identifier)
    (cleanupRetries : Table PyStr CleanupRetry)
    (logs : Table Identifier EventLog.Log) :
    LiveWith uuid4 kept
      { system with
        cleanupRequests := cleanupRequests
        cleanupRetries := cleanupRetries
        logs := logs } :=
  ⟨live.alive, { live.sound with }, live.memory⟩

/-! ## The store -/

/-- A run in memory may be saved. -/
theorem Sound.storable
    (sound : Sound uuid4 system)
    (found : system.staticRuns.get? runId = some held) :
    system.Storable uuid4 runId held.snapshot where
  sent there :=
    ⟨held.dispatch, rfl, fun prepared => (sound.held runId held found).unsent prepared there⟩
  digest old stored := by
    obtain ⟨snapshot, same, digest⟩ := (sound.held runId held found).stored
    obtain rfl := Option.some.inj (same.symm.trans stored)
    exact digest.symm
  drawn dispatch requestId saved named := by
    obtain rfl := Option.some.inj saved
    exact (sound.held runId held found).named requestId named

theorem LiveWith.store
    (live : LiveWith uuid4 kept system)
    (storable : system.Storable uuid4 runId snapshot) :
    LiveWith uuid4 kept (storeSnapshot runId snapshot system) :=
  ⟨live.alive, live.sound.store storable, live.memory⟩

theorem saveSnapshot_live (outcome : Outcome) :
    Leaves (fun system => LiveWith uuid4 kept system ∧ system.Storable uuid4 runId snapshot)
      (saveSnapshot runId snapshot outcome) (LiveWith uuid4 kept) :=
  perform_ensures outcome (fun _ holds => holds.1.store holds.2)
    fun _ _ holds => ⟨holds.1, holds.1.store holds.2⟩

/-- A run in memory is saved; the rest of the state stays as it is. -/
theorem persistStaticRun_here
    {returns : Unit → System → Prop}
    {raises : Ending → System → Prop}
    (outcome : Outcome)
    (found : start.staticRuns.get? runId = some held)
    (returned : returns () (storeSnapshot runId held.snapshot start))
    (raised :
      ∀ ending, raises ending start ∧
        raises ending (storeSnapshot runId held.snapshot start)) :
    Ensures (· = start) (persistStaticRun runId outcome) returns
      raises := by
  refine ensures_get ?_
  rintro system rfl
  rw [found]
  refine perform_ensures outcome ?_ ?_
  · rintro system rfl
    exact returned
  · rintro ending system rfl
    exact raised ending

/-- A run in memory is saved however that ends. -/
theorem persistStaticRun_keeps
    (outcome : Outcome)
    (saved :
      ∀ system held, before system → system.staticRuns.get? runId = some held →
        before (storeSnapshot runId held.snapshot system)) :
    Leaves before (persistStaticRun runId outcome) before := by
  intro system holds
  cases found : system.staticRuns.get? runId with
  | none =>
      refine ensures_get ?_ system rfl
      rintro system rfl
      rw [found]
      exact ensures_pure_here holds
  | some held =>
      have stored := saved system held holds found
      exact persistStaticRun_here outcome found stored (fun _ => ⟨holds, stored⟩) system rfl

theorem LiveWith.persist
    (live : LiveWith uuid4 kept system)
    (found : system.staticRuns.get? runId = some held) :
    LiveWith uuid4 kept (storeSnapshot runId held.snapshot system) :=
  live.store (live.sound.storable found)

theorem appended_ensures
    {write : LogWrite}
    {written : EventLog.Log × Except PyErr Unit}
    (noted :
      ∀ system, before system →
        after { system with logs := system.logs.set runId written.1 }) :
    Leaves before (appended runId write written) after := by
  intro system holds
  have written_ := noted system holds
  unfold appended
  dsimp only
  by_cases crashes : write.crashes = true
  · rw [if_pos crashes]
    exact written_
  · rw [if_neg crashes]
    cases written.2 with
    | ok => exact written_
    | error failure => exact written_

/-- A run gets an event; its status, its continuations and its dispatch stay. -/
theorem recordStaticEvent_ensures
    {eventType : PyStr}
    {data : PyDict}
    {write : LogWrite}
    (absent :
      ∀ system, before system → system.staticRuns.get? runId = none → after system)
    (recorded :
      ∀ system held logs, before system →
        system.staticRuns.get? runId = some held →
          after
            { system with
              staticRuns :=
                system.staticRuns.modify runId fun _ =>
                  (held.appendEvent eventType data write.timestamp).1
              logs := logs }) :
    Leaves before (recordStaticEvent runId eventType data write) after := by
  refine ensures_get fun system holds => ?_
  split
  · next missing => exact ensures_pure_here (absent system holds missing)
  · next held found =>
    refine ensures_bind ensures_modify_from fun _ => ?_
    refine appended_ensures ?_
    rintro system rfl
    exact recorded system held _ holds found

/-- A run in memory is changed. -/
theorem LiveWith.change
    {change : HeldRun → HeldRun}
    (live : Live uuid4 system)
    (found : system.staticRuns.get? runId = some held)
    (changed : system.HeldSound uuid4 runId (change held)) :
    Live uuid4 { system with staticRuns := system.staticRuns.modify runId change } :=
  ⟨live.alive, live.sound.change fun current there => by
    obtain rfl := Option.some.inj (found.symm.trans there)
    exact changed, trivial⟩

/-! ## Failed submissions -/

/-- The run may be ended: it is quiet, and nothing of it is being sent. -/
structure Endable
    (uuid4 : ℕ → PyStr)
    (runId : Identifier)
    (system : System) : Prop where
  live : Live uuid4 system
  quiet : system.Quiet runId
  closed :
    ∀ held, system.staticRuns.get? runId = some held →
      held.dispatch.status ≠ .dispatching ∧ held.dispatch.status ≠ .active

theorem Endable.revoke
    (endable : Endable uuid4 runId system)
    (stored : system.stored.get? runId ≠ none) :
    Endable uuid4 runId { system with revoked := runId :: system.revoked } :=
  ⟨⟨endable.live.alive,
      endable.live.sound.revoke stored endable.quiet endable.closed, trivial⟩,
    endable.quiet, endable.closed⟩

theorem revokeDispatchArtifacts_ensures
    (outcome : Outcome)
    (revoked :
      ∀ system, before system →
        before { system with revoked := runId :: system.revoked }) :
    Ensures before (revokeDispatchArtifacts runId dispatch outcome)
      (fun after system =>
        before system ∧ after.cleanupRequestId = dispatch.cleanupRequestId)
      fun _ => before := by
  have unchanged :
      Ensures before (pure dispatch : Call Dispatch)
        (fun after system =>
          before system ∧ after.cleanupRequestId = dispatch.cleanupRequestId)
        fun _ => before :=
    ensures_pure fun _ holds => ⟨holds, rfl⟩
  unfold revokeDispatchArtifacts
  split
  · exact unchanged
  · refine ensures_ite (fun _ => unchanged) fun _ => ?_
    refine ensures_ite (fun _ => raise_ensures fun _ _ => id) fun _ => ?_
    exact ensures_bind (perform_keeps outcome revoked) fun _ =>
      ensures_pure fun _ holds => ⟨holds, rfl⟩

/-- The end of a failed submission keeps a run in memory sound. -/
theorem Endable.failed
    (endable : Endable uuid4 runId system)
    (found : system.staticRuns.get? runId = some held)
    (same : dispatch.cleanupRequestId = held.dispatch.cleanupRequestId)
    (error : PyVal) :
    system.HeldSound uuid4 runId
      { held.withRun (held.run.markDispatchFailed error) ⟨rfl, rfl⟩ with
        dispatch := failedDispatch dispatch error } where
  stored := (endable.live.sound.held runId held found).stored
  unsent prepared := by cases prepared
  continues continues :=
    absurd ((endable.live.sound.held runId held found).idle (endable.closed held found).2)
      continues
  ended _ := ⟨rfl, endable.quiet⟩
  unrevoked underway := by rcases underway with same | same <;> cases same
  pending requestId pending := by cases pending
  named requestId named :=
    (endable.live.sound.held runId held found).named requestId (same ▸ named)

theorem recordStaticEvent_live
    {eventType : PyStr}
    {data : PyDict}
    (write : LogWrite) :
    Leaves (Live uuid4) (recordStaticEvent runId eventType data write) (Live uuid4) :=
  recordStaticEvent_ensures (fun _ live _ => live) fun _ held logs live found =>
    (live.change found { live.sound.held runId held found with }).note _ _ logs

theorem finishHeld_live (finish : Finish) :
    Leaves
      (fun system =>
        Endable uuid4 runId system ∧ system.staticRuns.get? runId = some held)
      (finishHeld runId held error finish) (Live uuid4) := by
  unfold finishHeld
  refine ensures_ite (fun _ => ensures_pure fun _ holds => holds.1.live) fun _ => ?_
  refine ensures_bind ((revokeDispatchArtifacts_ensures finish.revoke ?_).raising
    fun _ _ holds => holds.1.live) fun dispatch => ?_
  · intro system holds
    refine ⟨holds.1.revoke ?_, holds.2⟩
    obtain ⟨snapshot, stored, _⟩ := (holds.1.live.sound.held runId held holds.2).stored
    simp [stored]
  · refine ensures_via (fun _ => Live uuid4) ?_ fun _ => ?_
    · refine ensures_modify ?_
      rintro system ⟨⟨endable, found⟩, same⟩
      exact endable.live.change found (endable.failed found same error)
    · exact ensures_bind (recordStaticEvent_live finish.write) fun _ =>
        persistStaticRun_keeps finish.save fun _ _ => LiveWith.persist

theorem recordSnapshotDispatchFailure_live (finish : Finish) :
    Leaves (fun system => LiveWith uuid4 kept system ∧ system.Storable uuid4 runId snapshot)
      (recordSnapshotDispatchFailure runId snapshot error finish)
      (LiveWith uuid4 kept) := by
  refine ensures_get fun start holds => ?_
  split
  · exact ensures_throw_here holds.1
  · refine ensures_ite (fun _ => ?_) fun _ => ?_
    · exact (saveSnapshot_live finish.save).here ⟨holds.1, { holds.2 with }⟩
    · refine ensures_via
        (fun _ system =>
          LiveWith uuid4 kept system ∧ system.Storable uuid4 runId snapshot) ?_ fun _ => ?_
      · refine (appended_ensures ?_).raising fun _ _ holds => holds.1
        rintro system rfl
        exact ⟨holds.1.note _ _ _, { holds.2 with }⟩
      · exact (saveSnapshot_live finish.save).from fun system holds =>
          ⟨holds.1, { holds.2 with }⟩

theorem loadDispatch_ensures (load : Outcome) :
    Ensures before (loadDispatch runId load)
      (fun loaded system =>
        before system ∧ system.stored.get? runId = some loaded.1 ∧
          loaded.1.dispatch = some loaded.2)
      fun _ => before := by
  refine ensures_bind (perform_id_ensures load fun _ _ => id) fun _ => ?_
  refine ensures_get fun start holds => ?_
  split
  · exact ensures_throw_here holds
  · next snapshot stored =>
    split
    · exact ensures_throw_here holds
    · next dispatch saved => exact ensures_pure_here ⟨holds, stored, saved⟩

/-- The snapshot of a failed submission may replace the one that was loaded. -/
theorem Sound.storable_failed
    {loaded : Dispatch}
    (sound : Sound uuid4 system)
    (stored : system.stored.get? runId = some snapshot)
    (saved : snapshot.dispatch = some loaded)
    (same : dispatch.cleanupRequestId = loaded.cleanupRequestId)
    (error : PyVal) :
    system.Storable uuid4 runId
      (markSnapshotDispatchFailed snapshot dispatch error) where
  sent _ := ⟨failedDispatch dispatch error, rfl, fun prepared => by cases prepared⟩
  digest old there := by
    obtain rfl := Option.some.inj (stored.symm.trans there)
    rfl
  drawn _ requestId ended named := by
    obtain rfl := Option.some.inj ended
    exact sound.drawnStored runId snapshot loaded requestId stored saved (same ▸ named)

theorem finishWorkflowDispatchFailure_live (finish : Finish) :
    Leaves (Endable uuid4 runId) (finishWorkflowDispatchFailure runId error finish)
      (Live uuid4) := by
  refine ensures_get fun start endable => ?_
  split
  · next held found => exact (finishHeld_live finish).here ⟨endable, found⟩
  · refine ensures_bind (((loadDispatch_ensures finish.load).here endable).raising
      fun _ _ => Endable.live) fun loaded => ?_
    obtain ⟨snapshot, dispatch⟩ := loaded
    refine ensures_ite (fun _ => ensures_pure fun _ holds => holds.1.live) fun _ => ?_
    refine ensures_bind ((revokeDispatchArtifacts_ensures finish.revoke ?_).raising
      fun _ _ holds => holds.1.live) fun revoked => ?_
    · rintro system ⟨endable, stored, saved⟩
      exact ⟨endable.revoke (by simp [stored]), stored, saved⟩
    · refine (recordSnapshotDispatchFailure_live finish).from ?_
      rintro system ⟨⟨endable, stored, saved⟩, same⟩
      exact ⟨endable.live, endable.live.sound.storable_failed stored saved same error⟩

/-! ## Cleanup requests -/

theorem sendSchedulerMessage_ensures
    {message : Message}
    (outcome : Outcome)
    (unsent : ∀ system, before system → after system)
    (sent :
      ∀ system, before system →
        after { system with channel := system.channel ++ [message] }) :
    Leaves before (sendSchedulerMessage message outcome) after := by
  refine ensures_get fun start holds => ?_
  refine ensures_ite (fun _ => ?_) fun _ => ensures_throw_here (unsent start holds)
  refine perform_ensures outcome ?_ ?_
  · rintro system rfl
    exact sent system holds
  · rintro _ system rfl
    exact ⟨unsent system holds, sent system holds⟩

/-- The notes about cleanups are the only ones that change. -/
theorem registerWorkflowCleanup_ensures
    (noted :
      ∀ system requests retries, before system →
        before
          { system with
            cleanupRequests := requests
            cleanupRetries := retries }) :
    Leaves before (registerWorkflowCleanup runId workflowId requestId) before := by
  refine ensures_get fun start holds => ?_
  refine ensures_ite (fun _ => ensures_throw_here holds) fun _ => ?_
  refine ensures_via (fun _ => before) (ensures_modify ?_) fun _ => ?_
  · rintro system rfl
    exact noted system _ _ holds
  · split
    · exact ensures_via (fun _ => before) (ensures_modify fun system => noted system _ _)
        fun _ => ensures_pure fun _ => id
    · exact ensures_ite (fun _ => raise_ensures fun _ _ => id)
        fun _ => ensures_pure fun _ => id

theorem sendWorkflowCleanupRequest_live (request : Request) :
    Leaves (fun system => LiveWith uuid4 kept system ∧ system.Drew uuid4 requestId)
      (sendWorkflowCleanupRequest runId workflowId requestId request)
      (LiveWith uuid4 kept) := by
  let ready : System → Prop := fun system =>
    LiveWith uuid4 kept system ∧ system.Drew uuid4 requestId
  have noted :
      ∀ (system : System) requests retries, ready system →
        ready { system with cleanupRequests := requests, cleanupRetries := retries } :=
    fun system requests retries holds => ⟨holds.1.note _ _ _, holds.2⟩
  refine ensures_bind ((registerWorkflowCleanup_ensures noted).raising
    fun _ _ holds => holds.1) fun retry => ?_
  refine ensures_via (fun _ => ready)
    (ensures_modify fun system holds => noted system _ _ holds) fun _ => ?_
  refine logging_ensures (sendSchedulerMessage_ensures request.send
    (fun _ holds => holds.1) ?_)
  rintro system ⟨live, drew⟩
  refine ⟨live.alive, live.sound.send (fun _ => rfl) fun other named same => ?_,
    live.memory⟩
  obtain ⟨_, asked⟩ := Message.stopWorkflow.inj same
  obtain rfl := Option.some.inj asked
  exact drew

/-- The next request id is in no message. -/
theorem Sound.requested_next
    (sound : Sound uuid4 system)
    (distinct : Function.Injective uuid4)
    (runId : Identifier) :
    system.Requested runId (uuid4 system.drawn) := by
  have fresh : ¬ system.Drew uuid4 (uuid4 system.drawn) := by
    rintro ⟨number, below, same⟩
    exact absurd (distinct same) (Nat.ne_of_gt below)
  constructor
  · refine List.pairwise_of_forall_mem_list fun earlier inside later _ same => ?_
    subst same
    exact absurd (sound.drawnRequests runId _ inside) fresh
  · intro inside
    exact absurd (sound.drawnAnswers _ inside) fresh

/-- The call goes on with the next request id. -/
theorem ensures_drawRequestId
    {Value : Type}
    {call : PyStr → Call Value}
    {returns : Value → System → Prop}
    {raises : Ending → System → Prop}
    (ensures :
      Ensures (· = { start with drawn := start.drawn + 1 })
        (call (uuid4 start.drawn)) returns raises) :
    Ensures (· = start) (drawRequestId uuid4 >>= call) returns
      raises := by
  rintro system rfl
  exact ensures _ rfl

theorem Sound.drew_next
    (system : System) :
    System.Drew uuid4 { system with drawn := system.drawn + 1 } (uuid4 system.drawn) :=
  ⟨system.drawn, Nat.lt_succ_self _, rfl⟩

theorem LiveWith.draw
    (live : LiveWith uuid4 kept system) :
    LiveWith uuid4 kept { system with drawn := system.drawn + 1 } :=
  ⟨live.alive, live.sound.draw, live.memory⟩

/--
The dispatch is noted as pending, if it is not yet, under an id that is new; then the
request is sent.
-/
theorem requestWorkflowCleanup_live
    {keep : Dispatch → Call Unit}
    (request : Request)
    (live : LiveWith uuid4 kept start)
    (named :
      ∀ requestId, dispatch.cleanupRequestId = some requestId →
        start.Drew uuid4 requestId)
    (keeps :
      Ensures (· = { start with drawn := start.drawn + 1 })
        (keep
          { dispatch with
            status := .cleanupPending
            cleanupRequestId := some (uuid4 start.drawn)
            error := error })
        (fun _ system =>
          LiveWith uuid4 kept system ∧ system.Drew uuid4 (uuid4 start.drawn))
        fun _ => LiveWith uuid4 kept) :
    Leaves (· = start)
      (requestWorkflowCleanup uuid4 runId workflowId dispatch error keep request)
      (LiveWith uuid4 kept) := by
  refine ensures_via
    (fun (pending : Dispatch) system =>
      LiveWith uuid4 kept system ∧
        ∀ requestId, pending.cleanupRequestId = some requestId →
          system.Drew uuid4 requestId) ?_ fun pending => ?_
  · refine ensures_ite (fun _ => ensures_pure_here ⟨live, named⟩) fun _ => ?_
    refine ensures_drawRequestId (ensures_bind keeps fun _ => ?_)
    refine ensures_pure fun system holds => ⟨holds.1, fun other same => ?_⟩
    obtain rfl := Option.some.inj same
    exact holds.2
  · split
    · exact raise_ensures fun _ _ holds => holds.1
    · next requestId given =>
      refine ensures_ite (fun _ => raise_ensures fun _ _ holds => holds.1) fun _ => ?_
      exact (sendWorkflowCleanupRequest_live request).from fun system holds =>
        ⟨holds.1, holds.2 requestId given⟩

/-- The cleanup of a run in memory is noted under a new id. -/
theorem Sound.pend
    (sound : Sound uuid4 system)
    (distinct : Function.Injective uuid4)
    (found : system.staticRuns.get? runId = some held)
    (idle : held.run.finishContinuations = [])
    (error : PyVal) :
    System.HeldSound uuid4 { system with drawn := system.drawn + 1 } runId
      { held with
        dispatch :=
          { held.dispatch with
            status := .cleanupPending
            cleanupRequestId := some (uuid4 system.drawn)
            error := error } } where
  stored := (sound.held runId held found).stored
  unsent prepared := by cases prepared
  continues continues := absurd idle continues
  ended terminal := by cases terminal
  unrevoked underway := by rcases underway with same | same <;> cases same
  pending requestId _ named := by
    obtain rfl := Option.some.inj named
    exact sound.requested_next distinct runId
  named requestId named := by
    obtain rfl := Option.some.inj named
    exact Sound.drew_next system

theorem requestHeldCleanup_live
    (distinct : Function.Injective uuid4)
    (request : Request)
    (live : Live uuid4 start)
    (found : start.staticRuns.get? runId = some held)
    (idle : held.run.finishContinuations = []) :
    Leaves (· = start)
      (requestHeldCleanup uuid4 runId held error request) (Live uuid4) := by
  refine requestWorkflowCleanup_live request live
    (live.sound.held runId held found).named ?_
  let noted : System → Prop := fun system =>
    Live uuid4 system ∧ system.Drew uuid4 (uuid4 start.drawn)
  refine ensures_via (fun _ => noted) (ensures_modify ?_) fun _ => ?_
  · rintro system rfl
    exact ⟨live.draw.change found (live.sound.pend distinct found idle error),
      Sound.drew_next start⟩
  · exact (persistStaticRun_keeps request.save fun system held holds found =>
      (⟨holds.1.persist found, holds.2⟩ : noted _)).raising fun _ _ holds => holds.1

/-- The cleanup of a run in memory may be confirmed under the id. -/
def System.Confirmable
    (system : System)
    (runId : Identifier)
    (requestId : PyStr) : Prop :=
  ∀ held, system.staticRuns.get? runId = some held →
    held.dispatch.status = .cleanupPending →
      held.dispatch.cleanupRequestId = some requestId → system.Quiet runId

theorem currentDispatch_ensures (load : Outcome) :
    Ensures before (currentDispatch runId load)
      (fun dispatch system =>
        before system ∧
          ∀ held, system.staticRuns.get? runId = some held → held.dispatch = dispatch)
      fun _ => before := by
  refine ensures_get fun start holds => ?_
  split
  · next held found =>
    refine ensures_pure_here ⟨holds, fun current there => ?_⟩
    obtain rfl := Option.some.inj (found.symm.trans there)
    rfl
  · next absent =>
    let there : System → Prop := fun system =>
      before system ∧ system.staticRuns.get? runId = none
    have loads := (@loadDispatch_ensures runId there load).here ⟨holds, absent⟩
    refine ensures_bind (loads.raising fun _ _ holds => holds.1) fun loaded => ?_
    refine ensures_pure fun system holds => ⟨holds.1.1, fun current found => ?_⟩
    rw [holds.1.2] at found
    cases found

theorem clearWorkflowCleanup_live (requestId : PyStr) :
    Leaves (Live uuid4) (clearWorkflowCleanup requestId) (Live uuid4) :=
  ensures_modify fun _ live => live.note _ _ _

theorem confirmWorkflowCleanup_live (finish : Finish) :
    Leaves (fun system => Live uuid4 system ∧ system.Confirmable runId requestId)
      (confirmWorkflowCleanup runId requestId finish) (Live uuid4) := by
  refine ensures_bind ((currentDispatch_ensures finish.load).raising
    fun _ _ holds => holds.1) fun dispatch => ?_
  refine ensures_ite (fun pending => ?_) fun _ => ?_
  · refine ensures_bind ((finishWorkflowDispatchFailure_live finish).from ?_) fun _ =>
      clearWorkflowCleanup_live requestId
    rintro system ⟨⟨live, confirmable⟩, current⟩
    refine ⟨live, ?_, fun held found => ?_⟩
    · cases found : system.staticRuns.get? runId with
      | none => exact .inl (live.sound.silent_of_absent live.alive found)
      | some held =>
          obtain rfl := current held found
          exact confirmable held found pending.1 pending.2
    · obtain rfl := current held found
      rw [pending.1]
      decide
  · exact (clearWorkflowCleanup_live requestId).from fun _ holds => holds.1.1

/-- A positive answer says that the run is silent. -/
theorem Sound.confirmable
    {answer : Answer}
    (sound : Sound uuid4 system)
    (inside : answer ∈ system.answers)
    (ok : answer.ok = true) :
    system.Confirmable answer.runId answer.requestId := by
  intro held found pending named
  have requested := (sound.held answer.runId held found).pending _ pending named
  have given : ⟨answer.requestId, answer.runId, true⟩ ∈ system.answers := by
    rw [← ok]
    exact inside
  exact .inl (requested.answered given)

theorem handleWorkflowCleanupResponse_live
    {answer : Answer}
    (finish : Finish) :
    Leaves (fun system => Live uuid4 system ∧ answer ∈ system.answers)
      (handleWorkflowCleanupResponse answer finish) (Live uuid4) := by
  refine ensures_get fun start holds => ?_
  refine ensures_ite (fun _ => ensures_pure_here holds.1) fun same => ?_
  refine ensures_ite (fun ok => ?_) fun _ => ensures_pure_here holds.1
  refine (confirmWorkflowCleanup_live finish).here ⟨holds.1, ?_⟩
  rw [← not_ne_iff.mp same]
  exact holds.1.sound.confirmable holds.2 ok

/-! ## Requests without an answer -/

/-- If the run is in memory, its cleanup is pending. -/
def Waiting
    (runId : Identifier)
    (runs : Table Identifier HeldRun) : Prop :=
  ∀ held, runs.get? runId = some held → held.dispatch.status = .cleanupPending

theorem cleanupIsPending_live (load : Outcome) :
    Ensures (Live uuid4) (cleanupIsPending runId requestId load)
      (fun pending system =>
        Live uuid4 system ∧ (pending = true →
          Waiting runId system.staticRuns ∧ system.Drew uuid4 requestId))
      fun _ => Live uuid4 := by
  refine ensures_get fun start live => ?_
  split
  · next held found =>
    refine ensures_pure_here ⟨live, fun pending => ?_⟩
    simp only [Bool.and_eq_true, decide_eq_true_eq] at pending
    refine ⟨fun current there => ?_,
      (live.sound.held runId held found).named requestId pending.2⟩
    obtain rfl := Option.some.inj (found.symm.trans there)
    exact pending.1
  · next absent =>
    have unchanged : ∀ system, system = start → Live uuid4 system := by
      rintro system rfl
      exact live
    refine ensures_tryCatch
      (ensures_bind (perform_id_ensures load fun _ => unchanged) fun _ => ?_)
      fun ending => ?_
    · refine ensures_pure_here ⟨live, fun pending => ⟨fun current there => ?_, ?_⟩⟩
      · rw [absent] at there
        cases there
      · obtain ⟨dispatch, saved, same⟩ := (Option.any_eq_true _ _).mp pending
        obtain ⟨snapshot, stored, saved⟩ := Option.bind_eq_some_iff.mp saved
        simp only [Bool.and_eq_true, decide_eq_true_eq] at same
        exact live.sound.drawnStored runId snapshot dispatch requestId stored saved same.2
    · refine ensures_ite (fun _ => ensures_throw fun _ => id) fun _ => ?_
      exact ensures_pure fun _ live => ⟨live, fun pending => by cases pending⟩

theorem requestSchedulerShutdown_live (outcome : Outcome) :
    Ensures (LiveWith uuid4 kept) (requestSchedulerShutdown outcome)
      (fun _ system => LiveWith uuid4 kept system ∧ system.shutdownRequested = true)
      fun _ => LiveWith uuid4 kept := by
  refine ensures_get fun start live => ?_
  refine ensures_ite (fun requested => ensures_pure_here ⟨live, requested⟩) fun _ => ?_
  let asked : System → Prop := fun system =>
    LiveWith uuid4 kept system ∧ system.shutdownRequested = true
  refine ensures_via (fun _ => asked) (ensures_modify ?_) fun _ => ?_
  · rintro system rfl
    exact ⟨⟨live.alive, live.sound.shutdown, live.memory⟩, rfl⟩
  · have sent :
        ∀ system, asked system →
          asked { system with channel := system.channel ++ [.shutdown] } :=
      fun system holds => ⟨⟨holds.1.alive, holds.1.sound.send (fun _ => rfl)
        fun _ _ same => (by cases same), holds.1.memory⟩, holds.2⟩
    have logged := logging_ensures (sendSchedulerMessage_ensures outcome (fun _ => id) sent)
    exact logged.raising fun _ _ holds => holds.1

theorem retryWorkflowCleanup_live
    (now : Time)
    (conditions : PyStr → Retry)
    (entry : PyStr × CleanupRetry) :
    Leaves (Live uuid4) (retryWorkflowCleanup now conditions entry) (Live uuid4) := by
  obtain ⟨requestId, retry⟩ := entry
  refine ensures_bind (cleanupIsPending_live (conditions requestId).load) fun pending => ?_
  refine ensures_ite (fun _ => ?_) fun found => ?_
  · exact (clearWorkflowCleanup_live requestId).from fun _ holds => holds.1
  rw [Bool.not_eq_true', Bool.not_eq_false] at found
  refine ensures_ite (fun _ => ensures_pure fun _ holds => holds.1) fun _ => ?_
  refine ensures_ite (fun _ => ?_) fun _ => ?_
  · have told :
        Ensures (LiveWith uuid4 (Waiting retry.runId))
          (requestSchedulerShutdown (conditions requestId).shutdown) _ _ :=
      requestSchedulerShutdown_live _
    refine ensures_bind ((told.from fun system holds =>
        ⟨holds.1.alive, holds.1.sound, (holds.2 found).1⟩).raising
      fun _ _ live => ⟨live.alive, live.sound, trivial⟩) fun _ => ?_
    refine ensures_bind
      ((finishWorkflowDispatchFailure_live (conditions requestId).finish).from ?_)
      fun _ => clearWorkflowCleanup_live requestId
    rintro system ⟨live, told⟩
    refine ⟨⟨live.alive, live.sound, trivial⟩, .inr told, fun held there => ?_⟩
    rw [live.memory held there]
    decide
  · exact (sendWorkflowCleanupRequest_live (conditions requestId).request).from
      fun system holds => ⟨holds.1, (holds.2 found).2⟩

theorem retryPendingWorkflowCleanups_live
    (now : Time)
    (conditions : PyStr → Retry) :
    Leaves (Live uuid4) (retryPendingWorkflowCleanups now conditions) (Live uuid4) :=
  ensures_get fun start live =>
    (ensures_each (retryWorkflowCleanup_live now conditions)
      start.cleanupRetries.entries).here live

/-! ## Submissions -/

section Submissions

variable
  {submission : Submission}
  {status : DispatchStatus}
  {left : List TaskId}

/-- A run that is being started; these of its first tasks are left to be sent. -/
structure Starting
    (uuid4 : ℕ → PyStr)
    (submission : Submission)
    (status : DispatchStatus)
    (left : List TaskId)
    (system : System) : Prop where
  live : Live uuid4 system
  found :
    ∃ held, system.staticRuns.get? submission.runId = some held ∧
      held.dispatch.status = status ∧ held.run.finishContinuations = [] ∧
        held.submissionDigest = submission.digest
  unrevoked : submission.runId ∉ system.revoked
  unsent : ∀ taskId ∈ left, (submission.runId, taskId) ∉ system.sentRoots

/-- The start of a run has failed; no task of it has finished. -/
structure Failing
    (uuid4 : ℕ → PyStr)
    (submission : Submission)
    (system : System) : Prop where
  live : Live uuid4 system
  found :
    ∃ held, system.staticRuns.get? submission.runId = some held ∧
      held.run.finishContinuations = []

theorem Starting.failing
    (starting : Starting uuid4 submission status left system) :
    Failing uuid4 submission system := by
  obtain ⟨held, found, _, idle, _⟩ := starting.found
  exact ⟨starting.live, held, found, idle⟩

/-- Only what is found in memory matters. -/
theorem Sound.agree
    {runs : Table Identifier HeldRun}
    (sound : Sound uuid4 system)
    (same : ∀ runId, runs.get? runId = system.staticRuns.get? runId) :
    Sound uuid4 { system with staticRuns := runs } :=
  { sound with
    present := fun alive runId absent =>
      sound.present alive runId ((same runId).symm.trans absent)
    held := fun runId held found =>
      sound.held runId held ((same runId).symm.trans found) }

/-- A run that is on no disk has never been heard of. -/
theorem Sound.unknown
    (sound : Sound uuid4 system)
    (absent : system.stored.get? runId = none) :
    system.staticRuns.get? runId = none ∧ ¬ system.Sent runId ∧
      runId ∉ system.revoked := by
  refine ⟨?_, fun sent => ?_, fun revoked => (sound.revoked runId revoked).1 absent⟩
  · cases found : system.staticRuns.get? runId with
    | none => rfl
    | some held =>
        obtain ⟨snapshot, stored, _⟩ := (sound.held runId held found).stored
        rw [absent] at stored
        cases stored
  · obtain ⟨snapshot, _, stored, _⟩ := sound.sent runId sent
    rw [absent] at stored
    cases stored

/-- The first save of a run. -/
theorem Sound.register
    (sound : Sound uuid4 system)
    (absent : system.stored.get? submission.runId = none)
    (prepared : Prepared submission) :
    Sound uuid4
      (storeSnapshot submission.runId (newRun submission prepared).snapshot system) := by
  refine sound.store
    { sent := fun sent => absurd sent (sound.unknown absent).2.1
      digest := fun old stored => ?_
      drawn := fun dispatch requestId saved named => ?_ }
  · rw [absent] at stored
    cases stored
  · obtain rfl := Option.some.inj saved
    cases named

theorem newRun_sound
    (sound : Sound uuid4 system)
    (absent : system.stored.get? submission.runId = none)
    (prepared : Prepared submission) :
    System.HeldSound uuid4
      (storeSnapshot submission.runId (newRun submission prepared).snapshot system)
      submission.runId (newRun submission prepared) where
  stored := ⟨_, Table.get?_set_self _ _ _, rfl⟩
  unsent _ := (sound.unknown absent).2.1
  continues continues := absurd prepared.fresh.2 continues
  ended terminal := by cases terminal
  unrevoked underway := by rcases underway with same | same <;> cases same
  pending requestId pending := by cases pending
  named requestId named := by cases named

theorem registerRun_starting
    (prepared : Prepared submission)
    (save : Outcome) :
    Ensures
      (fun system =>
        Live uuid4 system ∧ system.stored.get? submission.runId = none)
      (registerRun submission.runId (newRun submission prepared) save)
      (fun _ => Starting uuid4 submission .prepared prepared.rootTaskIds)
      fun _ => Live uuid4 := by
  rintro start ⟨live, absent⟩
  have unknown := live.sound.unknown absent
  have released :
      ∀ runId,
        ((start.staticRuns.set submission.runId
          (newRun submission prepared)).erase submission.runId).get? runId =
          start.staticRuns.get? runId := by
    intro runId
    rw [Table.get?_erase, Table.get?_set]
    by_cases same : runId = submission.runId
    · rw [if_pos same, same, unknown.1]
    · rw [if_neg same, if_neg same]
  have registered := live.sound.register absent prepared
  have saved :
      Ensures
        (fun system =>
          system =
            { start with
              staticRuns :=
                start.staticRuns.set submission.runId (newRun submission prepared) })
        (persistStaticRun submission.runId save)
        (fun _ => Starting uuid4 submission .prepared prepared.rootTaskIds)
        fun _ system =>
          Live uuid4
            { system with staticRuns := system.staticRuns.erase submission.runId } :=
    persistStaticRun_here save (Table.get?_set_self _ _ _)
      ⟨⟨live.alive, registered.hold (newRun_sound live.sound absent prepared), trivial⟩,
        ⟨_, Table.get?_set_self _ _ _, rfl, prepared.fresh.2, rfl⟩, unknown.2.2,
        fun taskId _ inside => unknown.2.1 ⟨taskId, live.sound.roots _ inside⟩⟩
      fun _ => ⟨⟨live.alive, live.sound.agree released, trivial⟩,
        ⟨live.alive, registered.agree released, trivial⟩⟩
  refine ensures_bind ensures_modify_from (fun _ => ?_) start rfl
  refine ensures_tryCatch saved fun ending => ?_
  exact ensures_via (fun _ => Live uuid4) (ensures_modify fun _ => id) fun _ =>
    ensures_throw fun _ => id

/-- What is sent of a run is on disk already, past `prepared`. -/
def Saved
    (submission : Submission)
    (status : DispatchStatus)
    (system : System) : Prop :=
  ∃ snapshot dispatch, system.stored.get? submission.runId = some snapshot ∧
    snapshot.dispatch = some dispatch ∧ dispatch.status = status

/-- A run that is being started is changed, and its start may move on. -/
theorem Starting.change
    {next : DispatchStatus}
    {change : HeldRun → HeldRun}
    (starting : Starting uuid4 submission status left system)
    (changed :
      ∀ held, system.staticRuns.get? submission.runId = some held →
        held.dispatch.status = status → held.run.finishContinuations = [] →
          system.HeldSound uuid4 submission.runId (change held) ∧
            (change held).dispatch.status = next ∧
            (change held).run.finishContinuations = [] ∧
            (change held).submissionDigest = held.submissionDigest) :
    Starting uuid4 submission next left
      { system with
        staticRuns := system.staticRuns.modify submission.runId change } := by
  obtain ⟨held, found, reached, idle, digest⟩ := starting.found
  obtain ⟨sound, moved, still, same⟩ := changed held found reached idle
  refine ⟨starting.live.change found sound,
    ⟨change held, ?_, moved, still, same.trans digest⟩, starting.unrevoked,
    starting.unsent⟩
  rw [Table.get?_modify, if_pos rfl, found, Option.map_some]

/-- The start of a run moves on. -/
theorem updateDispatch_starting
    {next : DispatchStatus}
    {change : Dispatch → Dispatch}
    (moves : ∀ dispatch, dispatch.status = status → (change dispatch).status = next)
    (same :
      ∀ dispatch, (change dispatch).cleanupRequestId = dispatch.cleanupRequestId)
    (allowed : next = status ∨ next = .dispatching ∨ next = .active) :
    Ensures (Starting uuid4 submission status left)
      (updateDispatch submission.runId change)
      (fun _ => Starting uuid4 submission next left)
      fun _ => Failing uuid4 submission := by
  refine ensures_modify fun system starting => starting.change ?_
  intro held found reached idle
  have holds := starting.live.sound.held submission.runId held found
  have moved := moves held.dispatch reached
  have unmoved :
      ∀ {old : DispatchStatus}, old ≠ .dispatching ∧ old ≠ .active →
        (change held.dispatch).status = old → held.dispatch.status = old := by
    rintro old ⟨notDispatching, notActive⟩ current
    obtain rfl := moved.symm.trans current
    exact reached.trans (allowed.resolve_right
      (not_or.mpr ⟨notDispatching, notActive⟩)).symm
  refine ⟨?_, moved, idle, rfl⟩
  exact
    { stored := holds.stored
      unsent := fun current => holds.unsent (unmoved (by decide) current)
      continues := fun continues => absurd idle continues
      ended := fun current => holds.ended (unmoved (by decide) current)
      unrevoked := fun _ => starting.unrevoked
      pending := fun requestId current named =>
        holds.pending requestId (unmoved (by decide) current)
          (same held.dispatch ▸ named)
      named := fun requestId named =>
        holds.named requestId (same held.dispatch ▸ named) }

theorem persistStaticRun_starting (save : Outcome) :
    Ensures (Starting uuid4 submission status left)
      (persistStaticRun submission.runId save)
      (fun _ system =>
        Starting uuid4 submission status left system ∧ Saved submission status system)
      fun _ => Failing uuid4 submission := by
  intro system starting
  obtain ⟨held, found, reached, _⟩ := starting.found
  have stored :
      Starting uuid4 submission status left
        (storeSnapshot submission.runId held.snapshot system) :=
    ⟨starting.live.persist found, starting.found, starting.unrevoked, starting.unsent⟩
  exact persistStaticRun_here save found
    ⟨stored, _, held.dispatch, Table.get?_set_self _ _ _, rfl, reached⟩
    (fun _ => ⟨starting.failing, stored.failing⟩) system rfl

theorem recordStaticEvent_starting
    {eventType : PyStr}
    {data : PyDict}
    (write : LogWrite) :
    Ensures (Starting uuid4 submission status left)
      (recordStaticEvent submission.runId eventType data write)
      (fun _ => Starting uuid4 submission status left)
      fun _ => Failing uuid4 submission := by
  refine (recordStaticEvent_ensures (fun _ starting _ => starting) ?_).raising
    fun _ _ => Starting.failing
  intro system held logs starting found
  have changed :
      Starting uuid4 submission status left
        { system with
          staticRuns := system.staticRuns.modify submission.runId fun _ =>
            (held.appendEvent eventType data write.timestamp).1 } :=
    starting.change fun current there reached idle => by
      obtain rfl := Option.some.inj (found.symm.trans there)
      exact ⟨{ starting.live.sound.held _ held found with }, reached, idle, rfl⟩
  exact ⟨changed.live.note _ _ logs, changed.found, changed.unrevoked, changed.unsent⟩

theorem queueRootTask_starting
    (payloads : TaskId → Outcome)
    (taskId : TaskId) :
    Ensures (Starting uuid4 submission status left)
      (queueRootTask submission.runId payloads taskId)
      (fun _ => Starting uuid4 submission status left)
      fun _ => Failing uuid4 submission := by
  refine ensures_via (fun _ => Starting uuid4 submission status left)
    (ensures_modify fun system starting => ?_) fun _ =>
      perform_id_ensures (payloads taskId) fun _ _ => Starting.failing
  exact starting.change fun held found reached idle =>
    ⟨{ starting.live.sound.held submission.runId held found with }, reached, idle, rfl⟩

/-- One of the first tasks is sent. -/
theorem Starting.sendRoot
    {taskId : TaskId}
    (starting : Starting uuid4 submission .dispatching (taskId :: left) system)
    (saved : Saved submission .dispatching system)
    (distinct : (taskId :: left).Nodup) :
    Starting uuid4 submission .dispatching left
      { system with
        channel := system.channel ++ [.runTask submission.runId taskId]
        sentTasks := system.sentTasks ++ [(submission.runId, taskId)]
        sentRoots := system.sentRoots ++ [(submission.runId, taskId)] } := by
  obtain ⟨held, found, reached, _⟩ := starting.found
  obtain ⟨snapshot, dispatch, stored, onDisk, open_⟩ := saved
  have unsent := starting.unsent taskId List.mem_cons_self
  have once : (system.sentRoots ++ [(submission.runId, taskId)]).Nodup :=
    List.nodup_append_comm.mpr
      (List.nodup_cons.mpr ⟨unsent, starting.live.sound.rootsOnce⟩)
  have posted := starting.live.sound.sendTask found (.inl reached)
    ⟨snapshot, dispatch, stored, onDisk, by rw [open_]; decide⟩ taskId (fun _ => id) once
  refine ⟨⟨starting.live.alive, posted, trivial⟩, starting.found, starting.unrevoked, ?_⟩
  intro other inside there
  rcases List.mem_append.mp there with there | there
  · exact starting.unsent other (List.mem_cons_of_mem taskId inside) there
  · obtain ⟨_, rfl⟩ := Prod.mk.inj (List.mem_singleton.mp there)
    exact (List.nodup_cons.mp distinct).1 inside

/-- These of the first tasks are to be sent. -/
structure Sending
    (uuid4 : ℕ → PyStr)
    (submission : Submission)
    (left : List TaskId)
    (system : System) : Prop where
  starting : Starting uuid4 submission .dispatching left system
  saved : Saved submission .dispatching system
  distinct : left.Nodup

theorem sendRootTask_sending
    (sends : TaskId → Outcome)
    (taskId : TaskId) :
    Ensures (Sending uuid4 submission (taskId :: left))
      (sendRootTask submission.runId sends taskId)
      (fun _ => Sending uuid4 submission left)
      fun _ => Failing uuid4 submission := by
  refine ensures_get fun start holds => ?_
  refine ensures_ite (fun _ => ?_) fun _ => ensures_throw_here holds.starting.failing
  have sent := holds.starting.sendRoot holds.saved holds.distinct
  refine perform_ensures (sends taskId) ?_ ?_
  · rintro system rfl
    exact ⟨sent, holds.saved, (List.nodup_cons.mp holds.distinct).2⟩
  · rintro _ system rfl
    exact ⟨holds.starting.failing, sent.failing⟩

theorem dispatchRun_starting
    (prepared : Prepared submission)
    (start : Start submission) :
    Ensures (Starting uuid4 submission .prepared prepared.rootTaskIds)
      (dispatchRun submission prepared start)
      (fun _ => Starting uuid4 submission .active [])
      fun _ => Failing uuid4 submission := by
  refine ensures_bind (perform_id_ensures start.artifacts
    fun _ _ => Starting.failing) fun _ => ?_
  refine ensures_bind (ensures_each (queueRootTask_starting start.payloads)
    prepared.rootTaskIds) fun _ => ?_
  refine ensures_bind (updateDispatch_starting (fun _ same => same) (fun _ => rfl)
    (.inl rfl)) fun _ => ?_
  refine ensures_bind (persistStaticRun_starting start.readySave) fun _ => ?_
  refine ensures_bind ((recordStaticEvent_starting start.startEvent).from
    fun _ holds => holds.1) fun _ => ?_
  refine ensures_bind (updateDispatch_starting (fun _ _ => rfl) (fun _ => rfl)
    (.inr (.inl rfl))) fun _ => ?_
  refine ensures_bind (persistStaticRun_starting start.dispatchingSave) fun _ => ?_
  refine ensures_bind ((ensures_forM
    (fun taskId _ => sendRootTask_sending start.sends taskId) prepared.rootTaskIds).weaken
    (fun _ holds => ⟨holds.1, holds.2, prepared.distinct⟩) (fun _ _ => Sending.starting)
    fun _ _ => id) fun _ => ?_
  refine ensures_bind (updateDispatch_starting (fun _ _ => rfl) (fun _ => rfl)
    (.inr (.inr rfl))) fun _ => ?_
  exact (persistStaticRun_starting start.activeSave).weaken (fun _ => id)
    (fun _ _ holds => holds.1) fun _ _ => id

/-- The start that has failed is ended, or its cleanup is requested. -/
theorem failWorkflowDispatch_live
    {raised : Raised}
    (distinct : Function.Injective uuid4)
    (finish : Finish)
    (request : Request) :
    Ensures (Failing uuid4 submission)
      (failWorkflowDispatch uuid4 submission.runId raised finish request)
      (fun _ _ => False) fun _ => Live uuid4 := by
  refine ensures_get fun start failing => ?_
  split
  · exact ensures_throw_here failing.live
  · next held found =>
    obtain ⟨current, there, idle⟩ := failing.found
    obtain rfl := Option.some.inj (found.symm.trans there)
    refine ensures_via (fun _ => Live uuid4) ?_ fun _ => ensures_throw fun _ => id
    unfold abandonDispatch
    refine ensures_ite (fun prepared => ?_) fun _ =>
      requestHeldCleanup_live distinct request failing.live found idle
    have unsent := (failing.live.sound.held _ held found).unsent prepared
    refine (finishWorkflowDispatchFailure_live finish).here
      ⟨failing.live, .inl (failing.live.sound.silent_of_unsent unsent), fun other there => ?_⟩
    obtain rfl := Option.some.inj (found.symm.trans there)
    rw [prepared]
    decide

/-- The run is on disk as this submission has asked for it. -/
def Answerable
    (submission : Submission)
    (system : System) : Prop :=
  ∃ snapshot, system.stored.get? submission.runId = some snapshot ∧
    snapshot.submissionDigest = some submission.digest

theorem Starting.answerable
    (starting : Starting uuid4 submission status left system) :
    Answerable submission system := by
  obtain ⟨held, found, _, _, digest⟩ := starting.found
  rw [Answerable, ← digest]
  exact (starting.live.sound.held submission.runId held found).stored

theorem startWorkflow_live
    (distinct : Function.Injective uuid4)
    (start : Start submission) :
    Ensures
      (fun system =>
        Live uuid4 system ∧ system.stored.get? submission.runId = none)
      (startWorkflow uuid4 submission start)
      (fun _ system => Live uuid4 system ∧ Answerable submission system)
      fun _ => Live uuid4 := by
  refine ensures_get fun current holds => ?_
  refine ensures_ite (fun _ => ?_) fun _ => ensures_throw_here holds.1
  split
  · exact ensures_throw_here holds.1
  · next prepared _ =>
    refine ensures_bind ((registerRun_starting prepared start.firstSave).here holds)
      fun _ => ?_
    refine ensures_tryCatch ((dispatchRun_starting prepared start).weaken
      (fun _ => id) (fun _ _ starting => ⟨starting.live, starting.answerable⟩)
      fun _ _ => id) fun ending => ?_
    split
    · exact (failWorkflowDispatch_live distinct start.finish start.request).weaken
        (fun _ => id) (fun _ _ never => never.elim) fun _ _ => id
    · exact ensures_throw fun _ => Failing.live

theorem accept_live :
    Leaves (fun system => Live uuid4 system ∧ Answerable submission system)
      (accept submission) (Live uuid4) :=
  ensures_modify fun _ holds => ⟨holds.1.alive, holds.1.sound.accept holds.2, trivial⟩

theorem runWorkflow_live
    (distinct : Function.Injective uuid4)
    (start : Start submission) :
    Leaves (Live uuid4) (runWorkflow uuid4 submission start) (Live uuid4) := by
  refine ensures_get fun current live => ?_
  split
  · next existing stored =>
    have unchanged : ∀ system, system = current → Live uuid4 system := by
      rintro system rfl
      exact live
    refine ensures_bind (perform_id_ensures start.load fun _ => unchanged) fun _ => ?_
    exact ensures_ite (fun same => accept_live.here ⟨live, existing, stored, same⟩)
      fun _ => ensures_throw unchanged
  · next absent =>
    exact ensures_bind ((startWorkflow_live distinct start).here ⟨live, absent⟩)
      fun _ => accept_live

end Submissions

/-! ## The exit of the scheduler -/

theorem pendCleanup_live
    {reason : Raised}
    (distinct : Function.Injective uuid4)
    (request : Request)
    (live : Live uuid4 start)
    (found : start.staticRuns.get? runId = some held)
    (idle : held.run.finishContinuations = []) :
    Leaves (· = start) (pendCleanup uuid4 runId held reason request)
      (Live uuid4) := by
  refine ensures_ite (fun _ => ?_) fun _ =>
    requestHeldCleanup_live distinct request live found idle
  split
  · exact ensures_throw_here live
  · refine ensures_ite (fun _ => ensures_throw_here live) fun _ => ?_
    have noted :
        ∀ (system : System) requests retries, Live uuid4 system →
          Live uuid4
            { system with cleanupRequests := requests, cleanupRetries := retries } :=
      fun _ _ _ live => live.note _ _ _
    exact ensures_bind ((registerWorkflowCleanup_ensures noted).here live) fun _ =>
      ensures_pure fun _ => id

theorem confirmCleaned_live (finish : Finish) :
    Leaves (Live uuid4) (confirmCleaned runId finish) (Live uuid4) := by
  refine ensures_get fun start live => ?_
  refine ensures_ite (fun cleaned => ?_) fun _ => ensures_pure_here live
  split
  · exact ensures_pure_here live
  · exact (confirmWorkflowCleanup_live finish).here
      ⟨live, fun _ _ _ _ => .inl (live.sound.silent_of_cleaned cleaned runId)⟩

/-- A run whose dispatch requires cleanup has nothing more to send. -/
theorem Sound.idle_of_requiresCleanup
    (sound : Sound uuid4 system)
    (found : system.staticRuns.get? runId = some held)
    (requires : held.requiresCleanup = true) :
    held.run.finishContinuations = [] := by
  refine (sound.held runId held found).idle fun active => ?_
  rw [HeldRun.requiresCleanup, active] at requires
  cases requires

theorem handleSchedulerExit_live
    {reason : Raised}
    (distinct : Function.Injective uuid4)
    (request : Request)
    (finish : Finish) :
    Leaves (Live uuid4) (handleSchedulerExit uuid4 runId reason request finish)
      (Live uuid4) := by
  refine ensures_get fun start live => ?_
  split
  · exact ensures_pure_here live
  · next held found =>
    refine ensures_ite (fun requires => ?_) fun _ => ensures_pure_here live
    exact ensures_bind (pendCleanup_live distinct request live found
      (live.sound.idle_of_requiresCleanup found requires)) fun _ => confirmCleaned_live finish

/-! ## Restarts -/

/-- The recovery of a run does not touch its dispatch. -/
theorem recoverRun_dispatch
    (files : StaticRecovery.RunFiles)
    (attempt : StaticRecovery.Attempt) :
    (StaticRecovery.recoverRun files attempt).1.snapshot.dispatch =
        files.snapshot.dispatch ∧
      (StaticRecovery.recoverRun files attempt).1.snapshot.submissionDigest =
        files.snapshot.submissionDigest := by
  have saved :
      ∀ eventCount lastEventSeq,
        let after :=
          attempt.save.stored files.snapshot
            (StaticRecovery.interruptSnapshot files.snapshot eventCount lastEventSeq)
        after.dispatch = files.snapshot.dispatch ∧
          after.submissionDigest = files.snapshot.submissionDigest := by
    intro eventCount lastEventSeq
    cases attempt.save <;> exact ⟨rfl, rfl⟩
  unfold StaticRecovery.recoverRun
  split
  · exact ⟨rfl, rfl⟩
  split
  · exact ⟨rfl, rfl⟩
  split
  · exact ⟨rfl, rfl⟩
  split
  · split <;> exact ⟨rfl, rfl⟩
  unfold StaticRecovery.interruptRun
  split
  · exact saved _ _
  dsimp only
  split
  · exact ⟨rfl, rfl⟩
  · exact saved _ _

theorem recoverInterruptedRun_sound
    (conditions : Identifier → Recovery)
    (runId : Identifier) :
    Leaves (Sound uuid4) (recoverInterruptedRun conditions runId) (Sound uuid4) := by
  intro system sound
  unfold recoverInterruptedRun
  cases stored : system.stored.get? runId with
  | none => exact sound
  | some snapshot =>
      dsimp only
      have same := recoverRun_dispatch ⟨snapshot, (system.log runId).file⟩
        (conditions runId).attempt
      generalize StaticRecovery.recoverRun ⟨snapshot, (system.log runId).file⟩
        (conditions runId).attempt = recovered at same
      have storable : system.Storable uuid4 runId recovered.1.snapshot :=
        { sent := fun sent => by
            obtain ⟨old, dispatch, there, saved, unprepared⟩ := sound.sent runId sent
            obtain rfl := Option.some.inj (stored.symm.trans there)
            exact ⟨dispatch, same.1.trans saved, unprepared⟩
          digest := fun old there => by
            obtain rfl := Option.some.inj (stored.symm.trans there)
            exact same.2
          drawn := fun dispatch requestId saved named =>
            sound.drawnStored runId snapshot dispatch requestId stored
              (same.1.symm.trans saved) named }
      have kept : Sound uuid4
          { system with
            stored := system.stored.set runId recovered.1.snapshot
            logs := system.logs.set runId ⟨recovered.1.log, none⟩ } :=
        { sound.store storable with }
      cases recovered.2 with
      | ok => exact kept
      | error failure => exact kept

/-- No run is in memory. -/
def Unloaded (runs : Table Identifier HeldRun) : Prop :=
  ∀ runId, runs.get? runId = none

/-- What is noted about a dispatch that is on disk may be saved. -/
theorem System.storable_pending
    (stored : system.stored.get? runId = some snapshot)
    (dispatch : Dispatch)
    (error : PyVal) :
    System.Storable uuid4 { system with drawn := system.drawn + 1 } runId
      { snapshot with
        dispatch :=
          some
            { dispatch with
              status := .cleanupPending
              cleanupRequestId := some (uuid4 system.drawn)
              error := error } } where
  sent _ := ⟨_, rfl, fun prepared => by cases prepared⟩
  digest old there := by
    obtain rfl := Option.some.inj (stored.symm.trans there)
    rfl
  drawn pending requestId saved named := by
    obtain rfl := Option.some.inj saved
    obtain rfl := Option.some.inj named
    exact Sound.drew_next system

theorem requestWorkflowCleanup_saved
    (live : LiveWith uuid4 kept start)
    (stored : start.stored.get? runId = some snapshot)
    (saved : snapshot.dispatch = some dispatch)
    (request : Request) :
    Leaves (· = start)
      (requestWorkflowCleanup uuid4 runId snapshot.workflowId dispatch error
        (keepSnapshot runId snapshot request.save) request) (LiveWith uuid4 kept) := by
  have noted := live.draw.store (System.storable_pending stored dispatch error)
  refine requestWorkflowCleanup_live request live
    (fun requestId named =>
      live.sound.drawnStored runId snapshot dispatch requestId stored saved named)
    (perform_ensures request.save ?_ ?_)
  · rintro system rfl
    exact ⟨noted, Sound.drew_next start⟩
  · rintro _ system rfl
    exact ⟨live.draw, noted⟩

theorem recoverDispatch_live
    (conditions : Identifier → Recovery)
    (runId : Identifier) :
    Leaves (LiveWith uuid4 Unloaded) (recoverDispatch uuid4 conditions runId)
      (LiveWith uuid4 Unloaded) := by
  refine ensures_get fun start live => ?_
  split
  · exact ensures_pure_here live
  next snapshot stored =>
    split
    · exact ensures_pure_here live
    next dispatch saved =>
      dsimp only
      cases status : dispatch.status with
      | active => exact ensures_pure_here live
      | terminal => exact ensures_pure_here live
      | prepared =>
          let loaded : System → Prop := fun system =>
            LiveWith uuid4 Unloaded system ∧ system.stored.get? runId = some snapshot
          have revokes : ∀ system, loaded system →
              loaded { system with revoked := runId :: system.revoked } := by
            rintro system ⟨live, stored⟩
            have silent := live.sound.silent_of_absent live.alive (live.memory runId)
            refine ⟨⟨live.alive, live.sound.revoke (by simp [stored]) (.inl silent) ?_,
              live.memory⟩, stored⟩
            intro held found
            rw [live.memory runId] at found
            cases found
          refine ensures_bind (((revokeDispatchArtifacts_ensures
            (conditions runId).finish.revoke revokes).here ⟨live, stored⟩).raising
            fun _ _ holds => holds.1) fun revoked => ?_
          refine (recordSnapshotDispatchFailure_live (conditions runId).finish).from ?_
          rintro system ⟨⟨live, stored⟩, same⟩
          exact ⟨live, live.sound.storable_failed stored saved same _⟩
      | dispatching => exact requestWorkflowCleanup_saved live stored saved _
      | cleanupPending => exact requestWorkflowCleanup_saved live stored saved _

theorem restart_ensures
    (listed : List Identifier)
    (conditions : Identifier → Recovery) :
    Leaves (Sound uuid4) (restart uuid4 listed conditions) (Sound uuid4) := by
  refine ensures_bind (ensures_each (recoverInterruptedRun_sound conditions) listed)
    fun _ => ?_
  refine ensures_via (fun _ => LiveWith uuid4 Unloaded) (ensures_modify ?_) fun _ => ?_
  · exact fun system sound => ⟨rfl, sound.start, fun _ => rfl⟩
  · exact (ensures_each (recoverDispatch_live conditions) listed).weaken
      (fun _ => id) (fun _ _ => LiveWith.sound) fun _ _ => LiveWith.sound

end Calls

end Maze.Core.WorkflowDispatch
