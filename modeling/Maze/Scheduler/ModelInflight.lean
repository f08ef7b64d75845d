import Maze.Scheduler.ModelIndexes

namespace Maze.Scheduler.ModelInstances

open Maze.Python
open Maze.Library
open Maze.Library.Transition

/-!
# Requests in flight

A routed request holds its route until it is released, and the instance counts it.
A release names the instance alone, so it also reaches an instance that has been
started again under the same id since the request was routed.
-/

/-- The requests that an instance counts as in flight. -/
def Instance.inflight (inst : Instance) : ℕ :=
  (inst.metadata.map InstanceMetadata.inflightRequests).getD 0

/-- The requests that have been routed to a generation and not released. -/
def outstanding
    (routed : List ModelRoute)
    (instanceId generationId : PyStr) :
    ℕ :=
  routed.countP fun route =>
    route.instanceId = instanceId && route.generationId = generationId

/-- The manager with the routes that are held and the generations that were drawn. -/
structure Traffic where
  manager : LlmInstanceManager
  routed : List ModelRoute
  generations : List PyStr

namespace Traffic

/-! ## Steps -/

/-- The calls that neither route nor release nor register. -/
def isOther : ModelInstances.Action → Bool
  | .routeModelRequest _ _ | .releaseModelRoute _ _
  | .registerStartingInstance _ _ _ _ => false
  | _ => true

/-- What can happen; the id of a new generation is drawn at random. -/
inductive Action where
  | route (request : ModelRequest) (now : ℚ)
  | release (route : ModelRoute) (now : ℚ)
  | register (instanceId : PyStr) (key : ModelKey) (generationId : PyStr) (gpuMem : ℚ)
  | call (action : ModelInstances.Action)

/-- One step; a route is released once. -/
def step?
    (fingerprint : PyVal → PyVal → PyStr)
    (state : Traffic) :
    Action → Option Traffic
  | .route request now =>
      let result := state.manager.routeModelRequest fingerprint request now
      some { state with
        manager := result.2
        routed := state.routed ++ result.1.toList }
  | .release route now =>
      if route ∈ state.routed then
        some { state with
          manager := state.manager.releaseModelRoute route.instanceId now
          routed := state.routed.erase route }
      else
        none
  | .register instanceId key generationId gpuMem =>
      if generationId ∈ state.generations then
        none
      else
        (state.manager.registerStartingInstance? instanceId key generationId
          gpuMem).map fun manager =>
            { state with
              manager
              generations := generationId :: state.generations }
  | .call action =>
      if isOther action = true then
        (ModelInstances.step? fingerprint state.manager action).map fun manager =>
          { state with manager }
      else
        none

/-- A manager before its first request. -/
def initial
    (maxRequestsPerInstance : ℤ)
    (scaleOutThreshold : Double)
    (idleScaleInSeconds : ℚ) :
    Traffic where
  manager := LlmInstanceManager.initial maxRequestsPerInstance scaleOutThreshold
    idleScaleInSeconds
  routed := []
  generations := []

/-! ## What a step keeps -/

/-- Every instance counts the requests of its generation that are not released. -/
def Accounted (state : Traffic) : Prop :=
  ∀ instanceId inst, state.manager.instances.get? instanceId = some inst →
    inst.inflight = outstanding state.routed instanceId inst.generationId

/--
After the step the counts are right; a route has raised a count to the admission
limit at most, and a release for an earlier generation has changed no count.
-/
def Kept
    (fingerprint : PyVal → PyVal → PyStr)
    (before : Traffic)
    (action : Action) : Prop :=
  ∀ next, step? fingerprint before action = some next →
    next.Accounted ∧
      (∀ request now, action = .route request now →
        ∀ instanceId inst inst',
          before.manager.instances.get? instanceId = some inst →
          next.manager.instances.get? instanceId = some inst' →
          inst'.inflight = inst.inflight ∨
            ∃ metadata, inst.metadata = some metadata ∧
              inst'.inflight ≤ metadata.admissionLimit) ∧
      ∀ route now, action = .release route now →
        ∀ inst inst',
          before.manager.instances.get? route.instanceId = some inst →
          next.manager.instances.get? route.instanceId = some inst' →
          inst.generationId ≠ route.generationId →
          inst'.inflight = inst.inflight

/-- A release finds the generation of its route, an idle instance or none. -/
def Timely
    (before : Traffic)
    (action : Action) : Prop :=
  match action with
  | .release route _ =>
      ∀ inst, before.manager.instances.get? route.instanceId = some inst →
        inst.generationId = route.generationId ∨ inst.inflight = 0
  | _ => True

/-! ## Calls that leave the counts alone -/

/-- Every instance was there before with the same generation and the same count. -/
def SameCounts (manager next : LlmInstanceManager) : Prop :=
  ∀ instanceId inst', next.instances.get? instanceId = some inst' →
    ∃ inst, manager.instances.get? instanceId = some inst ∧
      inst'.generationId = inst.generationId ∧ inst'.inflight = inst.inflight

namespace SameCounts

variable {manager next : LlmInstanceManager}

theorem of_same (same : next.instances = manager.instances) :
    SameCounts manager next := by
  intro instanceId inst' found
  rw [same] at found
  exact ⟨inst', found, rfl, rfl⟩

/-- One instance is changed, and keeps its generation and its count. -/
theorem of_change
    (instanceId : PyStr)
    (change : Instance → Instance)
    (generation : ∀ inst, (change inst).generationId = inst.generationId)
    (counted : ∀ inst, (change inst).inflight = inst.inflight)
    (changed : ∀ wanted, next.instances.get? wanted =
      if wanted = instanceId then (manager.instances.get? wanted).map change
      else manager.instances.get? wanted) :
    SameCounts manager next := by
  intro wanted inst' found
  rw [changed] at found
  split at found
  · obtain ⟨inst, before, rfl⟩ := Option.map_eq_some_iff.mp found
    exact ⟨inst, before, generation inst, counted inst⟩
  · exact ⟨inst', found, rfl, rfl⟩

theorem leaveRouting
    (instanceId : PyStr)
    (state : InstanceState) :
    SameCounts manager (manager.leaveRouting instanceId state) :=
  of_change instanceId (fun inst => { inst with state := state })
    (fun _ => rfl) (fun _ => rfl) fun wanted => by simp

theorem setState
    (instanceId : PyStr)
    (state : InstanceState) :
    SameCounts manager (manager.setState instanceId state) :=
  of_change instanceId (fun inst => { inst with state := state })
    (fun _ => rfl) (fun _ => rfl) fun wanted => by
      simp [LlmInstanceManager.setState]

theorem modifyMetadata
    (instanceId : PyStr)
    {change : InstanceMetadata → InstanceMetadata}
    (counted : ∀ metadata,
      (change metadata).inflightRequests = metadata.inflightRequests) :
    SameCounts manager (manager.modifyMetadata instanceId change) :=
  of_change instanceId (fun inst => { inst with metadata := inst.metadata.map change })
    (fun _ => rfl)
    (fun inst => by
      cases known : inst.metadata with
      | none => simp [Instance.inflight, known]
      | some metadata => simp [Instance.inflight, known, counted])
    fun wanted => by simp [LlmInstanceManager.modifyMetadata]

/-- A call that neither routes nor releases nor registers leaves the counts alone. -/
theorem of_isOther
    {fingerprint : PyVal → PyVal → PyStr}
    {action : ModelInstances.Action}
    (other : isOther action = true)
    (stepped : ModelInstances.step? fingerprint manager action = some next) :
    SameCounts manager next := by
  cases LlmInstanceManager.becomes_of_step stepped with
  | unserved request now => cases other
  | routed request now => cases other
  | released instanceId now => cases other
  | registered instanceId key generationId gpuMem => cases other
  | workflowCleared workflowId => exact of_same (manager.clearWorkflowState_frame workflowId).1
  | deploying key instanceId => exact of_same (by simp)
  | deployed instanceId => exact of_same (by simp)
  | readied instanceId now inst found =>
      intro wanted inst' present
      simp only [LlmInstanceManager.clearModelDeploying_instances,
        Table.get?_set] at present
      split at present
      · rename_i same
        subst same
        cases present
        exact ⟨inst, found, rfl, rfl⟩
      · exact ⟨inst', present, rfl, rfl⟩
  | decided instanceId identity => exact modifyMetadata instanceId fun _ => rfl
  | startStopped instanceId =>
      let cancelled : LlmInstanceManager :=
        { manager with
          cancelledStartIds := manager.cancelledStartIds.insert instanceId }
      have left : SameCounts cancelled (cancelled.leaveRouting instanceId .stopping) :=
        leaveRouting instanceId .stopping
      exact left
  | startCancelled instanceId => exact of_same rfl
  | cancellationCleared instanceId => exact of_same rfl
  | limited instanceId => exact modifyMetadata instanceId fun _ => rfl
  | drained instanceId => exact leaveRouting instanceId .draining
  | unhealthy instanceId => exact leaveRouting instanceId .unhealthy
  | unprobed instanceId => exact of_same rfl
  | claimed instanceId => exact leaveRouting instanceId .stopping
  | claimCancelled instanceId => exact setState instanceId .ready
  | claimOwned instanceId => exact of_same rfl
  | stopBegun instanceId => exact leaveRouting instanceId .stopping
  | stopEnded instanceId confirmed => exact setState instanceId _
  | forgotten instanceId =>
      intro wanted inst' present
      simp only [LlmInstanceManager.clearModelDeploying_instances,
        Table.get?_erase] at present
      split at present
      · cases present
      · exact ⟨inst', present, rfl, rfl⟩

end SameCounts

/-! ## Counting routes -/

theorem outstanding_append
    (routed more : List ModelRoute)
    (instanceId generationId : PyStr) :
    outstanding (routed ++ more) instanceId generationId =
      outstanding routed instanceId generationId +
        outstanding more instanceId generationId :=
  List.countP_append

/-- A route that is released counts for its own generation only. -/
theorem outstanding_erase
    {routed : List ModelRoute}
    {route : ModelRoute}
    (held : route ∈ routed)
    (instanceId generationId : PyStr) :
    outstanding routed instanceId generationId =
      outstanding (routed.erase route) instanceId generationId +
        if route.instanceId = instanceId ∧ route.generationId = generationId then 1
        else 0 := by
  rw [outstanding, (List.perm_cons_erase held).countP_eq, List.countP_cons, outstanding]
  simp

/-! ## The invariant -/

/-- The counts are right, and every generation in use has been drawn. -/
structure Invariant (state : Traffic) : Prop where
  accounted : state.Accounted
  drawnRoutes : ∀ route ∈ state.routed, route.generationId ∈ state.generations
  drawnInstances : ∀ instanceId inst,
    state.manager.instances.get? instanceId = some inst →
      inst.generationId ∈ state.generations

/-- A generation that has not been drawn has no requests. -/
theorem Invariant.outstanding_eq_zero
    {state : Traffic}
    (kept : state.Invariant)
    {generationId : PyStr}
    (fresh : generationId ∉ state.generations)
    (instanceId : PyStr) :
    outstanding state.routed instanceId generationId = 0 := by
  refine List.countP_eq_zero.mpr fun route held => ?_
  simp only [Bool.and_eq_true, decide_eq_true_eq, not_and]
  rintro _ rfl
  exact fresh (kept.drawnRoutes route held)

/-- What a request that is routed does to the instances. -/
theorem routed_instances
    {fingerprint : PyVal → PyVal → PyStr}
    {manager : LlmInstanceManager}
    {request : ModelRequest}
    {chosen : PyStr × InstanceMetadata}
    (now : ℚ)
    (found : manager.selected fingerprint request = some chosen) :
    (∃ inst, manager.instances.get? chosen.1 = some inst ∧
      inst.metadata = some chosen.2 ∧ chosen.2.hasRoom = true) ∧
      (manager.routeModelRequest fingerprint request now).1 =
        some ⟨chosen.1, request.key, manager.generationOf chosen.1⟩ ∧
      ∀ wanted,
        (manager.routeModelRequest fingerprint request now).2.instances.get? wanted =
          if wanted = chosen.1 then
            (manager.instances.get? wanted).map fun inst =>
              { inst with
                metadata := inst.metadata.map fun metadata =>
                  { metadata with
                    inflightRequests := metadata.inflightRequests + 1
                    lastUsedTime := some now } }
          else
            manager.instances.get? wanted := by
  obtain ⟨inside, room⟩ := LlmInstanceManager.selected_spec found
  obtain ⟨instanceId, _, measured⟩ := List.mem_filterMap.mp inside
  obtain ⟨metadata, candidate, rfl⟩ := Option.map_eq_some_iff.mp measured
  obtain ⟨inst, here, able⟩ := Option.bind_eq_some_iff.mp candidate
  refine ⟨⟨inst, here, (Option.filter_eq_some_iff.mp able).1, room⟩, ?_, ?_⟩
  · rw [LlmInstanceManager.routeModelRequest, found]
  · intro wanted
    rw [LlmInstanceManager.routeModelRequest, found]
    simp [LlmInstanceManager.admitRoute, LlmInstanceManager.discardPending,
      LlmInstanceManager.modifyMetadata]

/-- Routing keeps the invariant and the admission limits. -/
theorem route_kept
    {fingerprint : PyVal → PyVal → PyStr}
    {state next : Traffic}
    {request : ModelRequest}
    {now : ℚ}
    (kept : state.Invariant)
    (stepped : step? fingerprint state (.route request now) = some next) :
    next.Invariant ∧
      ∀ instanceId inst inst',
        state.manager.instances.get? instanceId = some inst →
        next.manager.instances.get? instanceId = some inst' →
        inst'.inflight = inst.inflight ∨
          ∃ metadata, inst.metadata = some metadata ∧
            inst'.inflight ≤ metadata.admissionLimit := by
  simp only [step?, Option.some.injEq] at stepped
  subst stepped
  cases found : state.manager.selected fingerprint request with
  | none =>
      have waits : state.manager.routeModelRequest fingerprint request now =
          (none, state.manager.recordModelDemand request) := by
        rw [LlmInstanceManager.routeModelRequest, found]
      simp only [waits, Option.toList_none, List.append_nil]
      refine ⟨⟨kept.accounted, kept.drawnRoutes, kept.drawnInstances⟩, ?_⟩
      intro instanceId inst inst' before after
      rw [LlmInstanceManager.recordModelDemand_instances] at after
      obtain rfl := Option.some.inj (before.symm.trans after)
      exact Or.inl rfl
  | some chosen =>
      obtain ⟨⟨inst, here, measured, room⟩, given, after⟩ :=
        routed_instances now found
      have generation : state.manager.generationOf chosen.1 = inst.generationId := by
        rw [LlmInstanceManager.generationOf, here, Option.map_some, Option.getD_some]
      rw [generation] at given
      have counted (wanted : PyStr) (inst' : Instance)
          (present : (state.manager.routeModelRequest fingerprint request
            now).2.instances.get? wanted = some inst') :
          (wanted ≠ chosen.1 ∧ state.manager.instances.get? wanted = some inst') ∨
            wanted = chosen.1 ∧ inst'.generationId = inst.generationId ∧
              inst'.inflight = inst.inflight + 1 := by
        rw [after] at present
        split at present
        · rename_i same
          rw [same, here, Option.map_some] at present
          cases present
          exact Or.inr ⟨same, rfl, by simp [Instance.inflight, measured]⟩
        · rename_i differ
          exact Or.inl ⟨differ, present⟩
      simp only [given, Option.toList_some]
      refine ⟨⟨fun wanted inst' present => ?_, fun route held => ?_,
        fun wanted inst' present => ?_⟩, fun wanted before inst' present after => ?_⟩
      · rw [outstanding_append]
        rcases counted wanted inst' present with ⟨differ, before⟩ | ⟨same, owned, more⟩
        · rw [kept.accounted wanted inst' before]
          simp [outstanding, Ne.symm differ]
        · rw [more, owned, same, kept.accounted chosen.1 inst here]
          simp [outstanding]
      · rcases List.mem_append.mp held with before | new
        · exact kept.drawnRoutes route before
        · obtain rfl := List.mem_singleton.mp new
          exact kept.drawnInstances chosen.1 inst here
      · rcases counted wanted inst' present with ⟨_, before⟩ | ⟨_, owned, _⟩
        · exact kept.drawnInstances wanted inst' before
        · exact owned ▸ kept.drawnInstances chosen.1 inst here
      · rcases counted wanted inst' after with ⟨_, same⟩ | ⟨same, _, more⟩
        · obtain rfl := Option.some.inj (present.symm.trans same)
          exact Or.inl rfl
        · rw [same] at present
          obtain rfl := Option.some.inj (here.symm.trans present)
          refine Or.inr ⟨chosen.2, measured, ?_⟩
          have less : chosen.2.inflightRequests < chosen.2.admissionLimit :=
            of_decide_eq_true room
          rw [more]
          simp only [Instance.inflight, measured, Option.map_some, Option.getD_some]
          exact less

/-- What a release does to the instances. -/
theorem releaseModelRoute_instances
    {manager : LlmInstanceManager}
    {instanceId wanted : PyStr}
    {now : ℚ}
    {inst' : Instance}
    (found : (manager.releaseModelRoute instanceId now).instances.get? wanted =
      some inst') :
    ∃ inst, manager.instances.get? wanted = some inst ∧
      inst'.generationId = inst.generationId ∧
      inst'.inflight =
        if wanted = instanceId then inst.inflight - 1 else inst.inflight := by
  simp only [LlmInstanceManager.releaseModelRoute, LlmInstanceManager.modifyMetadata,
    Table.get?_modify] at found
  split at found
  · rename_i same
    obtain ⟨inst, before, rfl⟩ := Option.map_eq_some_iff.mp found
    refine ⟨inst, before, rfl, ?_⟩
    rw [if_pos same]
    cases known : inst.metadata <;> simp [Instance.inflight, known]
  · rename_i differ
    exact ⟨inst', found, rfl, (if_neg differ).symm⟩

/-- A timely release keeps the invariant. -/
theorem release_kept
    {fingerprint : PyVal → PyVal → PyStr}
    {state next : Traffic}
    {route : ModelRoute}
    {now : ℚ}
    (kept : state.Invariant)
    (timely : state.Timely (.release route now))
    (stepped : step? fingerprint state (.release route now) = some next) :
    next.Invariant := by
  simp only [step?, Option.ite_none_right_eq_some, Option.some.injEq] at stepped
  obtain ⟨held, rfl⟩ := stepped
  refine ⟨fun wanted inst' present => ?_, fun other still => ?_,
    fun wanted inst' present => ?_⟩
  · obtain ⟨inst, before, generation, less⟩ := releaseModelRoute_instances present
    have counted := kept.accounted wanted inst before
    rw [outstanding_erase held] at counted
    dsimp only
    rw [less, generation]
    by_cases same : wanted = route.instanceId
    · subst same
      rw [if_pos rfl]
      rcases timely inst before with current | idle
      · rw [if_pos ⟨rfl, current.symm⟩] at counted
        omega
      · omega
    · rw [if_neg same]
      rw [if_neg fun both => same both.1.symm, Nat.add_zero] at counted
      exact counted
  · exact kept.drawnRoutes other (List.mem_of_mem_erase still)
  · obtain ⟨inst, before, generation, _⟩ := releaseModelRoute_instances present
    rw [generation]
    exact kept.drawnInstances wanted inst before

/-- Registering a new generation keeps the invariant. -/
theorem register_kept
    {fingerprint : PyVal → PyVal → PyStr}
    {state next : Traffic}
    {instanceId generationId : PyStr}
    {key : ModelKey}
    {gpuMem : ℚ}
    (kept : state.Invariant)
    (stepped :
      step? fingerprint state (.register instanceId key generationId gpuMem) =
        some next) :
    next.Invariant := by
  simp only [step?, LlmInstanceManager.registerStartingInstance?,
    Option.ite_none_left_eq_some, Option.map_eq_some_iff, Option.some.injEq] at stepped
  obtain ⟨fresh, _, ⟨_, rfl⟩, rfl⟩ := stepped
  refine ⟨fun wanted inst' present => ?_, fun route held => ?_,
    fun wanted inst' present => ?_⟩
  · simp only [Table.get?_set] at present
    split at present
    · cases present
      rw [kept.outstanding_eq_zero fresh]
      rfl
    · exact kept.accounted wanted inst' present
  · exact List.mem_cons_of_mem _ (kept.drawnRoutes route held)
  · simp only [Table.get?_set] at present
    split at present
    · cases present
      exact List.mem_cons_self
    · exact List.mem_cons_of_mem _ (kept.drawnInstances wanted inst' present)

/-- Every step keeps the invariant, if a release is timely. -/
theorem step_kept
    {fingerprint : PyVal → PyVal → PyStr}
    {state next : Traffic}
    {action : Action}
    (kept : state.Invariant)
    (timely : state.Timely action)
    (stepped : step? fingerprint state action = some next) :
    next.Invariant := by
  cases action with
  | route request now => exact (route_kept kept stepped).1
  | release route now => exact release_kept kept timely stepped
  | register instanceId key generationId gpuMem => exact register_kept kept stepped
  | call action =>
      simp only [step?, Option.ite_none_right_eq_some, Option.map_eq_some_iff] at stepped
      obtain ⟨other, manager, called, rfl⟩ := stepped
      have same := SameCounts.of_isOther other called
      refine ⟨fun wanted inst' present => ?_, kept.drawnRoutes,
        fun wanted inst' present => ?_⟩
      · obtain ⟨inst, before, generation, counted⟩ := same wanted inst' present
        rw [counted, generation]
        exact kept.accounted wanted inst before
      · obtain ⟨inst, before, generation, _⟩ := same wanted inst' present
        rw [generation]
        exact kept.drawnInstances wanted inst before

/-! ## Runs -/

theorem of_initial
    (maxRequestsPerInstance : ℤ)
    (scaleOutThreshold : Double)
    (idleScaleInSeconds : ℚ) :
    (initial maxRequestsPerInstance scaleOutThreshold
      idleScaleInSeconds).Invariant where
  accounted := fun _ _ found => by
    simp [initial, LlmInstanceManager.initial] at found
  drawnRoutes := fun _ held => by cases held
  drawnInstances := fun _ _ found => by
    simp [initial, LlmInstanceManager.initial] at found

/-- A step that is enabled keeps the counts exactly if it is timely. -/
theorem kept_iff_timely
    {fingerprint : PyVal → PyVal → PyStr}
    {state next : Traffic}
    {action : Action}
    (kept : state.Invariant)
    (stepped : step? fingerprint state action = some next) :
    Kept fingerprint state action ↔ state.Timely action := by
  constructor
  · intro holds
    cases action with
    | release route now =>
        intro inst before
        by_contra late
        rw [not_or] at late
        obtain ⟨_, _, unchanged⟩ := holds next stepped
        have released := stepped
        simp only [step?, Option.ite_none_right_eq_some, Option.some.injEq] at released
        obtain ⟨_, rfl⟩ := released
        have present : (state.manager.releaseModelRoute route.instanceId
            now).instances.get? route.instanceId = some
              { inst with
                metadata := inst.metadata.map fun metadata =>
                  { metadata with
                    inflightRequests := metadata.inflightRequests - 1
                    lastUsedTime := some now } } := by
          simp [LlmInstanceManager.releaseModelRoute,
            LlmInstanceManager.modifyMetadata, before]
        obtain ⟨other, same, _, less⟩ := releaseModelRoute_instances present
        obtain rfl := Option.some.inj (before.symm.trans same)
        have equal := unchanged route now rfl inst _ before present late.1
        rw [equal, if_pos rfl] at less
        exact late.2 (by omega)
    | _ => trivial
  · intro timely other again
    obtain rfl := Option.some.inj (stepped.symm.trans again)
    refine ⟨(step_kept kept timely stepped).accounted, ?_, ?_⟩
    · rintro request now rfl
      exact (route_kept kept stepped).2
    · rintro route now rfl inst inst' before after differ
      simp only [step?, Option.ite_none_right_eq_some, Option.some.injEq] at stepped
      obtain ⟨_, rfl⟩ := stepped
      obtain ⟨other, same, _, less⟩ := releaseModelRoute_instances after
      obtain rfl := Option.some.inj (before.symm.trans same)
      rcases timely inst before with current | idle
      · exact absurd current differ
      · rw [less, if_pos rfl, idle]

/--
Along every run, every step keeps the counts of requests in flight right if and only
if no release for an earlier generation finds a busy one under the same id.
-/
theorem counts_kept_iff_timely
    (fingerprint : PyVal → PyVal → PyStr)
    (maxRequestsPerInstance : ℤ)
    (scaleOutThreshold : Double)
    (idleScaleInSeconds : ℚ)
    (actions : List Action) :
    EveryStep (step? fingerprint) (Kept fingerprint)
        (initial maxRequestsPerInstance scaleOutThreshold idleScaleInSeconds) actions ↔
      EveryStep (step? fingerprint) Timely
        (initial maxRequestsPerInstance scaleOutThreshold idleScaleInSeconds) actions :=
  everyStep_iff_of_invariant
    (fun _ _ _ kept timely stepped => step_kept kept timely stepped)
    (fun _ _ _ kept stepped => kept_iff_timely kept stepped)
    (of_initial _ _ _) actions

/-- An instance is stopped under a request and started again under its id. -/
def restarted : List Action :=
  [.register "instance" LlmInstanceManager.qwen "first" 8000,
    .call (.markReady "instance" 1),
    .route (LlmInstanceManager.qwenRequest "early" 8000 LlmInstanceManager.qwen_8000) 2,
    .call (.beginStop "instance"),
    .call (.endStop "instance" true),
    .call (.finalizeStoppedInstance "instance"),
    .register "instance" LlmInstanceManager.qwen "second" 8000,
    .call (.markReady "instance" 3),
    .route (LlmInstanceManager.qwenRequest "late" 8000 LlmInstanceManager.qwen_8000) 4]

/-- The release of the early request takes the late one out of the count. -/
theorem late_release_undercounts :
    ¬ EveryStep (step? fun _ _ => "identity") (Kept fun _ _ => "identity")
      (initial 8 (.finite 1) 300)
      (restarted ++
        [.release ⟨"instance", LlmInstanceManager.qwen, "first"⟩ 5]) := by
  intro met
  have ran : (((run? (step? fun _ _ => "identity") (initial 8 (.finite 1) 300)
      restarted).bind fun state =>
        step? (fun _ _ => "identity") state
          (.release ⟨"instance", LlmInstanceManager.qwen, "first"⟩ 5)).any
      fun next => (next.manager.instances.get? "instance").any fun inst =>
        decide (inst.inflight ≠
          outstanding next.routed "instance" inst.generationId)) = true := by
    decide +kernel
  obtain ⟨next, both, wrong⟩ := (Option.any_eq_true _ _).mp ran
  obtain ⟨state, executed, stepped⟩ := Option.bind_eq_some_iff.mp both
  obtain ⟨inst, found, differs⟩ := (Option.any_eq_true _ _).mp wrong
  have counted := (met.of_run executed stepped next stepped).1 "instance" inst found
  exact of_decide_eq_true differs counted

end Traffic

end Maze.Scheduler.ModelInstances
