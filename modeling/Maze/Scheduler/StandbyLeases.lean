import Maze.Scheduler.StandbyPoolSafety

namespace Maze.Scheduler.StandbyPool

open Maze.Library
open Maze.Library.Fallible
open Maze.Library.Transition
open Maze.Python

/-!
# No worker has two holders

Every call keeps what holds between the pool and the holders of its leases, so that it holds
in every run. A lease that arrives for a node that is gone, or that has come back, finds that
its actor is not tracked.
-/

section Calls

variable {config : Config} {system : System}

/-- Actors are held by one lease each. -/
theorem mem_heldActors_erase
    (sound : Sound config system)
    {lease : Lease}
    (member : lease ∈ system.held)
    (actor : Actor) :
    actor ∈ (system.held.erase lease).map Lease.actor ↔
      actor ∈ system.held.map Lease.actor ∧ actor ≠ lease.actor := by
  have order := (List.perm_cons_erase member).map Lease.actor
  have once := order.nodup_iff.mp sound.once
  rw [List.map_cons, List.nodup_cons] at once
  rw [order.mem_iff, List.map_cons, List.mem_cons]
  constructor
  · intro left
    refine ⟨.inr left, ?_⟩
    rintro rfl
    exact once.1 left
  · rintro ⟨same | left, differ⟩
    · exact absurd same differ
    · exact left

/-! ## Giving a lease back -/

/-- A lease is given back; where its actor is ended, it is not tracked any more. -/
theorem Sound.giveBack
    (sound : Sound config system)
    {lease : Lease}
    (member : lease ∈ system.held)
    {pool : Pool}
    {discard : Bool}
    (sublist : ∀ nodeId workerType,
      (pool.workers nodeId workerType).Sublist (system.pool.workers nodeId workerType))
    (kept : ∀ actor, actor ≠ lease.actor → Tracked system.pool actor → Tracked pool actor)
    (next : pool.nextActor = system.pool.nextActor)
    (busy : pool.busyWorkerIds = system.pool.busyWorkerIds.erase lease.actor)
    (gone : endsActor lease discard = true → ¬Tracked pool lease.actor) :
    Sound config
      { system with
        pool := pool
        held := system.held.erase lease
        ended :=
          if endsActor lease discard then system.ended ++ [lease.actor] else system.ended } := by
  have tracked : ∀ actor, Tracked pool actor → Tracked system.pool actor := by
    rintro actor ⟨nodeId, workerType, inside⟩
    exact ⟨nodeId, workerType, (sublist nodeId workerType).subset inside⟩
  have heldActors := mem_heldActors_erase sound member
  refine
    { distinct := fun nodeId workerType =>
        (sound.distinct nodeId workerType).sublist (sublist nodeId workerType)
      apart := fun nodeId workerType other otherType actor here there =>
        sound.apart nodeId workerType other otherType actor
          ((sublist _ _).subset here) ((sublist _ _).subset there)
      sizes := fun nodeId workerType =>
        (sublist nodeId workerType).length_le.trans (sound.sizes nodeId workerType)
      numbered := fun actor there => next ▸ sound.numbered actor (tracked actor there)
      issued := fun other given => next ▸ sound.issued other given
      placed := fun other given nodeId workerType inside =>
        sound.placed other given nodeId workerType ((sublist _ _).subset inside)
      alike := sound.alike
      held := fun other inside => sound.held other (List.mem_of_mem_erase inside)
      once := sound.once.sublist (List.erase_sublist.map _)
      busy := fun actor => ?_
      ended := fun actor inside => ?_
      gpu := fun other given isGpu => ?_ }
  · dsimp only
    rw [busy, Finset.mem_erase, sound.busy, heldActors]
    constructor
    · rintro ⟨differ, there, held⟩
      exact ⟨kept actor differ there, held, differ⟩
    · rintro ⟨there, held, differ⟩
      exact ⟨differ, tracked actor there, held⟩
  · dsimp only at inside
    split at inside
    · next ends =>
      rcases List.mem_append.mp inside with before | now
      · obtain ⟨untracked, given⟩ := sound.ended actor before
        exact ⟨fun there => untracked (tracked actor there), given⟩
      · obtain rfl := List.mem_singleton.mp now
        exact ⟨gone ends, List.mem_map_of_mem (sound.held lease member)⟩
    · obtain ⟨untracked, given⟩ := sound.ended actor inside
      exact ⟨fun there => untracked (tracked actor there), given⟩
  · by_cases same : other.actor = lease.actor
    · -- the lease that is given back is of the same type, so that its actor is ended
      have type := sound.alike other given lease (sound.held lease member) same
      have ends : endsActor lease discard = true := by simp [endsActor, ← type, isGpu]
      right
      dsimp only
      rw [if_pos ends, same]
      exact List.mem_append_right _ (List.mem_singleton_self _)
    · rcases sound.gpu other given isGpu with held | before
      · exact .inl ((heldActors _).mpr ⟨held, same⟩)
      · right
        dsimp only
        split
        · exact List.mem_append_left _ before
        · exact before

/-- New actors may be created wherever a group is too small. -/
theorem Sound.refill
    (sound : Sound config system)
    (creates : Actor → Bool)
    (nodeId : NodeId)
    (workerType : WorkerType) :
    Sound config
      { system with pool := refill config creates nodeId workerType system.pool } := by
  unfold StandbyPool.refill
  dsimp only
  split
  · have room := sound.sizes nodeId workerType
    have isLive : nodeId ∈ nodeId :: system.pool.nodeWorkers.entries.map Prod.fst :=
      List.mem_cons_self
    have progress : Progress config system 0
        (nodeId :: system.pool.nodeWorkers.entries.map Prod.fst) (fun _ _ => False)
        system.pool := by
      refine ⟨sound, Nat.zero_le _, fun other dead => ?_, fun _ _ never => never.elim⟩
      cases found : system.pool.nodeWorkers.get? other with
      | none => rfl
      | some groups =>
          have member := (system.pool.nodeWorkers.get?_eq_some_iff _ _).mp found
          exact absurd (List.mem_cons_of_mem _ (List.mem_map_of_mem member)) dead
    have filled := @fill_ensures config creates system 0 _ _ nodeId isLive workerType
      ((config.sizes.get? workerType).getD 0 - (system.pool.workers nodeId workerType).length)
      system.pool ⟨progress, by rw [target] at room ⊢; omega⟩
    split
    · next outcome =>
      rw [outcome] at filled
      exact filled.1.sound
    · next outcome =>
      rw [outcome] at filled
      exact filled.1
  · exact sound

/-- What `release` keeps. -/
theorem Sound.release
    (sound : Sound config system)
    (creates : Actor → Bool)
    {lease : Lease}
    (member : lease ∈ system.held)
    (discard : Bool) :
    Sound config
      { system with
        pool := release config creates lease discard system.pool
        held := system.held.erase lease
        ended :=
          if endsActor lease discard then system.ended ++ [lease.actor] else system.ended } := by
  unfold StandbyPool.release
  dsimp only
  split
  · next ends =>
    let taken : Pool :=
      { system.pool with
        busyWorkerIds := system.pool.busyWorkerIds.erase lease.actor }.setWorkers lease.nodeId
          lease.workerType
            ((system.pool.workers lease.nodeId lease.workerType).erase lease.actor)
    have workers : ∀ nodeId workerType, taken.workers nodeId workerType =
        if nodeId = lease.nodeId ∧ workerType = lease.workerType then
          (system.pool.workers lease.nodeId lease.workerType).erase lease.actor
        else system.pool.workers nodeId workerType :=
      fun _ _ => Pool.workers_setWorkers _ _ _ _ _ _
    have back := @Sound.giveBack _ _ sound lease member taken discard ?_ ?_ rfl rfl ?_
    · exact back.refill creates lease.nodeId lease.workerType
    · intro nodeId workerType
      rw [workers]
      split
      · next same =>
        obtain ⟨rfl, rfl⟩ := same
        exact List.erase_sublist
      · exact List.Sublist.refl _
    · rintro actor differ ⟨nodeId, workerType, inside⟩
      refine ⟨nodeId, workerType, ?_⟩
      rw [workers]
      split
      · next same =>
        obtain ⟨rfl, rfl⟩ := same
        exact (List.mem_erase_of_ne differ).mpr inside
      · exact inside
    · rintro _ ⟨nodeId, workerType, inside⟩
      rw [workers] at inside
      split at inside
      · exact (sound.distinct _ _).not_mem_erase inside
      · next elsewhere =>
        exact elsewhere (sound.placed lease (sound.held lease member) _ _ inside)
  · next notTaken =>
    have kept : ∀ actor, actor ≠ lease.actor → Tracked system.pool actor →
        Tracked { system.pool with
          busyWorkerIds := system.pool.busyWorkerIds.erase lease.actor } actor :=
      fun _ _ there => there
    refine sound.giveBack member (fun _ _ => List.Sublist.refl _) kept rfl rfl ?_
    rintro ends ⟨nodeId, workerType, inside⟩
    apply notTaken
    obtain ⟨rfl, rfl⟩ := sound.placed lease (sound.held lease member) _ _ inside
    rw [Bool.and_eq_true]
    exact ⟨ends, decide_eq_true inside⟩

/-! ## Taking a lease -/

/-- A lease is of an idle actor that is tracked where the lease says. -/
theorem acquire_eq_some
    {lower : PyStr → PyStr}
    {nodeId : NodeId}
    {taskKind : Option PyStr}
    {before after : Pool}
    {lease : Lease}
    (acquired : acquire config lower nodeId taskKind before = (some lease, after)) :
    lease.actor ∈ before.workers lease.nodeId lease.workerType ∧
      lease.actor ∉ before.busyWorkerIds ∧
      after = { before with busyWorkerIds := insert lease.actor before.busyWorkerIds } := by
  unfold acquire at acquired
  split at acquired
  · dsimp only at acquired
    split at acquired
    · simp at acquired
    · next actor found =>
      have idle := List.find?_some found
      rw [decide_eq_true_eq] at idle
      simp only [Prod.mk.injEq, Option.some.injEq] at acquired
      obtain ⟨rfl, rfl⟩ := acquired
      exact ⟨List.mem_of_find?_eq_some found, idle, rfl⟩
  · simp at acquired

/-- Without a lease nothing is changed. -/
theorem acquire_eq_none
    {lower : PyStr → PyStr}
    {nodeId : NodeId}
    {taskKind : Option PyStr}
    {before after : Pool}
    (acquired : acquire config lower nodeId taskKind before = (none, after)) :
    after = before := by
  unfold acquire at acquired
  split at acquired
  · dsimp only at acquired
    split at acquired
    · simpa using acquired.symm
    · simp at acquired
  · simpa using acquired.symm

/-- An actor that gets a holder has none, was not ended and, of type `gpu`, never had one. -/
theorem Sound.fresh
    (sound : Sound config system)
    {lease : Lease}
    (inside : lease.actor ∈ system.pool.workers lease.nodeId lease.workerType)
    (idle : lease.actor ∉ system.pool.busyWorkerIds) :
    lease.actor ∉ system.held.map Lease.actor ∧ lease.actor ∉ system.ended ∧
      (lease.workerType = "gpu" → lease.actor ∉ system.issued.map Lease.actor) := by
  have tracked : Tracked system.pool lease.actor := ⟨_, _, inside⟩
  have unheld : lease.actor ∉ system.held.map Lease.actor :=
    fun held => idle ((sound.busy _).mpr ⟨tracked, held⟩)
  have notEnded : lease.actor ∉ system.ended := fun ended => (sound.ended _ ended).1 tracked
  refine ⟨unheld, notEnded, fun isGpu given => ?_⟩
  obtain ⟨other, member, same⟩ := List.mem_map.mp given
  have type := (sound.placed other member _ _ (same ▸ inside)).2
  rcases sound.gpu other member (type ▸ isGpu) with held | ended
  · exact unheld (same ▸ held)
  · exact notEnded (same ▸ ended)

/-- What giving out a lease keeps. -/
theorem Sound.giveOut
    (sound : Sound config system)
    {lease : Lease}
    (inside : lease.actor ∈ system.pool.workers lease.nodeId lease.workerType)
    (idle : lease.actor ∉ system.pool.busyWorkerIds) :
    Sound config
      { system with
        pool :=
          { system.pool with
            busyWorkerIds := insert lease.actor system.pool.busyWorkerIds }
        held := system.held ++ [lease]
        issued := system.issued ++ [lease] } := by
  have tracked : Tracked system.pool lease.actor := ⟨_, _, inside⟩
  obtain ⟨unheld, notEnded, _⟩ := sound.fresh inside idle
  have givenOrNew : ∀ other ∈ system.issued ++ [lease], other ∈ system.issued ∨ other = lease := by
    intro other given
    simpa using given
  have alike : ∀ other ∈ system.issued, other.actor = lease.actor →
      other.workerType = lease.workerType := by
    intro other given same
    exact (sound.placed other given _ _ (same ▸ inside)).2.symm
  refine
    { distinct := sound.distinct
      apart := sound.apart
      sizes := sound.sizes
      numbered := sound.numbered
      issued := fun other given => ?_
      placed := fun other given nodeId workerType there => ?_
      alike := fun first given second also same => ?_
      held := fun other member => ?_
      once := ?_
      busy := fun actor => ?_
      ended := fun actor member => ?_
      gpu := fun other given isGpu => ?_ }
  · rcases givenOrNew other given with before | rfl
    · exact sound.issued other before
    · exact sound.numbered _ tracked
  · rcases givenOrNew other given with before | rfl
    · exact sound.placed other before nodeId workerType there
    · exact sound.apart _ _ _ _ _ there inside
  · rcases givenOrNew first given with before | rfl <;>
      rcases givenOrNew second also with known | rfl
    · exact sound.alike first before second known same
    · exact alike first before same
    · exact (alike second known same.symm).symm
    · rfl
  · rcases List.mem_append.mp member with before | now
    · exact List.mem_append_left _ (sound.held other before)
    · exact List.mem_append_right _ now
  · dsimp only
    rw [List.map_append, List.map_singleton]
    exact List.nodup_append.mpr ⟨sound.once, List.nodup_singleton _, by
      rintro actor held other fresh rfl
      rw [List.mem_singleton.mp fresh] at held
      exact unheld held⟩
  · dsimp only
    rw [Finset.mem_insert, List.map_append, List.mem_append, List.map_singleton,
      List.mem_singleton]
    refine ⟨?_, ?_⟩
    · rintro (rfl | busy)
      · exact ⟨tracked, .inr rfl⟩
      · obtain ⟨there, held⟩ := (sound.busy actor).mp busy
        exact ⟨there, .inl held⟩
    · rintro ⟨there, held | rfl⟩
      · exact .inr ((sound.busy actor).mpr ⟨there, held⟩)
      · exact .inl rfl
  · obtain ⟨untracked, given⟩ := sound.ended actor member
    refine ⟨untracked, ?_⟩
    dsimp only
    rw [List.map_append]
    exact List.mem_append_left _ given
  · dsimp only
    rw [List.map_append, List.mem_append]
    rcases givenOrNew other given with before | rfl
    · rcases sound.gpu other before isGpu with held | ended
      · exact .inl (.inl held)
      · exact .inr ended
    · exact .inl (.inr (List.mem_singleton_self _))

/-! ## Every call -/

theorem Sound.acquire
    (sound : Sound config system)
    (lower : PyStr → PyStr)
    (nodeId : NodeId)
    (taskKind : Option PyStr) :
    Sound config (system.acquire config lower nodeId taskKind) := by
  unfold System.acquire
  split
  · next unchanged =>
    rw [acquire_eq_none unchanged]
    exact sound
  · next acquired =>
    obtain ⟨inside, idle, rfl⟩ := acquire_eq_some acquired
    exact sound.giveOut inside idle

theorem Sound.ensureForNodes
    (sound : Sound config system)
    (creates : Actor → Bool)
    (nodes : List NodeId) :
    Sound config
      { system with pool := afterCall (ensureForNodes config creates nodes) system.pool } := by
  cases enabled : config.enabled with
  | false =>
      rw [StandbyPool.ensureForNodes, enabled]
      exact sound
  | true =>
      have ensures := ensureForNodes_ensures creates nodes sound enabled
      unfold afterCall
      split
      · next outcome => exact (ensures.returned rfl outcome).sound
      · next outcome => exact (ensures.raised rfl outcome).1

/-- Every call keeps what holds between the pool and the holders. -/
theorem step_sound
    (creates : Actor → Bool)
    (lower : PyStr → PyStr)
    (call : Call)
    {next : System}
    (sound : Sound config system)
    (stepped : step? config creates lower system call = some next) :
    Sound config next := by
  cases call with
  | ensureForNodes nodes =>
      obtain rfl := Option.some.inj stepped
      exact sound.ensureForNodes creates nodes
  | acquire nodeId taskKind =>
      obtain rfl := Option.some.inj stepped
      exact sound.acquire lower nodeId taskKind
  | release lease discard =>
      cases lease with
      | none =>
          obtain rfl := Option.some.inj stepped
          exact sound
      | some lease =>
          simp only [step?, Option.ite_none_right_eq_some, Option.some.injEq] at stepped
          obtain ⟨member, rfl⟩ := stepped
          exact sound.release creates member discard
  | removeNode nodeId =>
      obtain rfl := Option.some.inj stepped
      exact sound.removeNode nodeId

theorem run_sound
    {creates : Actor → Bool}
    {lower : PyStr → PyStr}
    {calls : List Call}
    (executed : run? (step? config creates lower) .start calls = some system) :
    Sound config system :=
  run?_invariant (fun _ call _ => step_sound creates lower call) (sound_start config) executed

/-- A call does not make a pool that is not enabled track any node. -/
theorem step_disabled
    (disabled : config.enabled = false)
    {creates : Actor → Bool}
    {lower : PyStr → PyStr}
    {call : Call}
    {next : System}
    (empty : ∀ nodeId, system.pool.nodeWorkers.get? nodeId = none)
    (stepped : step? config creates lower system call = some next) :
    ∀ nodeId, next.pool.nodeWorkers.get? nodeId = none := by
  cases call with
  | ensureForNodes nodes =>
      obtain rfl := Option.some.inj stepped
      rw [ensureForNodes, disabled]
      exact empty
  | acquire nodeId taskKind =>
      obtain rfl := Option.some.inj stepped
      rw [System.acquire, acquire, disabled]
      exact empty
  | release lease discard =>
      cases lease with
      | none =>
          obtain rfl := Option.some.inj stepped
          exact empty
      | some lease =>
          simp only [step?, Option.ite_none_right_eq_some, Option.some.injEq] at stepped
          obtain ⟨_, rfl⟩ := stepped
          have untracked : ∀ workerType, system.pool.workers lease.nodeId workerType = [] := by
            intro workerType
            rw [Pool.workers, empty]
            rfl
          have notThere : lease.actor ∉ ({ system.pool with
              busyWorkerIds := system.pool.busyWorkerIds.erase lease.actor } : Pool).workers
                lease.nodeId lease.workerType := by
            change lease.actor ∉ system.pool.workers lease.nodeId lease.workerType
            rw [untracked]
            exact List.not_mem_nil
          simp only [release, notThere, decide_false, Bool.and_false, Bool.false_eq_true, if_false]
          exact empty
  | removeNode nodeId =>
      obtain rfl := Option.some.inj stepped
      intro other
      change (system.pool.nodeWorkers.erase nodeId).get? other = none
      rw [Table.get?_erase, empty, ite_self]

theorem run_disabled
    (disabled : config.enabled = false)
    {creates : Actor → Bool}
    {lower : PyStr → PyStr}
    {calls : List Call}
    (executed : run? (step? config creates lower) .start calls = some system) :
    ∀ nodeId, system.pool.nodeWorkers.get? nodeId = none :=
  run?_invariant (fun _ _ _ => step_disabled disabled) (fun _ => rfl) executed

/-- Where no creation fails, `ensure_for_nodes` fills the live nodes of a pool that is enabled. -/
theorem Sound.filled
    (sound : Sound config system)
    {creates : Actor → Bool}
    (nodes : List NodeId)
    (unused : config.enabled = false → ∀ nodeId, system.pool.nodeWorkers.get? nodeId = none)
    (created : ∀ actor, system.pool.nextActor ≤ actor → creates actor = true) :
    ∃ pool,
      StandbyPool.ensureForNodes config creates nodes system.pool = .ok () pool ∧
        (config.enabled = true → ∀ nodeId ∈ nodes, ∀ workerType,
          (pool.workers nodeId workerType).length = target config workerType) ∧
        ∀ nodeId, nodeId ∉ nodes → pool.nodeWorkers.get? nodeId = none := by
  cases enabled : config.enabled with
  | false =>
      rw [StandbyPool.ensureForNodes, enabled]
      refine ⟨system.pool, rfl, fun impossible => ?_, fun nodeId _ => unused enabled nodeId⟩
      cases impossible
  | true =>
      have ensures := ensureForNodes_ensures creates nodes sound enabled
      cases outcome : StandbyPool.ensureForNodes config creates nodes system.pool with
      | ok value pool =>
          have full := ensures.returned rfl outcome
          exact ⟨pool, rfl, fun _ nodeId member workerType =>
            full.full nodeId workerType member, full.live⟩
      | error error pool =>
          obtain ⟨_, actor, later, failed⟩ := ensures.raised rfl outcome
          rw [created actor later] at failed
          cases failed

end Calls

/-! ## Every run -/

/--
In every run: the busy actors are the tracked ones with a lease that is not released, no
actor has two holders, and an actor that was discarded or is of type `gpu` is not given out
again. After `ensure_for_nodes` every live node has its number of actors, if the pool is
enabled, and no other node has any.
-/
theorem standby_pool_sound
    (config : Config)
    (creates : Actor → Bool)
    (lower : PyStr → PyStr)
    (calls : List Call)
    {system : System}
    (executed : run? (step? config creates lower) .start calls = some system) :
    (∀ actor, actor ∈ system.pool.busyWorkerIds ↔
      Tracked system.pool actor ∧ ∃ lease ∈ system.held, lease.actor = actor) ∧
    (system.held.map Lease.actor).Nodup ∧
    (∀ nodeId taskKind lease pool,
      acquire config lower nodeId taskKind system.pool = (some lease, pool) →
        lease.actor ∉ system.held.map Lease.actor ∧ lease.actor ∉ system.ended ∧
          (lease.workerType = "gpu" → lease.actor ∉ system.issued.map Lease.actor)) ∧
    (∀ nodes, (∀ actor, system.pool.nextActor ≤ actor → creates actor = true) →
      ∃ pool,
        ensureForNodes config creates nodes system.pool = .ok () pool ∧
          (config.enabled = true → ∀ nodeId ∈ nodes, ∀ workerType,
            (pool.workers nodeId workerType).length = target config workerType) ∧
          ∀ nodeId, nodeId ∉ nodes → pool.nodeWorkers.get? nodeId = none) := by
  have sound := run_sound executed
  refine ⟨fun actor => ?_, sound.once, ?_, fun nodes created => ?_⟩
  · rw [sound.busy, List.mem_map]
  · intro nodeId taskKind lease pool acquired
    obtain ⟨inside, idle, _⟩ := acquire_eq_some acquired
    exact sound.fresh inside idle
  · exact sound.filled nodes (fun disabled => run_disabled disabled executed) created

/-- One worker for each kind of task. -/
def oneOfEach (enabled : Bool) : Config where
  sizes := ⟨[("gpu", 1), ("cpu", 1)], by decide⟩
  enabled := enabled

/-- A node goes and comes back while a lease of it is out. -/
def nodeComesBack : List Call :=
  [.ensureForNodes ["n1"], .acquire "n1" (some "gpu"), .ensureForNodes [],
    .ensureForNodes ["n1"], .release (some ⟨"n1", "gpu", 0⟩) false, .acquire "n1" (some "gpu")]

/-- The second lease is of another actor than the first one, which was not given out again. -/
theorem other_actor_given :
    ∃ system,
      run? (step? (oneOfEach true) (fun _ => true) id) .start nodeComesBack = some system ∧
        system.held = [⟨"n1", "gpu", 2⟩] ∧ system.ended = [0] ∧
        (∀ actor, actor ∈ system.pool.busyWorkerIds ↔
          Tracked system.pool actor ∧ ∃ lease ∈ system.held, lease.actor = actor) ∧
        ∃ pool,
          ensureForNodes (oneOfEach true) (fun _ => true) ["n2"] system.pool = .ok () pool ∧
            ((oneOfEach true).enabled = true → ∀ nodeId ∈ (["n2"] : List NodeId), ∀ workerType,
              (pool.workers nodeId workerType).length = target (oneOfEach true) workerType) ∧
            ∀ nodeId, nodeId ∉ (["n2"] : List NodeId) → pool.nodeWorkers.get? nodeId = none := by
  obtain ⟨system, executed, held, ended⟩ : ∃ system,
      run? (step? (oneOfEach true) (fun _ => true) id) .start nodeComesBack = some system ∧
        system.held = [⟨"n1", "gpu", 2⟩] ∧ system.ended = [0] := ⟨_, rfl, rfl, rfl⟩
  have sound := standby_pool_sound (oneOfEach true) (fun _ => true) id nodeComesBack executed
  exact ⟨system, executed, held, ended, sound.1, sound.2.2.2 ["n2"] fun _ _ => rfl⟩

/-- A pool that is not enabled creates nothing for a live node. -/
theorem disabled_pool_not_filled :
    ∃ pool,
      ensureForNodes (oneOfEach false) (fun _ => true) ["n1"] System.start.pool = .ok () pool ∧
        pool.workers "n1" "cpu" = [] ∧ target (oneOfEach false) "cpu" = 1 :=
  ⟨_, rfl, rfl, rfl⟩

end Maze.Scheduler.StandbyPool
