import Maze.Scheduler.StandbyPool

namespace Maze.Scheduler.StandbyPool

open Maze.Library
open Maze.Library.Fallible
open Maze.Library.Transition
open Maze.Python

/-!
# What the pool keeps

Between the pool and the holders of its leases: the busy actors are the tracked ones with a
holder, no actor has two holders, an actor that was ended does not come back, and no group
grows beyond its size. Filling the groups keeps this wherever creating an actor fails, and
makes all groups of the live nodes full where it does not.
-/

/-! ## Groups -/

namespace Pool

@[simp] theorem workers_setWorkers
    (pool : Pool)
    (nodeId other : NodeId)
    (workerType otherType : WorkerType)
    (workers : List Actor) :
    (pool.setWorkers nodeId workerType workers).workers other otherType =
      if other = nodeId ∧ otherType = workerType then workers
      else pool.workers other otherType := by
  unfold Pool.workers setWorkers
  by_cases node : other = nodeId
  · subst node
    by_cases type : otherType = workerType
    · simp [type]
    · cases found : pool.nodeWorkers.get? other with
      | none => simp [type]
      | some groups => simp [type]
  · simp [node]

@[simp] theorem workers_addNode
    (pool : Pool)
    (nodeId other : NodeId)
    (workerType : WorkerType) :
    (pool.addNode nodeId).workers other workerType = pool.workers other workerType := by
  unfold Pool.workers addNode
  cases found : pool.nodeWorkers.get? nodeId with
  | some groups => rfl
  | none =>
      by_cases node : other = nodeId
      · subst node
        simp [found]
      · simp [node]

@[simp] theorem workers_removeNode
    (pool : Pool)
    (nodeId other : NodeId)
    (workerType : WorkerType) :
    (pool.removeNode nodeId).workers other workerType =
      if other = nodeId then [] else pool.workers other workerType := by
  unfold Pool.workers removeNode
  by_cases node : other = nodeId <;> simp [node]

theorem busy_removeNode
    (pool : Pool)
    (nodeId : NodeId)
    (actor : Actor) :
    actor ∈ (pool.removeNode nodeId).busyWorkerIds ↔
      actor ∈ pool.busyWorkerIds ∧ ∀ workerType, actor ∉ pool.workers nodeId workerType := by
  have grouped : (∃ group ∈ ((pool.nodeWorkers.get? nodeId).getD .empty).entries,
      actor ∈ group.2) ↔ ∃ workerType, actor ∈ pool.workers nodeId workerType := by
    unfold Pool.workers
    cases pool.nodeWorkers.get? nodeId with
    | none => simp [Table.empty]
    | some groups =>
        constructor
        · rintro ⟨group, member, inside⟩
          refine ⟨group.1, ?_⟩
          have found := (groups.get?_eq_some_iff group.1 group.2).mpr member
          simpa [found] using inside
        · rintro ⟨workerType, inside⟩
          cases found : groups.get? workerType with
          | none => simp [found] at inside
          | some workers =>
              refine ⟨_, (groups.get?_eq_some_iff _ _).mp found, ?_⟩
              simpa [found] using inside
  rw [removeNode, Finset.mem_sdiff, List.mem_toFinset, List.mem_flatMap, grouped, not_exists]

end Pool

/-- The actor is in one of the groups. -/
def Tracked
    (pool : Pool)
    (actor : Actor) : Prop :=
  ∃ nodeId workerType, actor ∈ pool.workers nodeId workerType

/-- `pool_sizes.get(worker_type, 0)`. -/
def target
    (config : Config)
    (workerType : WorkerType) :
    ℕ :=
  (config.sizes.get? workerType).getD 0

/-! ## The invariant -/

/-- What holds between the pool and the holders of its leases. -/
structure Sound
    (config : Config)
    (system : System) : Prop where
  distinct : ∀ nodeId workerType, (system.pool.workers nodeId workerType).Nodup
  apart : ∀ nodeId workerType other otherType actor,
    actor ∈ system.pool.workers nodeId workerType →
      actor ∈ system.pool.workers other otherType → nodeId = other ∧ workerType = otherType
  sizes : ∀ nodeId workerType,
    (system.pool.workers nodeId workerType).length ≤ target config workerType
  numbered : ∀ actor, Tracked system.pool actor → actor < system.pool.nextActor
  issued : ∀ lease ∈ system.issued, lease.actor < system.pool.nextActor
  placed : ∀ lease ∈ system.issued, ∀ nodeId workerType,
    lease.actor ∈ system.pool.workers nodeId workerType →
      nodeId = lease.nodeId ∧ workerType = lease.workerType
  alike : ∀ first ∈ system.issued, ∀ second ∈ system.issued, first.actor = second.actor →
    first.workerType = second.workerType
  held : ∀ lease ∈ system.held, lease ∈ system.issued
  once : (system.held.map Lease.actor).Nodup
  busy : ∀ actor, actor ∈ system.pool.busyWorkerIds ↔
    Tracked system.pool actor ∧ actor ∈ system.held.map Lease.actor
  ended : ∀ actor ∈ system.ended, ¬Tracked system.pool actor ∧
    actor ∈ system.issued.map Lease.actor
  gpu : ∀ lease ∈ system.issued, lease.workerType = "gpu" →
    lease.actor ∈ system.held.map Lease.actor ∨ lease.actor ∈ system.ended

@[simp] theorem workers_empty
    (nodeId : NodeId)
    (workerType : WorkerType) :
    Pool.empty.workers nodeId workerType = [] := rfl

theorem sound_start (config : Config) : Sound config .start where
  distinct := by simp [System.start]
  apart := by simp [System.start]
  sizes := by simp [System.start]
  numbered := by simp [System.start, Tracked]
  issued := by simp [System.start]
  placed := by simp [System.start]
  alike := by simp [System.start]
  held := by simp [System.start]
  once := by simp [System.start]
  busy := by simp [System.start, Tracked, Pool.empty]
  ended := by simp [System.start]
  gpu := by simp [System.start]

section Steps

variable {config : Config} {system : System}

/-- Actors may be taken out of their groups, and are then not busy. -/
theorem Sound.fewer
    (sound : Sound config system)
    {pool : Pool}
    (sublist : ∀ nodeId workerType,
      (pool.workers nodeId workerType).Sublist (system.pool.workers nodeId workerType))
    (next : pool.nextActor = system.pool.nextActor)
    (busy : ∀ actor, actor ∈ pool.busyWorkerIds ↔
      actor ∈ system.pool.busyWorkerIds ∧ Tracked pool actor) :
    Sound config { system with pool := pool } := by
  have tracked : ∀ actor, Tracked pool actor → Tracked system.pool actor := by
    rintro actor ⟨nodeId, workerType, inside⟩
    exact ⟨nodeId, workerType, (sublist nodeId workerType).subset inside⟩
  exact
    { distinct := fun nodeId workerType =>
        (sound.distinct nodeId workerType).sublist (sublist nodeId workerType)
      apart := fun nodeId workerType other otherType actor here there =>
        sound.apart nodeId workerType other otherType actor
          ((sublist _ _).subset here) ((sublist _ _).subset there)
      sizes := fun nodeId workerType =>
        (sublist nodeId workerType).length_le.trans (sound.sizes nodeId workerType)
      numbered := fun actor there => next ▸ sound.numbered actor (tracked actor there)
      issued := fun lease member => next ▸ sound.issued lease member
      placed := fun lease member nodeId workerType inside =>
        sound.placed lease member nodeId workerType ((sublist _ _).subset inside)
      alike := sound.alike
      held := sound.held
      once := sound.once
      busy := fun actor => by
        rw [busy, sound.busy]
        exact ⟨fun both => ⟨both.2, both.1.2⟩,
          fun both => ⟨⟨tracked actor both.1, both.2⟩, both.1⟩⟩
      ended := fun actor member =>
        ⟨fun there => (sound.ended actor member).1 (tracked actor there),
          (sound.ended actor member).2⟩
      gpu := sound.gpu }

/-- An attempt to create an actor that fails uses up its number. -/
theorem Sound.numberUsed (sound : Sound config system) :
    Sound config
      { system with pool := { system.pool with nextActor := system.pool.nextActor + 1 } } where
  distinct := sound.distinct
  apart := sound.apart
  sizes := sound.sizes
  numbered actor there := (sound.numbered actor there).trans (Nat.lt_succ_self _)
  issued lease member := (sound.issued lease member).trans (Nat.lt_succ_self _)
  placed := sound.placed
  alike := sound.alike
  held := sound.held
  once := sound.once
  busy := sound.busy
  ended := sound.ended
  gpu := sound.gpu

/-- The pool with a new actor in a group. -/
def grown
    (pool : Pool)
    (nodeId : NodeId)
    (workerType : WorkerType) :
    Pool :=
  { pool with nextActor := pool.nextActor + 1 }.setWorkers nodeId workerType
    (pool.workers nodeId workerType ++ [pool.nextActor])

theorem workers_grown
    (pool : Pool)
    (nodeId other : NodeId)
    (workerType otherType : WorkerType) :
    (grown pool nodeId workerType).workers other otherType =
      if other = nodeId ∧ otherType = workerType then
        pool.workers nodeId workerType ++ [pool.nextActor]
      else pool.workers other otherType :=
  Pool.workers_setWorkers _ _ _ _ _ _

/-- The actors that are tracked are those that were, and the new one in its group. -/
theorem mem_workers_grown
    {pool : Pool}
    {nodeId other : NodeId}
    {workerType otherType : WorkerType}
    {actor : Actor} :
    actor ∈ (grown pool nodeId workerType).workers other otherType ↔
      actor ∈ pool.workers other otherType ∨
        actor = pool.nextActor ∧ other = nodeId ∧ otherType = workerType := by
  rw [workers_grown]
  split
  · next here =>
    obtain ⟨rfl, rfl⟩ := here
    simp
  · next elsewhere => simp [elsewhere]

/-- A new actor is tracked in one group only and has no lease. -/
theorem Sound.grow
    (sound : Sound config system)
    {nodeId : NodeId}
    {workerType : WorkerType}
    (room : (system.pool.workers nodeId workerType).length < target config workerType) :
    Sound config { system with pool := grown system.pool nodeId workerType } := by
  have untracked : ∀ other otherType, system.pool.nextActor ∉ system.pool.workers other otherType :=
    fun other otherType inside => (sound.numbered _ ⟨other, otherType, inside⟩).false
  have tracked : ∀ actor, Tracked (grown system.pool nodeId workerType) actor ↔
      Tracked system.pool actor ∨ actor = system.pool.nextActor := by
    intro actor
    simp only [Tracked, mem_workers_grown]
    constructor
    · rintro ⟨other, otherType, old | ⟨new, _⟩⟩
      · exact .inl ⟨other, otherType, old⟩
      · exact .inr new
    · rintro (⟨other, otherType, old⟩ | new)
      · exact ⟨other, otherType, .inl old⟩
      · exact ⟨nodeId, workerType, .inr ⟨new, rfl, rfl⟩⟩
  have unissued : ∀ lease ∈ system.issued, lease.actor ≠ system.pool.nextActor :=
    fun lease member => (sound.issued lease member).ne
  refine
    { distinct := fun other otherType => ?_
      apart := fun node type other otherType actor here there => ?_
      sizes := fun other otherType => ?_
      numbered := fun actor there => ?_
      issued := fun lease member => (sound.issued lease member).trans (Nat.lt_succ_self _)
      placed := fun lease member other otherType inside => ?_
      alike := sound.alike
      held := sound.held
      once := sound.once
      busy := fun actor => ?_
      ended := fun actor member => ?_
      gpu := sound.gpu }
  · dsimp only
    rw [workers_grown]
    split
    · exact List.nodup_append.mpr ⟨sound.distinct _ _, List.nodup_singleton _, by
        rintro actor old new fresh rfl
        rw [List.mem_singleton.mp fresh] at old
        exact untracked _ _ old⟩
    · exact sound.distinct other otherType
  · rcases mem_workers_grown.mp here with old | ⟨new, isNode, isType⟩ <;>
      rcases mem_workers_grown.mp there with known | ⟨other, otherNode, otherType⟩
    · exact sound.apart _ _ _ _ actor old known
    · exact absurd (other ▸ old) (untracked _ _)
    · exact absurd (new ▸ known) (untracked _ _)
    · exact ⟨isNode.trans otherNode.symm, isType.trans otherType.symm⟩
  · dsimp only
    rw [workers_grown]
    split
    · next here =>
      rw [List.length_append, List.length_singleton, here.2]
      exact room
    · exact sound.sizes other otherType
  · rcases (tracked actor).mp there with old | rfl
    · exact (sound.numbered actor old).trans (Nat.lt_succ_self _)
    · exact Nat.lt_succ_self _
  · rcases mem_workers_grown.mp inside with old | ⟨new, _⟩
    · exact sound.placed lease member other otherType old
    · exact absurd new (unissued lease member)
  · have leased : actor ∈ system.held.map Lease.actor → actor ≠ system.pool.nextActor := by
      intro member
      obtain ⟨lease, inside, rfl⟩ := List.mem_map.mp member
      exact unissued lease (sound.held lease inside)
    rw [tracked]
    refine (sound.busy actor).trans ⟨fun both => ⟨.inl both.1, both.2⟩, fun both => ⟨?_, both.2⟩⟩
    exact both.1.resolve_right (leased both.2)
  · obtain ⟨gone, given⟩ := sound.ended actor member
    refine ⟨fun there => ?_, given⟩
    obtain ⟨lease, inside, rfl⟩ := List.mem_map.mp given
    rcases (tracked _).mp there with old | new
    · exact gone old
    · exact unissued lease inside new

theorem workers_removeNode_sublist
    (pool : Pool)
    (nodeId other : NodeId)
    (workerType : WorkerType) :
    ((pool.removeNode nodeId).workers other workerType).Sublist
      (pool.workers other workerType) := by
  rw [Pool.workers_removeNode]
  split
  · exact List.nil_sublist _
  · exact List.Sublist.refl _

/-- Removing a node takes its actors out of the busy set, and no other. -/
theorem Sound.removeNode
    (sound : Sound config system)
    (nodeId : NodeId) :
    Sound config { system with pool := system.pool.removeNode nodeId } := by
  refine sound.fewer (workers_removeNode_sublist _ nodeId) rfl fun actor => ?_
  rw [Pool.busy_removeNode]
  refine and_congr_right fun busy => ?_
  obtain ⟨other, workerType, here⟩ := ((sound.busy actor).mp busy).1
  constructor
  · intro elsewhere
    refine ⟨other, workerType, ?_⟩
    rw [Pool.workers_removeNode, if_neg]
    · exact here
    · rintro rfl
      exact elsewhere workerType here
  · rintro ⟨node, type, inside⟩ otherType there
    rw [Pool.workers_removeNode] at inside
    split at inside
    · exact absurd inside List.not_mem_nil
    · next apart => exact apart (sound.apart _ _ _ _ actor inside there).1

/-- A list that is set to itself changes nothing that is tracked. -/
theorem Sound.same
    (sound : Sound config system)
    {pool : Pool}
    (workers : ∀ nodeId workerType,
      pool.workers nodeId workerType = system.pool.workers nodeId workerType)
    (next : pool.nextActor = system.pool.nextActor)
    (busy : pool.busyWorkerIds = system.pool.busyWorkerIds) :
    Sound config { system with pool := pool } := by
  refine sound.fewer (fun nodeId workerType => workers nodeId workerType ▸ List.Sublist.refl _)
    next fun actor => ?_
  rw [busy]
  refine ⟨fun inside => ⟨inside, ?_⟩, And.left⟩
  obtain ⟨nodeId, workerType, here⟩ := ((sound.busy actor).mp inside).1
  exact ⟨nodeId, workerType, workers nodeId workerType ▸ here⟩

end Steps

/-! ## Filling the groups -/

theorem get?_setWorkers
    (pool : Pool)
    {nodeId other : NodeId}
    (differ : other ≠ nodeId)
    (workerType : WorkerType)
    (workers : List Actor) :
    (pool.setWorkers nodeId workerType workers).nodeWorkers.get? other =
      pool.nodeWorkers.get? other := by
  rw [Pool.setWorkers, Table.get?_set, if_neg differ]

theorem get?_addNode
    (pool : Pool)
    {nodeId other : NodeId}
    (differ : other ≠ nodeId) :
    (pool.addNode nodeId).nodeWorkers.get? other = pool.nodeWorkers.get? other := by
  unfold Pool.addNode
  split
  · rfl
  · rw [Table.get?_set, if_neg differ]

section Filling

variable
  (config : Config) (creates : Actor → Bool)
  (system : System) (start : Actor) (nodes : List NodeId)

/-- While the groups are filled: some are full, and no other nodes are there than the live ones. -/
structure Progress
    (full : NodeId → WorkerType → Prop)
    (pool : Pool) : Prop where
  sound : Sound config { system with pool := pool }
  started : start ≤ pool.nextActor
  live : ∀ nodeId, nodeId ∉ nodes → pool.nodeWorkers.get? nodeId = none
  full : ∀ nodeId workerType, full nodeId workerType →
    (pool.workers nodeId workerType).length = target config workerType

/-- Where it stops, creating an actor has failed. -/
def Failed
    (_ : CreationError)
    (pool : Pool) : Prop :=
  Sound config { system with pool := pool } ∧ ∃ actor, start ≤ actor ∧ creates actor = false

variable {config creates system start nodes}

theorem createActor_eq
    (nodeId : NodeId)
    (workerType : WorkerType)
    (pool : Pool) :
    createActor creates nodeId workerType pool =
      if creates pool.nextActor then .ok () (grown pool nodeId workerType)
      else .error .failed { pool with nextActor := pool.nextActor + 1 } := by
  have opened : createActor creates nodeId workerType pool =
      (if creates pool.nextActor then
        modify fun pool' => pool'.setWorkers nodeId workerType
          (pool'.workers nodeId workerType ++ [pool.nextActor])
      else throw .failed : EStateM CreationError Pool Unit)
        { pool with nextActor := pool.nextActor + 1 } := rfl
  rw [opened]
  split <;> rfl

theorem createActor_ensures
    {full : NodeId → WorkerType → Prop}
    {nodeId : NodeId}
    (isLive : nodeId ∈ nodes)
    (workerType : WorkerType)
    (count : ℕ) :
    Ensures
      (fun pool => Progress config system start nodes full pool ∧
        (pool.workers nodeId workerType).length + (count + 1) = target config workerType)
      (createActor creates nodeId workerType)
      (fun _ pool => Progress config system start nodes full pool ∧
        (pool.workers nodeId workerType).length + count = target config workerType)
      (Failed config creates system start) := by
  rintro pool ⟨progress, length⟩
  rw [createActor_eq]
  have sound := progress.sound
  cases created : creates pool.nextActor with
  | false => exact ⟨sound.numberUsed, pool.nextActor, progress.started, created⟩
  | true =>
      rw [if_pos rfl]
      refine ⟨⟨sound.grow (by dsimp only; omega), progress.started.trans (Nat.le_succ _), ?_, ?_⟩,
        ?_⟩
      · intro other dead
        have differ : other ≠ nodeId := by
          rintro rfl
          exact dead isLive
        rw [grown, get?_setWorkers _ differ]
        exact progress.live other dead
      · intro other otherType isFull
        have before := progress.full other otherType isFull
        rw [workers_grown]
        split
        · next here =>
          obtain ⟨rfl, rfl⟩ := here
          omega
        · exact before
      · rw [workers_grown, if_pos ⟨rfl, rfl⟩, List.length_append, List.length_singleton]
        omega

theorem fill_ensures
    {full : NodeId → WorkerType → Prop}
    {nodeId : NodeId}
    (isLive : nodeId ∈ nodes)
    (workerType : WorkerType)
    (count : ℕ) :
    Ensures
      (fun pool => Progress config system start nodes full pool ∧
        (pool.workers nodeId workerType).length + count = target config workerType)
      (fill creates nodeId workerType count)
      (fun _ pool => Progress config system start nodes full pool ∧
        (pool.workers nodeId workerType).length = target config workerType)
      (Failed config creates system start) := by
  induction count with
  | zero => exact ensures_pure fun _ holds => holds
  | succ count inductionHypothesis =>
      exact ensures_bind (createActor_ensures isLive workerType count) fun _ =>
        inductionHypothesis

/-- A group of a live node is full in the end, and those that were full still are. -/
theorem ensureGroup_ensures
    {full : NodeId → WorkerType → Prop}
    {nodeId : NodeId}
    (isLive : nodeId ∈ nodes)
    {size : WorkerType × ℕ}
    (isSize : target config size.1 = size.2) :
    Ensures (Progress config system start nodes full)
      (ensureGroup creates nodeId size)
      (fun _ => Progress config system start nodes fun other otherType =>
        full other otherType ∨ other = nodeId ∧ otherType = size.1)
      (Failed config creates system start) := by
  have unchanged : ∀ pool, Progress config system start nodes full pool →
      Progress config system start nodes full
        (pool.setWorkers nodeId size.1 (pool.workers nodeId size.1)) := by
    intro pool progress
    have same : ∀ other otherType,
        (pool.setWorkers nodeId size.1 (pool.workers nodeId size.1)).workers other otherType =
          pool.workers other otherType := by
      intro other otherType
      rw [Pool.workers_setWorkers]
      split
      · next here => rw [here.1, here.2]
      · rfl
    refine ⟨progress.sound.same same rfl rfl, progress.started, ?_, ?_⟩
    · intro other dead
      have differ : other ≠ nodeId := by
        rintro rfl
        exact dead isLive
      rw [get?_setWorkers _ differ]
      exact progress.live other dead
    · intro other otherType isFull
      rw [same]
      exact progress.full other otherType isFull
  refine ensures_via (fun _ => Progress config system start nodes full)
    (ensures_modify unchanged) fun _ => ensures_get fun pool progress => ?_
  have room := progress.sound.sizes nodeId size.1
  dsimp only at room
  rw [isSize] at room
  have filled := @fill_ensures config creates system start nodes full nodeId isLive size.1
    (size.2 - (pool.workers nodeId size.1).length)
  refine ensures_bind (filled.weaken ?_ (fun _ _ => id) fun _ _ => id) fun _ =>
    ensures_modify ?_
  · rintro _ rfl
    refine ⟨progress, ?_⟩
    rw [isSize]
    omega
  · rintro after ⟨made, length⟩
    rw [isSize] at length
    -- no group is larger than its size, so that none is made smaller
    rw [length, Nat.sub_self]
    refine ⟨made.sound, made.started, made.live, ?_⟩
    rintro other otherType (isFull | ⟨rfl, rfl⟩)
    · exact made.full other otherType isFull
    · rw [isSize]
      exact length

/-- A type that has no size has no actors. -/
theorem Progress.unknownType
    {full : NodeId → WorkerType → Prop}
    {pool : Pool}
    (progress : Progress config system start nodes full pool)
    (nodeId : NodeId)
    {workerType : WorkerType}
    (unknown : workerType ∉ config.sizes.entries.map Prod.fst) :
    (pool.workers nodeId workerType).length = target config workerType := by
  have noSize : target config workerType = 0 := by
    unfold target
    cases found : config.sizes.get? workerType with
    | none => rfl
    | some size =>
        have member := (config.sizes.get?_eq_some_iff _ _).mp found
        exact absurd (List.mem_map_of_mem member) unknown
  have room := progress.sound.sizes nodeId workerType
  dsimp only at room
  omega

/-- All groups of a live node are full in the end. -/
theorem ensureNode_ensures
    {full : NodeId → Prop}
    {nodeId : NodeId}
    (isLive : nodeId ∈ nodes) :
    Ensures (Progress config system start nodes fun other _ => full other)
      (ensureNode config creates nodeId)
      (fun _ => Progress config system start nodes fun other _ => full other ∨ other = nodeId)
      (Failed config creates system start) := by
  let invariant : List (WorkerType × ℕ) → Pool → Prop := fun rest pool =>
    rest ⊆ config.sizes.entries ∧
      Progress config system start nodes
        (fun other otherType => full other ∨ other = nodeId ∧ otherType ∉ rest.map Prod.fst) pool
  have loop : Ensures (invariant config.sizes.entries)
      (config.sizes.entries.forM (ensureGroup creates nodeId)) (fun _ => invariant [])
      (Failed config creates system start) := by
    refine ensures_forM (fun size rest => ?_) _
    rintro pool ⟨known, progress⟩
    have isSize : target config size.1 = size.2 := by
      have found := (config.sizes.get?_eq_some_iff size.1 size.2).mpr (known List.mem_cons_self)
      rw [target, found, Option.getD_some]
    refine ((ensureGroup_ensures isLive isSize).weaken (fun _ => id) ?_ fun _ _ => id) pool progress
    intro _ after made
    refine ⟨fun other inside => known (List.mem_cons_of_mem _ inside), made.sound, made.started,
      made.live, ?_⟩
    rintro other otherType (isFull | ⟨rfl, left⟩)
    · exact made.full other otherType (.inl (.inl isFull))
    · by_cases same : otherType = size.1
      · exact made.full other otherType (.inr ⟨rfl, same⟩)
      · refine made.full other otherType (.inl (.inr ⟨rfl, ?_⟩))
        rw [List.map_cons, List.mem_cons, not_or]
        exact ⟨same, left⟩
  refine ensures_via (fun _ => invariant config.sizes.entries) (ensures_modify ?_) fun _ =>
    loop.weaken (fun _ => id) ?_ fun _ _ => id
  · intro pool progress
    have nextActor : (pool.addNode nodeId).nextActor = pool.nextActor := by
      unfold Pool.addNode
      split <;> rfl
    have busy : (pool.addNode nodeId).busyWorkerIds = pool.busyWorkerIds := by
      unfold Pool.addNode
      split <;> rfl
    have added : Progress config system start nodes (fun other _ => full other)
        (pool.addNode nodeId) := by
      refine ⟨progress.sound.same (fun _ _ => Pool.workers_addNode _ _ _ _) nextActor busy,
        nextActor ▸ progress.started, ?_, ?_⟩
      · intro other dead
        have differ : other ≠ nodeId := by
          rintro rfl
          exact dead isLive
        rw [get?_addNode _ differ]
        exact progress.live other dead
      · intro other otherType isFull
        rw [Pool.workers_addNode]
        exact progress.full other otherType isFull
    refine ⟨List.Subset.refl _, added.sound, added.started, added.live, ?_⟩
    rintro other otherType (isFull | ⟨_, unknown⟩)
    · exact added.full other otherType isFull
    · exact added.unknownType other unknown
  · rintro _ after ⟨_, made⟩
    refine ⟨made.sound, made.started, made.live, ?_⟩
    rintro other otherType (isFull | rfl)
    · exact made.full other otherType (.inl isFull)
    · exact made.full other otherType (.inr ⟨rfl, List.not_mem_nil⟩)

end Filling

/-! ## The nodes that are not alive -/

theorem get?_removeNodes
    (stale : List NodeId)
    (pool : Pool)
    (nodeId : NodeId) :
    (stale.foldl Pool.removeNode pool).nodeWorkers.get? nodeId =
      if nodeId ∈ stale then none else pool.nodeWorkers.get? nodeId := by
  induction stale generalizing pool with
  | nil => simp
  | cons first stale inductionHypothesis =>
      rw [List.foldl_cons, inductionHypothesis, Pool.removeNode, Table.get?_erase]
      by_cases isFirst : nodeId = first <;> simp [isFirst]

theorem nextActor_removeNodes
    (stale : List NodeId)
    (pool : Pool) :
    (stale.foldl Pool.removeNode pool).nextActor = pool.nextActor := by
  induction stale generalizing pool with
  | nil => rfl
  | cons first stale inductionHypothesis => exact inductionHypothesis _

theorem Sound.removeNodes
    {config : Config}
    {system : System}
    (sound : Sound config system)
    (stale : List NodeId) :
    Sound config { system with pool := stale.foldl Pool.removeNode system.pool } := by
  induction stale generalizing system with
  | nil => exact sound
  | cons first stale inductionHypothesis => exact inductionHypothesis (sound.removeNode first)

theorem mem_sortNodes
    {nodes : List NodeId}
    {nodeId : NodeId} :
    nodeId ∈ sortNodes nodes ↔ nodeId ∈ nodes := by
  rw [sortNodes, List.mem_insertionSort, List.mem_dedup]

/-- What `ensure_for_nodes` does of a pool that is enabled. -/
theorem ensureForNodes_ensures
    {config : Config}
    {system : System}
    (creates : Actor → Bool)
    (nodes : List NodeId)
    (sound : Sound config system)
    (enabled : config.enabled = true) :
    Ensures (fun pool => pool = system.pool) (ensureForNodes config creates nodes)
      (fun _ => Progress config system system.pool.nextActor nodes fun nodeId _ => nodeId ∈ nodes)
      (Failed config creates system system.pool.nextActor) := by
  let invariant : List NodeId → Pool → Prop := fun rest pool =>
    rest ⊆ nodes ∧
      Progress config system system.pool.nextActor nodes
        (fun nodeId _ => nodeId ∈ nodes ∧ nodeId ∉ rest) pool
  have loop : Ensures (invariant (sortNodes nodes))
      ((sortNodes nodes).forM (ensureNode config creates)) (fun _ => invariant [])
      (Failed config creates system system.pool.nextActor) := by
    refine ensures_forM (fun nodeId rest => ?_) _
    rintro pool ⟨known, progress⟩
    have isLive := known List.mem_cons_self
    refine ((ensureNode_ensures isLive).weaken (fun _ => id) ?_ fun _ _ => id) pool progress
    intro _ after made
    refine ⟨fun other inside => known (List.mem_cons_of_mem _ inside), made.sound, made.started,
      made.live, ?_⟩
    rintro other otherType ⟨member, left⟩
    by_cases same : other = nodeId
    · exact made.full other otherType (.inr same)
    · refine made.full other otherType (.inl ⟨member, ?_⟩)
      rw [List.mem_cons, not_or]
      exact ⟨same, left⟩
  rw [ensureForNodes, if_pos enabled]
  refine ensures_via (fun _ => invariant (sortNodes nodes)) (ensures_modify ?_) fun _ =>
    loop.weaken (fun _ => id) ?_ fun _ _ => id
  · rintro _ rfl
    refine ⟨fun _ => mem_sortNodes.mp, sound.removeNodes _, (nextActor_removeNodes _ _).ge, ?_, ?_⟩
    · intro nodeId dead
      rw [get?_removeNodes]
      split
      · rfl
      · next kept =>
        by_contra there
        apply kept
        obtain ⟨groups, found⟩ := Option.ne_none_iff_exists'.mp there
        have member := (system.pool.nodeWorkers.get?_eq_some_iff _ _).mp found
        exact List.mem_filter.mpr ⟨List.mem_map_of_mem member, decide_eq_true dead⟩
    · rintro nodeId _ ⟨member, left⟩
      exact absurd (mem_sortNodes.mpr member) left
  · rintro _ after ⟨_, made⟩
    refine ⟨made.sound, made.started, made.live, ?_⟩
    intro nodeId workerType member
    exact made.full nodeId workerType ⟨member, List.not_mem_nil⟩

end Maze.Scheduler.StandbyPool
