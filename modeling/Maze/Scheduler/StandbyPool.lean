import Mathlib.Data.Finset.SDiff
import Maze.Core.EventLog
import Maze.Library.Fallible
import Maze.Library.Table
import Maze.Library.Transition

namespace Maze.Scheduler.StandbyPool

open Maze.Library
open Maze.Library.Fallible
open Maze.Python

/-!
# The pool of standby workers

`StandbyWorkerPoolManager` keeps a number of warm actors of each type on each node. The
dispatcher takes a lease of an idle actor and gives it back when the task is over. An actor
of type `gpu`, and one that is given back to be discarded, is killed and replaced.

Actors are numbered in the order of the attempts to create them, as no two objects that are
alive have one `id`. A lease keeps its actor alive, and only tracked actors are busy, so the
busy set never has the `id` of an object that is gone. What killing an actor raises is
caught and changes nothing.
-/

abbrev NodeId := PyStr

abbrev WorkerType := PyStr

abbrev Actor := ℕ

/-- `pool_sizes` and `enabled`; the sizes are not negative. -/
structure Config where
  sizes : Table WorkerType ℕ
  enabled : Bool

/-- `StandbyWorkerLease`. -/
structure Lease where
  nodeId : NodeId
  workerType : WorkerType
  actor : Actor
  deriving DecidableEq

/-- `node_workers` and `busy_worker_ids`, with the number of the next actor. -/
structure Pool where
  nodeWorkers : Table NodeId (Table WorkerType (List Actor))
  busyWorkerIds : Finset Actor
  nextActor : Actor

namespace Pool

/-- A pool that tracks nothing. -/
def empty : Pool := ⟨.empty, ∅, 0⟩

/-- `node_workers.get(node_id, {}).get(worker_type, [])`. -/
def workers
    (pool : Pool)
    (nodeId : NodeId)
    (workerType : WorkerType) :
    List Actor :=
  ((pool.nodeWorkers.get? nodeId).bind fun groups => groups.get? workerType).getD []

/-- The list of a group is changed in place; a group that is not there is added. -/
def setWorkers
    (pool : Pool)
    (nodeId : NodeId)
    (workerType : WorkerType)
    (workers : List Actor) :
    Pool :=
  let groups := (pool.nodeWorkers.get? nodeId).getD .empty
  { pool with nodeWorkers := pool.nodeWorkers.set nodeId (groups.set workerType workers) }

/-- `node_workers.setdefault(node_id, {})`. -/
def addNode
    (pool : Pool)
    (nodeId : NodeId) :
    Pool :=
  match pool.nodeWorkers.get? nodeId with
  | some _ => pool
  | none => { pool with nodeWorkers := pool.nodeWorkers.set nodeId .empty }

/-- `remove_node`. -/
def removeNode
    (pool : Pool)
    (nodeId : NodeId) :
    Pool :=
  let groups := (pool.nodeWorkers.get? nodeId).getD .empty
  { pool with
    nodeWorkers := pool.nodeWorkers.erase nodeId
    busyWorkerIds :=
      pool.busyWorkerIds \ (groups.entries.flatMap Prod.snd).toFinset }

end Pool

/-- What creating an actor raises. -/
inductive CreationError where
  | failed

section Manager

variable (config : Config) (creates : Actor → Bool)

/-- `workers.append(self.actor_factory(node_id, worker_type))`. -/
def createActor
    (nodeId : NodeId)
    (workerType : WorkerType) :
    EStateM CreationError Pool Unit := do
  let pool ← get
  set { pool with nextActor := pool.nextActor + 1 }
  if creates pool.nextActor then
    modify fun pool' => pool'.setWorkers nodeId workerType
      (pool'.workers nodeId workerType ++ [pool.nextActor])
  else
    throw .failed

/-- Create actors until the group has enough of them, which are `count` more. -/
def fill
    (nodeId : NodeId)
    (workerType : WorkerType) :
    ℕ → EStateM CreationError Pool Unit
  | 0 => pure ()
  | count + 1 => do
      createActor creates nodeId workerType
      fill nodeId workerType count

/-- Kill idle actors, the last ones first, until the group has `count` fewer. -/
def shrink
    (nodeId : NodeId)
    (workerType : WorkerType) :
    ℕ → Pool → Pool
  | 0, pool => pool
  | count + 1, pool =>
      match (pool.workers nodeId workerType).reverse.find? (· ∉ pool.busyWorkerIds) with
      | none => pool
      | some removable =>
          shrink nodeId workerType count
            (pool.setWorkers nodeId workerType
              ((pool.workers nodeId workerType).erase removable))

/-- One type of actors of one node. -/
def ensureGroup
    (nodeId : NodeId)
    (size : WorkerType × ℕ) :
    EStateM CreationError Pool Unit := do
  modify fun pool => pool.setWorkers nodeId size.1 (pool.workers nodeId size.1)
  let pool ← get
  fill creates nodeId size.1 (size.2 - (pool.workers nodeId size.1).length)
  modify fun pool =>
    shrink nodeId size.1 ((pool.workers nodeId size.1).length - size.2) pool

/-- The actors of one node. -/
def ensureNode (nodeId : NodeId) : EStateM CreationError Pool Unit := do
  modify fun pool => pool.addNode nodeId
  config.sizes.entries.forM (ensureGroup creates nodeId)

/-- The nodes of the pool that are not alive. -/
def staleNodes
    (nodes : List NodeId)
    (pool : Pool) :
    List NodeId :=
  (pool.nodeWorkers.entries.map Prod.fst).filter (· ∉ nodes)

/-- `sorted(live_node_ids)`. -/
def sortNodes (nodes : List NodeId) : List NodeId :=
  nodes.dedup.insertionSort fun first second => first.chars ≤ second.chars

/-- `ensure_for_nodes`. -/
def ensureForNodes (nodes : List NodeId) : EStateM CreationError Pool Unit :=
  if config.enabled then do
    modify fun pool => (staleNodes nodes pool).foldl Pool.removeNode pool
    (sortNodes nodes).forM (ensureNode config creates)
  else
    pure ()

/-- `(task_kind or "cpu").strip().lower()`. -/
def workerTypeOf
    (lower : PyStr → PyStr)
    (taskKind : Option PyStr) :
    WorkerType :=
  lower ⟨Core.EventLog.strip ((taskKind.filter fun kind => !kind.isEmpty).getD "cpu").chars⟩

/-- `acquire`. -/
def acquire
    (lower : PyStr → PyStr)
    (nodeId : NodeId)
    (taskKind : Option PyStr)
    (pool : Pool) :
    Option Lease × Pool :=
  if config.enabled then
    let workerType := workerTypeOf lower taskKind
    match (pool.workers nodeId workerType).find? (· ∉ pool.busyWorkerIds) with
    | none => (none, pool)
    | some actor =>
        (some ⟨nodeId, workerType, actor⟩,
          { pool with busyWorkerIds := insert actor pool.busyWorkerIds })
  else
    (none, pool)

/-- Where the lease ends the actor as well. -/
def endsActor
    (lease : Lease)
    (discard : Bool) :
    Bool :=
  discard || lease.workerType = "gpu"

/-- Create actors until one attempt fails. -/
def refill
    (nodeId : NodeId)
    (workerType : WorkerType)
    (pool : Pool) :
    Pool :=
  let missing := (config.sizes.get? workerType).getD 0 - (pool.workers nodeId workerType).length
  if config.enabled then
    match fill creates nodeId workerType missing pool with
    | .ok _ after => after
    | .error _ after => after
  else
    pool

/-- `release` of a lease. -/
def release
    (lease : Lease)
    (discard : Bool)
    (pool : Pool) :
    Pool :=
  let idle := { pool with busyWorkerIds := pool.busyWorkerIds.erase lease.actor }
  if endsActor lease discard && lease.actor ∈ idle.workers lease.nodeId lease.workerType then
    refill config creates lease.nodeId lease.workerType
      (idle.setWorkers lease.nodeId lease.workerType
        ((idle.workers lease.nodeId lease.workerType).erase lease.actor))
  else
    idle

/-! ## The pool and the holders of its leases -/

/--
The pool, the leases that are not released, and what has happened so far: every lease that
was given out, and the actors that a release has ended.
-/
structure System where
  pool : Pool
  held : List Lease
  issued : List Lease
  ended : List Actor

def System.start : System := ⟨.empty, [], [], []⟩

/-- A call of the dispatcher, of the completion of a task or of the monitor. -/
inductive Call where
  | ensureForNodes (nodes : List NodeId)
  | acquire (nodeId : NodeId) (taskKind : Option PyStr)
  | release (lease : Option Lease) (discard : Bool)
  | removeNode (nodeId : NodeId)

/-- What a call that raises has done is not undone. -/
def afterCall
    (call : EStateM CreationError Pool Unit)
    (pool : Pool) :
    Pool :=
  match call pool with
  | .ok _ after => after
  | .error _ after => after

/-- The lease that `acquire` returns has a holder. -/
def System.acquire
    (lower : PyStr → PyStr)
    (nodeId : NodeId)
    (taskKind : Option PyStr)
    (system : System) :
    System :=
  match StandbyPool.acquire config lower nodeId taskKind system.pool with
  | (none, pool) => { system with pool := pool }
  | (some lease, pool) =>
      { system with
        pool := pool
        held := system.held ++ [lease]
        issued := system.issued ++ [lease] }

/-- One call; a lease is released by its holder and not again. -/
def step?
    (lower : PyStr → PyStr)
    (system : System) :
    Call → Option System
  | .ensureForNodes nodes =>
      some { system with pool := afterCall (ensureForNodes config creates nodes) system.pool }
  | .acquire nodeId taskKind => some (system.acquire config lower nodeId taskKind)
  | .release none _ => some system
  | .release (some lease) discard =>
      if lease ∈ system.held then
        some
          { system with
            pool := StandbyPool.release config creates lease discard system.pool
            held := system.held.erase lease
            ended :=
              if endsActor lease discard then system.ended ++ [lease.actor]
              else system.ended }
      else
        none
  | .removeNode nodeId => some { system with pool := system.pool.removeNode nodeId }

end Manager

end Maze.Scheduler.StandbyPool
