import Maze.Files.ArtifactStore
import Maze.Library.Transition

namespace Maze.Files.ArtifactStore

open Maze.Python
open Maze.Python.Utf8 (Byte)
open Maze.Library
open Maze.Library.Transition

/-!
# Private artifacts

The store is used by any number of principals, whose transactions follow each other in any
order. A transaction that is refused changes nothing, and a process that ends between two
transactions is one that does not take the second. The transactions that write a blob change
no row, so one that ends early has written the blob or done nothing; only in a reaping there
is something between the file and the commit. Beside the store, a system remembers
which capabilities are live, what they have been granted, and how a blob on disk has been
stored first.
-/

/-- How the bytes of a blob came to the disk. -/
inductive Origin where
  /-- There was a private reservation. -/
  | reserved
  | openly
  deriving DecidableEq

/-- The store and its history. -/
structure System (Digest : Type) where
  store : Store Digest
  /-- The live capabilities and their owners. -/
  issued : List (PyStr × Option PyStr)
  /-- The live grants: an artifact and a capability. -/
  granted : List (Digest × PyStr)
  origins : Table Digest Origin

/-- A new store. -/
def System.initial {Digest : Type} : System Digest :=
  ⟨.empty, [], [], .empty⟩

/-- One transaction. -/
inductive Action (Digest : Type) where
  | createCapability (ownerId : Option PyStr) (capability : PyStr)
  | markPrivate (sha : Digest) (capability : PyStr)
  | putPrivateBlob (hash : Digest) (data : List Byte)
  | putPublicOrAuthorizedBlob (capability : Option PyStr) (data : List Byte)
  | canRead (sha : Digest) (capability : Option PyStr)
  | revoke (ownerId : PyStr)
  | reap
  /-- The process ends between the unlink and the commit. -/
  | crashedReap

variable {Digest : Type} [LinearOrder Digest]

namespace System

/-- A blob that is not there yet is stored now. -/
def stored
    (system : System Digest)
    (sha : Digest)
    (store : Store Digest) :
    System Digest :=
  { system with
    store := store
    origins :=
      if system.store.blobs.contains sha then system.origins
      else
        system.origins.set sha (if isPrivate sha system.store then .reserved else .openly) }

/-- The capabilities of an owner are revoked. -/
def revoked
    (system : System Digest)
    (ownerId : PyStr) :
    System Digest :=
  { system with
    store := revokeTransaction ownerId system.store
    issued := system.issued.filter fun capability => capability.2 ≠ some ownerId
    granted := system.granted.filter fun grant => (grant.2, some ownerId) ∉ system.issued }

/-- The blob is unlinked; the store is what the transaction leaves. -/
def unlinked
    (system : System Digest)
    (sha : Digest)
    (store : Store Digest) :
    System Digest :=
  { system with
    store := store
    origins := system.origins.erase sha }

end System

/-- One transaction of the system, unless it is refused. -/
def step?
    (sha256 : List Byte → Digest)
    (system : System Digest) :
    Action Digest → Option (System Digest)
  | .createCapability ownerId capability =>
      match createCapability sha256 ownerId capability system.store with
      | .ok store =>
          some { system with
            store := store
            issued := system.issued ++ [(capability, ownerId)] }
      | .error _ => none
  | .markPrivate sha capability =>
      match markPrivate sha256 sha capability system.store with
      | .ok (_, store) =>
          some { system with
            store := store
            granted := system.granted ++ [(sha, capability)] }
      | .error _ => none
  | .putPrivateBlob hash data =>
      match putPrivateBlob (sha256 data) hash data system.store with
      | .ok store => some (system.stored (sha256 data) store)
      | .error _ => none
  | .putPublicOrAuthorizedBlob capability data =>
      match putPublicOrAuthorizedBlob sha256 (sha256 data) capability data system.store with
      | .ok store => some (system.stored (sha256 data) store)
      | .error _ => none
  | .canRead _ _ => some system
  | .revoke ownerId => if ownerId = "" then none else some (system.revoked ownerId)
  | .reap => do
      let sha ← orphan? system.store
      let store ← reapTransaction system.store
      some (system.unlinked sha store)
  | .crashedReap => do
      let sha ← orphan? system.store
      let store ← crashedReapTransaction system.store
      some (system.unlinked sha store)

/-! ## What the database says about the capabilities -/

section Capabilities

variable {sha256 : List Byte → Digest}

omit [LinearOrder Digest] in
/-- Two texts with the same hash are the same text. -/
theorem capabilityHash_injective
    (noCollision : Function.Injective sha256)
    {first second : PyStr}
    {hash : Digest}
    (firstHash : capabilityHash sha256 first = .ok hash)
    (secondHash : capabilityHash sha256 second = .ok hash) :
    first = second := by
  have decoded (text : PyStr) (given : capabilityHash sha256 text = .ok hash) :
      ∃ bytes, sha256 bytes = hash ∧ Utf8.decode bytes = .ok text.chars := by
    unfold capabilityHash at given
    split at given
    · cases given
    · split at given
      · next bytes encoded =>
        unfold Utf8.encode at encoded
        split at encoded
        · next encodable =>
          cases encoded
          exact ⟨_, Except.ok.inj given,
            Utf8.decode_encodePoints ((Utf8.writable_iff text).mp encodable)⟩
        · cases encoded
      · cases given
  obtain ⟨bytes, hashed, read⟩ := decoded first firstHash
  obtain ⟨others, hashed', read'⟩ := decoded second secondHash
  have same : bytes = others := noCollision (hashed.trans hashed'.symm)
  subst same
  have chars : first.chars = second.chars := Except.ok.inj (read.symm.trans read')
  cases first
  cases second
  cases chars
  rfl

/-- The capabilities, owners and grants of the database are the live ones, hashed. -/
structure Authorized (sha256 : List Byte → Digest) (system : System Digest) : Prop where
  capabilities : ∀ hash, hash ∈ system.store.capabilities ↔
    ∃ capability owner, (capability, owner) ∈ system.issued ∧
      capabilityHash sha256 capability = .ok hash
  owners : ∀ owner hash, (owner, hash) ∈ system.store.capabilityOwners ↔
    ∃ capability, (capability, some owner) ∈ system.issued ∧
      capabilityHash sha256 capability = .ok hash
  grants : ∀ sha hash, (sha, hash) ∈ system.store.artifactGrants ↔
    ∃ capability, (sha, capability) ∈ system.granted ∧
      capabilityHash sha256 capability = .ok hash
  live : ∀ sha capability, (sha, capability) ∈ system.granted →
    ∃ owner, (capability, owner) ∈ system.issued
  hashed : ∀ capability owner, (capability, owner) ∈ system.issued →
    ∃ hash, capabilityHash sha256 capability = .ok hash
  oneOwner : ∀ capability owner other, (capability, owner) ∈ system.issued →
    (capability, other) ∈ system.issued → owner = other

omit [LinearOrder Digest] in
theorem authorized_initial :
    Authorized sha256 (System.initial : System Digest) := by
  constructor <;> simp [System.initial, Store.empty]

omit [LinearOrder Digest] in
/-- Nothing that is authorized is changed. -/
theorem Authorized.of_same
    {system next : System Digest}
    (authorized : Authorized sha256 system)
    (capabilities : next.store.capabilities = system.store.capabilities)
    (owners : next.store.capabilityOwners = system.store.capabilityOwners)
    (grants : next.store.artifactGrants = system.store.artifactGrants)
    (issued : next.issued = system.issued)
    (granted : next.granted = system.granted) :
    Authorized sha256 next := by
  obtain ⟨store, nextIssued, nextGranted, origins⟩ := next
  subst issued granted
  exact ⟨capabilities ▸ authorized.capabilities, owners ▸ authorized.owners,
    grants ▸ authorized.grants, authorized.live, authorized.hashed, authorized.oneOwner⟩

/-- An artifact has a grant in the database exactly if it has a live one. -/
theorem Authorized.hasGrant_iff
    {system : System Digest}
    (authorized : Authorized sha256 system)
    (sha : Digest) :
    system.store.hasGrant sha = true ↔ ∃ capability, (sha, capability) ∈ system.granted := by
  rw [hasGrant_eq_true_iff]
  constructor
  · rintro ⟨hash, member⟩
    obtain ⟨capability, given, _⟩ := (authorized.grants _ hash).mp member
    exact ⟨capability, given⟩
  · rintro ⟨capability, given⟩
    obtain ⟨owner, issued⟩ := authorized.live _ _ given
    obtain ⟨hash, hashed⟩ := authorized.hashed _ _ issued
    exact ⟨hash, (authorized.grants sha hash).mpr ⟨capability, given, hashed⟩⟩

/-- What the insertions of a capability change. -/
theorem createCapability_spec
    {ownerId : Option PyStr}
    {capability : PyStr}
    {store next : Store Digest}
    (created : createCapability sha256 ownerId capability store = .ok next) :
    ∃ hash, capabilityHash sha256 capability = .ok hash ∧ hash ∉ store.capabilities ∧
      next = { store with
        capabilities := store.capabilities ++ [hash]
        capabilityOwners := store.capabilityOwners ++
          (ownerId.toList.map fun owner => (owner, hash)) } := by
  unfold createCapability at created
  split at created
  · cases created
  · cases hashed : capabilityHash sha256 capability with
    | error raised =>
        rw [hashed] at created
        cases created
    | ok hash =>
        rw [hashed] at created
        change insertCapability ownerId hash store = .ok next at created
        unfold insertCapability at created
        split at created
        · cases created
        · next fresh =>
          refine ⟨hash, rfl, fresh, ?_⟩
          cases ownerId with
          | none =>
              cases created
              simp
          | some owner =>
              simp only at created
              split at created
              · cases created
              · cases created
                rfl

theorem Authorized.create
    {system : System Digest}
    {ownerId : Option PyStr}
    {capability : PyStr}
    {next : Store Digest}
    (authorized : Authorized sha256 system)
    (created : createCapability sha256 ownerId capability system.store = .ok next) :
    Authorized sha256
      { system with store := next, issued := system.issued ++ [(capability, ownerId)] } := by
  obtain ⟨hash, isHash, fresh, rfl⟩ := createCapability_spec created
  have unused : ∀ owner, (capability, owner) ∉ system.issued := by
    intro owner issued
    exact fresh ((authorized.capabilities hash).mpr ⟨capability, owner, issued, isHash⟩)
  have same (other : PyStr) (otherHash : Digest) (equal : other = capability)
      (hashed : capabilityHash sha256 other = .ok otherHash) : otherHash = hash := by
    subst equal
    exact Except.ok.inj (hashed.symm.trans isHash)
  constructor
  · intro wanted
    simp only [List.mem_append, List.mem_singleton, authorized.capabilities, Prod.mk.injEq]
    constructor
    · rintro (⟨other, owner, issued, hashed⟩ | rfl)
      · exact ⟨other, owner, .inl issued, hashed⟩
      · exact ⟨capability, ownerId, .inr ⟨rfl, rfl⟩, isHash⟩
    · rintro ⟨other, owner, issued | ⟨equal, _⟩, hashed⟩
      · exact .inl ⟨other, owner, issued, hashed⟩
      · exact .inr (same other wanted equal hashed)
  · intro owner wanted
    simp only [List.mem_append, List.mem_singleton, authorized.owners, Prod.mk.injEq,
      List.mem_map, Option.mem_toList]
    constructor
    · rintro (⟨other, issued, hashed⟩ | ⟨own, rfl, rfl, rfl⟩)
      · exact ⟨other, .inl issued, hashed⟩
      · exact ⟨capability, .inr ⟨rfl, rfl⟩, isHash⟩
    · rintro ⟨other, issued | ⟨equal, own⟩, hashed⟩
      · exact .inl ⟨other, issued, hashed⟩
      · exact .inr ⟨owner, own.symm, rfl, (same other wanted equal hashed).symm⟩
  · exact authorized.grants
  · intro sha other given
    obtain ⟨owner, issued⟩ := authorized.live sha other given
    exact ⟨owner, List.mem_append_left _ issued⟩
  · intro other owner issued
    rcases List.mem_append.mp issued with issued | new
    · exact authorized.hashed other owner issued
    · cases List.mem_singleton.mp new
      exact ⟨hash, isHash⟩
  · intro other owner another first second
    rcases List.mem_append.mp first with first | new
    · rcases List.mem_append.mp second with second | new
      · exact authorized.oneOwner other owner another first second
      · cases List.mem_singleton.mp new
        exact absurd first (unused owner)
    · cases List.mem_singleton.mp new
      rcases List.mem_append.mp second with second | new
      · exact absurd second (unused another)
      · cases List.mem_singleton.mp new
        rfl

/-- What a reservation changes. -/
theorem markPrivate_spec
    {sha hash : Digest}
    {capability : PyStr}
    {store next : Store Digest}
    (marked : markPrivate sha256 sha capability store = .ok (hash, next)) :
    capabilityHash sha256 capability = .ok hash ∧ hash ∈ store.capabilities ∧
      next.capabilities = store.capabilities ∧
      next.capabilityOwners = store.capabilityOwners ∧
      (∀ grant, grant ∈ next.artifactGrants ↔
        grant ∈ store.artifactGrants ∨ grant = (sha, hash)) ∧
      next.blobs = store.blobs ∧
      ∃ row : AccessRow, next.artifactAccess = store.artifactAccess.set sha row ∧
        row.isPrivate = true ∧
        row.managedBlob =
          (((store.artifactAccess.get? sha).map AccessRow.managedBlob).getD false ||
            !store.blobs.contains sha) := by
  unfold markPrivate at marked
  cases hashed : capabilityHash sha256 capability with
  | error raised =>
      rw [hashed] at marked
      cases marked
  | ok found =>
      rw [hashed] at marked
      simp only [Bind.bind, Except.bind] at marked
      split at marked
      · cases marked
      · next known =>
        rw [not_not] at known
        cases marked
        refine ⟨rfl, known, rfl, rfl, ?_, rfl, _, rfl, ?_, ?_⟩
        · intro grant
          simp only
          split
          · next there =>
            constructor
            · exact .inl
            · rintro (member | rfl)
              · exact member
              · exact there
          · rw [List.mem_append, List.mem_singleton]
        · cases store.artifactAccess.get? sha <;> rfl
        · cases store.artifactAccess.get? sha <;> rfl

theorem Authorized.mark
    (noCollision : Function.Injective sha256)
    {system : System Digest}
    {sha hash : Digest}
    {capability : PyStr}
    {next : Store Digest}
    (authorized : Authorized sha256 system)
    (marked : markPrivate sha256 sha capability system.store = .ok (hash, next)) :
    Authorized sha256
      { system with store := next, granted := system.granted ++ [(sha, capability)] } := by
  obtain ⟨isHash, known, capabilities, owners, grants, _, _⟩ := markPrivate_spec marked
  obtain ⟨other, owner, issued, otherHash⟩ := (authorized.capabilities hash).mp known
  obtain rfl : other = capability := capabilityHash_injective noCollision otherHash isHash
  constructor
  · rw [capabilities]
    exact authorized.capabilities
  · rw [owners]
    exact authorized.owners
  · intro wanted wantedHash
    rw [grants, authorized.grants, Prod.mk.injEq]
    simp only [List.mem_append, List.mem_singleton, Prod.mk.injEq]
    constructor
    · rintro (⟨another, given, hashed⟩ | ⟨rfl, rfl⟩)
      · exact ⟨another, .inl given, hashed⟩
      · exact ⟨other, .inr ⟨rfl, rfl⟩, isHash⟩
    · rintro ⟨another, given | ⟨rfl, rfl⟩, hashed⟩
      · exact .inl ⟨another, given, hashed⟩
      · exact .inr ⟨rfl, Except.ok.inj (hashed.symm.trans isHash)⟩
  · intro wanted another given
    rcases List.mem_append.mp given with given | new
    · exact authorized.live wanted another given
    · cases List.mem_singleton.mp new
      exact ⟨owner, issued⟩
  · exact authorized.hashed
  · exact authorized.oneOwner

/-! ## Revocation -/

/-- What restoring public blobs changes. -/
theorem foldl_restorePublic
    (artifacts : List (Digest × Bool))
    (store : Store Digest) :
    let final := artifacts.foldl restorePublic store
    final.capabilities = store.capabilities ∧
      final.capabilityOwners = store.capabilityOwners ∧
      final.artifactGrants = store.artifactGrants ∧ final.blobs = store.blobs ∧
      ∀ sha, final.artifactAccess.get? sha =
        if (sha, false) ∈ artifacts ∧ store.hasGrant sha = false then none
        else store.artifactAccess.get? sha := by
  induction artifacts generalizing store with
  | nil => simp
  | cons artifact rest inductionHypothesis =>
      obtain ⟨key, managed⟩ := artifact
      rw [List.foldl_cons]
      by_cases skips : store.hasGrant key = true ∨ managed = true
      · have skipped : restorePublic store (key, managed) = store := by
          rw [restorePublic]
          rcases skips with given | rfl
          · rw [if_pos given]
          · simp
        rw [skipped]
        obtain ⟨same, owners, grants, blobs, access⟩ := inductionHypothesis store
        refine ⟨same, owners, grants, blobs, fun sha => (access sha).trans ?_⟩
        refine if_congr ?_ rfl rfl
        rw [List.mem_cons, Prod.mk.injEq]
        constructor
        · rintro ⟨member, free⟩
          exact ⟨.inr member, free⟩
        · rintro ⟨⟨rfl, rfl⟩ | member, free⟩
          · rw [free] at skips
            simp at skips
          · exact ⟨member, free⟩
      · obtain ⟨given, unmanaged⟩ := not_or.mp skips
        obtain rfl : managed = false := Bool.eq_false_iff.mpr unmanaged
        have free : store.hasGrant key = false := Bool.eq_false_iff.mpr given
        have restored : restorePublic store (key, false) = store.deleteAccess key := by
          simp [restorePublic, given]
        have sameGrants := artifactGrants_deleteAccess free
        have sameHas (sha : Digest) :
            (store.deleteAccess key).hasGrant sha = store.hasGrant sha := by
          rw [Store.hasGrant, sameGrants, Store.hasGrant]
        rw [restored]
        obtain ⟨same, owners, grants, blobs, access⟩ :=
          inductionHypothesis (store.deleteAccess key)
        refine ⟨same, owners, grants.trans sameGrants, blobs, fun sha => ?_⟩
        rw [access, sameHas, Store.deleteAccess, Table.get?_erase]
        simp only [List.mem_cons, Prod.mk.injEq, and_true]
        by_cases here : sha = key
        · subst here
          simp [free]
        · simp [here]

/-- The artifacts that the capabilities may read. -/
theorem mem_artifactRows
    (hashes : List Digest)
    (store : Store Digest)
    (sha : Digest)
    (managed : Bool) :
    (sha, managed) ∈ artifactRows hashes store ↔
      (∃ hash ∈ hashes, (sha, hash) ∈ store.artifactGrants) ∧
        (store.artifactAccess.get? sha).map AccessRow.managedBlob = some managed := by
  rw [artifactRows, List.mem_filterMap]
  constructor
  · rintro ⟨key, member, found⟩
    obtain ⟨⟨_, hash⟩, granted, rfl⟩ := List.mem_map.mp (List.mem_dedup.mp member)
    obtain ⟨granted, listed⟩ := List.mem_filter.mp granted
    obtain ⟨row, here, equal⟩ := Option.map_eq_some_iff.mp found
    cases equal
    exact ⟨⟨hash, of_decide_eq_true listed, granted⟩, by rw [here]; rfl⟩
  · rintro ⟨⟨hash, listed, granted⟩, found⟩
    obtain ⟨row, here, rfl⟩ := Option.map_eq_some_iff.mp found
    refine ⟨sha, List.mem_dedup.mpr (List.mem_map.mpr ⟨(sha, hash),
      List.mem_filter.mpr ⟨granted, decide_eq_true listed⟩, rfl⟩), ?_⟩
    rw [here]
    rfl

/-- What the transaction of a revocation changes. -/
theorem revokeTransaction_spec
    (ownerId : PyStr)
    (store : Store Digest) :
    let final := revokeTransaction ownerId store
    let deleted := store.deleteCapabilities (ownedHashes ownerId store)
    final.capabilities = deleted.capabilities ∧
      final.capabilityOwners = deleted.capabilityOwners ∧
      final.artifactGrants = deleted.artifactGrants ∧ final.blobs = store.blobs ∧
      ∀ sha, final.artifactAccess.get? sha =
        if ((∃ hash ∈ ownedHashes ownerId store, (sha, hash) ∈ store.artifactGrants) ∧
            (store.artifactAccess.get? sha).map AccessRow.managedBlob = some false) ∧
          deleted.hasGrant sha = false then none
        else store.artifactAccess.get? sha := by
  obtain ⟨capabilities, owners, grants, blobs, access⟩ := foldl_restorePublic
    (artifactRows (ownedHashes ownerId store) store)
    (store.deleteCapabilities (ownedHashes ownerId store))
  refine ⟨capabilities, owners, grants, blobs, fun sha => ?_⟩
  refine (access sha).trans ?_
  exact if_congr (and_congr_left' (mem_artifactRows _ _ _ _)) rfl rfl

omit [LinearOrder Digest] in
theorem mem_ownedHashes
    (ownerId : PyStr)
    (store : Store Digest)
    (hash : Digest) :
    hash ∈ ownedHashes ownerId store ↔ (ownerId, hash) ∈ store.capabilityOwners := by
  rw [ownedHashes, List.mem_map]
  constructor
  · rintro ⟨⟨owner, _⟩, member, rfl⟩
    obtain ⟨member, own⟩ := List.mem_filter.mp member
    rwa [← of_decide_eq_true own]
  · intro member
    exact ⟨(ownerId, hash), List.mem_filter.mpr ⟨member, decide_eq_true rfl⟩, rfl⟩

theorem Authorized.revoke
    (noCollision : Function.Injective sha256)
    {system : System Digest}
    (authorized : Authorized sha256 system)
    (ownerId : PyStr) :
    Authorized sha256 (system.revoked ownerId) := by
  obtain ⟨capabilities, owners, grants, _, _⟩ := revokeTransaction_spec ownerId system.store
  -- a live capability is the owner's exactly if its hash is deleted
  have deleted {capability : PyStr} {owner : Option PyStr} {hash : Digest}
      (issued : (capability, owner) ∈ system.issued)
      (hashed : capabilityHash sha256 capability = .ok hash) :
      hash ∈ ownedHashes ownerId system.store ↔ owner = some ownerId := by
    rw [mem_ownedHashes, authorized.owners]
    constructor
    · rintro ⟨other, own, otherHash⟩
      obtain rfl := capabilityHash_injective noCollision otherHash hashed
      exact authorized.oneOwner other _ _ issued own
    · rintro rfl
      exact ⟨capability, issued, hashed⟩
  have remains {capability : PyStr} {owner : Option PyStr} :
      (capability, owner) ∈ (system.revoked ownerId).issued ↔
        (capability, owner) ∈ system.issued ∧ owner ≠ some ownerId := by
    simp [System.revoked]
  have keeps {sha : Digest} {capability : PyStr} :
      (sha, capability) ∈ (system.revoked ownerId).granted ↔
        (sha, capability) ∈ system.granted ∧ (capability, some ownerId) ∉ system.issued := by
    simp [System.revoked]
  constructor
  · intro hash
    change hash ∈ (revokeTransaction ownerId system.store).capabilities ↔ _
    rw [capabilities]
    simp only [Store.deleteCapabilities, List.mem_filter, decide_eq_true_eq,
      authorized.capabilities, remains]
    constructor
    · rintro ⟨⟨capability, owner, issued, hashed⟩, kept⟩
      exact ⟨capability, owner, ⟨issued, fun own => kept ((deleted issued hashed).mpr own)⟩,
        hashed⟩
    · rintro ⟨capability, owner, ⟨issued, other⟩, hashed⟩
      exact ⟨⟨capability, owner, issued, hashed⟩, fun gone =>
        other ((deleted issued hashed).mp gone)⟩
  · intro owner hash
    change (owner, hash) ∈ (revokeTransaction ownerId system.store).capabilityOwners ↔ _
    rw [owners]
    simp only [Store.deleteCapabilities, List.mem_filter, decide_eq_true_eq,
      authorized.owners, remains]
    constructor
    · rintro ⟨⟨capability, issued, hashed⟩, kept⟩
      exact ⟨capability, ⟨issued, fun own => kept ((deleted issued hashed).mpr own)⟩, hashed⟩
    · rintro ⟨capability, ⟨issued, other⟩, hashed⟩
      exact ⟨⟨capability, issued, hashed⟩, fun gone => other ((deleted issued hashed).mp gone)⟩
  · intro sha hash
    change (sha, hash) ∈ (revokeTransaction ownerId system.store).artifactGrants ↔ _
    rw [grants]
    simp only [Store.deleteCapabilities, List.mem_filter, decide_eq_true_eq,
      authorized.grants, keeps]
    constructor
    · rintro ⟨⟨capability, given, hashed⟩, kept⟩
      exact ⟨capability, ⟨given, fun own => kept ((deleted own hashed).mpr rfl)⟩, hashed⟩
    · rintro ⟨capability, ⟨given, other⟩, hashed⟩
      refine ⟨⟨capability, given, hashed⟩, fun gone => other ?_⟩
      obtain ⟨owner, issued⟩ := authorized.live sha capability given
      rwa [(deleted issued hashed).mp gone] at issued
  · intro sha capability given
    obtain ⟨given, other⟩ := keeps.mp given
    obtain ⟨owner, issued⟩ := authorized.live sha capability given
    refine ⟨owner, remains.mpr ⟨issued, ?_⟩⟩
    rintro rfl
    exact other issued
  · intro capability owner issued
    exact authorized.hashed capability owner (remains.mp issued).1
  · intro capability owner other first second
    exact authorized.oneOwner capability owner other (remains.mp first).1 (remains.mp second).1

end Capabilities

end Maze.Files.ArtifactStore
