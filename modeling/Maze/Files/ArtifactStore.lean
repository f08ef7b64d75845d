import Mathlib.Data.List.Dedup
import Mathlib.Order.MinMax
import Maze.Library.Table
import Maze.Python.Utf8

namespace Maze.Files.ArtifactStore

open Maze.Python
open Maze.Python.Utf8 (Byte)
open Maze.Library

/-!
# The artifact store

The blobs of the store are files named by the digest of their bytes. A database beside
them holds the capabilities, as digests of their texts, and for a digest that is reserved
an access row and the grants of capabilities. A transaction changes the database or leaves
it as it was; the files are changed inside of transactions, but not together with them.

`Digest` stands for the digests that `blob_path` accepts, in the order of their texts.
-/

variable {Digest : Type} [LinearOrder Digest]

/-- What the operations raise. -/
inductive StoreErr where
  | permissionError
  | valueError
  | unicodeError
  | integrityError
  deriving DecidableEq

/-- A row of `artifact_access`. -/
structure AccessRow where
  isPrivate : Bool
  managedBlob : Bool
  deriving DecidableEq

/-- The tables of the database and the files of the blobs. -/
structure Store (Digest : Type) where
  capabilities : List Digest
  capabilityOwners : List (PyStr × Digest)
  artifactAccess : Table Digest AccessRow
  /-- The digest of an artifact and the hash of the capability that may read it. -/
  artifactGrants : List (Digest × Digest)
  blobs : Table Digest (List Byte)

/-- A new store. -/
def Store.empty : Store Digest :=
  ⟨[], [], .empty, [], .empty⟩

namespace Store

/-- Some capability may read the artifact. -/
def hasGrant
    (store : Store Digest)
    (sha : Digest) :
    Bool :=
  store.artifactGrants.any fun grant => grant.1 = sha

/-- Delete capabilities, and with them what refers to them. -/
def deleteCapabilities
    (store : Store Digest)
    (hashes : List Digest) :
    Store Digest :=
  { store with
    capabilities := store.capabilities.filter fun hash => hash ∉ hashes
    capabilityOwners := store.capabilityOwners.filter fun owner => owner.2 ∉ hashes
    artifactGrants := store.artifactGrants.filter fun grant => grant.2 ∉ hashes }

/-- Delete an access row, and with it the grants of the artifact. -/
def deleteAccess
    (store : Store Digest)
    (sha : Digest) :
    Store Digest :=
  { store with
    artifactAccess := store.artifactAccess.erase sha
    artifactGrants := store.artifactGrants.filter fun grant => grant.1 ≠ sha }

/-- `path.unlink(missing_ok=True)`. -/
def unlink
    (store : Store Digest)
    (sha : Digest) :
    Store Digest :=
  { store with blobs := store.blobs.erase sha }

/-- `write_blob(target)` unless the target exists. -/
def writeBlob
    (store : Store Digest)
    (sha : Digest)
    (data : List Byte) :
    Store Digest :=
  if store.blobs.contains sha then store
  else { store with blobs := store.blobs.set sha data }

end Store

theorem hasGrant_eq_true_iff
    (store : Store Digest)
    (sha : Digest) :
    store.hasGrant sha = true ↔ ∃ hash, (sha, hash) ∈ store.artifactGrants := by
  simp only [Store.hasGrant, List.any_eq_true, decide_eq_true_eq]
  constructor
  · rintro ⟨⟨_, hash⟩, member, rfl⟩
    exact ⟨hash, member⟩
  · rintro ⟨hash, member⟩
    exact ⟨(sha, hash), member, rfl⟩

/-- An artifact without a grant has no grants to lose. -/
theorem artifactGrants_deleteAccess
    {store : Store Digest}
    {sha : Digest}
    (free : store.hasGrant sha = false) :
    (store.deleteAccess sha).artifactGrants = store.artifactGrants := by
  rw [Store.deleteAccess, List.filter_eq_self]
  intro grant member
  rw [Store.hasGrant, List.any_eq_false] at free
  simpa using free grant member

/-! ## Capabilities -/

section Capabilities

variable (sha256 : List Byte → Digest)

/-- `_capability_hash`. -/
def capabilityHash (capability : PyStr) : Except StoreErr Digest :=
  if capability.chars.isEmpty then .error .permissionError
  else
    match Utf8.encode capability with
    | .ok bytes => .ok (sha256 bytes)
    | .error _ => .error .unicodeError

/-- The two insertions of `create_capability`. -/
def insertCapability
    (ownerId : Option PyStr)
    (hash : Digest)
    (store : Store Digest) :
    Except StoreErr (Store Digest) :=
  if hash ∈ store.capabilities then .error .integrityError
  else
    let store := { store with capabilities := store.capabilities ++ [hash] }
    match ownerId with
    | none => .ok store
    | some owner =>
        if (owner, hash) ∈ store.capabilityOwners then .error .integrityError
        else .ok { store with capabilityOwners := store.capabilityOwners ++ [(owner, hash)] }

/-- `create_capability`, with the token that is drawn. -/
def createCapability
    (ownerId : Option PyStr)
    (capability : PyStr)
    (store : Store Digest) :
    Except StoreErr (Store Digest) :=
  if ownerId = some "" then .error .valueError
  else do
    let hash ← capabilityHash sha256 capability
    insertCapability ownerId hash store

/-! ## Revocation -/

/-- `artifact_rows`: the artifacts that the capabilities may read. -/
def artifactRows
    (hashes : List Digest)
    (store : Store Digest) :
    List (Digest × Bool) :=
  ((store.artifactGrants.filter fun grant => grant.2 ∈ hashes).map Prod.fst).dedup.filterMap
    fun sha => (store.artifactAccess.get? sha).map fun row => (sha, row.managedBlob)

/-- The access row of a blob that predates its reservation goes with the last grant. -/
def restorePublic
    (store : Store Digest)
    (artifact : Digest × Bool) :
    Store Digest :=
  if store.hasGrant artifact.1 then store
  else if artifact.2 then store
  else store.deleteAccess artifact.1

/-- `capability_hashes`. -/
def ownedHashes
    (ownerId : PyStr)
    (store : Store Digest) :
    List Digest :=
  (store.capabilityOwners.filter fun owner => owner.1 = ownerId).map Prod.snd

/-- The transaction of `revoke_owner_capabilities`. -/
def revokeTransaction
    (ownerId : PyStr)
    (store : Store Digest) :
    Store Digest :=
  let hashes := ownedHashes ownerId store
  (artifactRows hashes store).foldl restorePublic (store.deleteCapabilities hashes)

/-- A private managed row without a grant. -/
def isOrphan
    (store : Store Digest)
    (entry : Digest × AccessRow) :
    Bool :=
  entry.2.isPrivate && entry.2.managedBlob && !store.hasGrant entry.1

/-- The first such row in the order of the digests. -/
def orphan? (store : Store Digest) : Option Digest :=
  ((store.artifactAccess.entries.filter (isOrphan store)).map Prod.fst).min?

/-- One transaction of `_reap_revoked_managed_blobs`; `none` if it finds no row. -/
def reapTransaction (store : Store Digest) : Option (Store Digest) :=
  (orphan? store).map fun sha => (store.unlink sha).deleteAccess sha

/-- The transaction if the process ends between the unlink and the commit. -/
def crashedReapTransaction (store : Store Digest) : Option (Store Digest) :=
  (orphan? store).map fun sha => store.unlink sha

/-- The row that is reaped is one of the table. -/
theorem orphan?_spec
    {store : Store Digest}
    {sha : Digest}
    (found : orphan? store = some sha) :
    ∃ row, store.artifactAccess.get? sha = some row ∧ isOrphan store (sha, row) = true := by
  obtain ⟨⟨_, row⟩, member, rfl⟩ := List.mem_map.mp (List.min?_mem found)
  obtain ⟨member, orphan⟩ := List.mem_filter.mp member
  exact ⟨row, (store.artifactAccess.get?_eq_some_iff _ _).mpr member, orphan⟩

theorem length_reapTransaction
    {store next : Store Digest}
    (reaped : reapTransaction store = some next) :
    next.artifactAccess.entries.length < store.artifactAccess.entries.length := by
  obtain ⟨sha, found, rfl⟩ := Option.map_eq_some_iff.mp reaped
  obtain ⟨row, here, _⟩ := orphan?_spec found
  refine List.length_filter_lt_length_iff_exists.mpr ⟨(sha, row), ?_, by simp⟩
  exact (store.artifactAccess.get?_eq_some_iff _ _).mp here

/-- `_reap_revoked_managed_blobs`, with nothing in between. -/
def reapRevokedManagedBlobs (store : Store Digest) : Store Digest :=
  match reaped : reapTransaction store with
  | none => store
  | some next =>
      have := length_reapTransaction reaped
      reapRevokedManagedBlobs next
  termination_by store.artifactAccess.entries.length

/-- `revoke_owner_capabilities`. -/
def revokeOwnerCapabilities
    (ownerId : PyStr)
    (store : Store Digest) :
    Except StoreErr (ℕ × Store Digest) :=
  if ownerId = "" then .error .valueError
  else
    .ok ((ownedHashes ownerId store).length,
      reapRevokedManagedBlobs (revokeTransaction ownerId store))

/-! ## Reading -/

/-- `is_private`. -/
def isPrivate
    (sha : Digest)
    (store : Store Digest) :
    Bool :=
  match store.artifactAccess.get? sha with
  | some row => row.isPrivate
  | none => false

/-- `can_read`. -/
def canRead
    (sha : Digest)
    (capability : Option PyStr)
    (store : Store Digest) :
    Except StoreErr Bool :=
  if !isPrivate sha store then .ok true
  else
    match capability with
    | none => .ok false
    | some capability =>
        if capability.chars.isEmpty then .ok false
        else do
          let hash ← capabilityHash sha256 capability
          .ok (decide ((sha, hash) ∈ store.artifactGrants))

/-! ## Storing -/

/-- `_mark_private`. -/
def markPrivate
    (sha : Digest)
    (capability : PyStr)
    (store : Store Digest) :
    Except StoreErr (Digest × Store Digest) := do
  let hash ← capabilityHash sha256 capability
  if hash ∉ store.capabilities then .error .permissionError
  else
    let managed := !store.blobs.contains sha
    let row : AccessRow :=
      match store.artifactAccess.get? sha with
      | some row => ⟨true, row.managedBlob || managed⟩
      | none => ⟨true, managed⟩
    .ok (hash,
      { store with
        artifactAccess := store.artifactAccess.set sha row
        artifactGrants :=
          if (sha, hash) ∈ store.artifactGrants then store.artifactGrants
          else store.artifactGrants ++ [(sha, hash)] })

/-- The capability may read the artifact and is there. -/
def grantedTo
    (sha hash : Digest)
    (store : Store Digest) :
    Bool :=
  decide ((sha, hash) ∈ store.artifactGrants) && decide (hash ∈ store.capabilities)

/-- `_put_private_blob`. -/
def putPrivateBlob
    (sha hash : Digest)
    (data : List Byte)
    (store : Store Digest) :
    Except StoreErr (Store Digest) :=
  if isPrivate sha store && grantedTo sha hash store then .ok (store.writeBlob sha data)
  else .error .permissionError

/-- `_put_public_or_authorized_blob`. -/
def putPublicOrAuthorizedBlob
    (sha : Digest)
    (capability : Option PyStr)
    (data : List Byte)
    (store : Store Digest) :
    Except StoreErr (Store Digest) :=
  if isPrivate sha store then
    match capability with
    | none => .error .permissionError
    | some capability => do
        let hash ← capabilityHash sha256 capability
        if grantedTo sha hash store then .ok (store.writeBlob sha data)
        else .error .permissionError
  else
    .ok (store.writeBlob sha data)

/--
The part that `put_file` and `put_bytes` share: what is raised or the field `private` of
the result, and the store after it. A reservation stays if the second transaction fails.
-/
def putBlob
    (sha : Digest)
    (data : List Byte)
    (asPrivate : Bool)
    (capability : Option PyStr)
    (store : Store Digest) :
    Except StoreErr Bool × Store Digest :=
  if asPrivate then
    match markPrivate sha256 sha (capability.getD "") store with
    | .error raised => (.error raised, store)
    | .ok (hash, marked) =>
        match putPrivateBlob sha hash data marked with
        | .error raised => (.error raised, marked)
        | .ok stored => (.ok (isPrivate sha stored), stored)
  else
    match putPublicOrAuthorizedBlob sha256 sha capability data store with
    | .error raised => (.error raised, store)
    | .ok stored => (.ok (isPrivate sha stored), stored)

/-- `put_file`. -/
def putFile
    (data : List Byte) :
    Bool → Option PyStr → Store Digest → Except StoreErr Bool × Store Digest :=
  putBlob sha256 (sha256 data) data

/-- `put_bytes`. -/
def putBytes
    (sha : Digest)
    (data : List Byte)
    (asPrivate : Bool)
    (capability : Option PyStr)
    (store : Store Digest) :
    Except StoreErr Bool × Store Digest :=
  if sha256 data ≠ sha then (.error .valueError, store)
  else putBlob sha256 sha data asPrivate capability store

end Capabilities

end Maze.Files.ArtifactStore
