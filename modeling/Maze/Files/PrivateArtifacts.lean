import Mathlib.Logic.Encodable.Basic
import Mathlib.Logic.Equiv.List
import Maze.Files.PrivateBlobs

namespace Maze.Files.ArtifactStore

open Maze.Python
open Maze.Python.Utf8 (Byte)
open Maze.Library
open Maze.Library.Transition

/-!
# What is promised about private artifacts

The operations of the store are runs of its transactions. In every state that transactions
reach, in whatever order they come and wherever processes end, a blob that was stored under
a reservation is fenced, only its grants let it be read, and reaping takes the blobs that
have lost theirs.
-/

variable {Digest : Type} [LinearOrder Digest] {sha256 : List Byte → Digest}

/-! ## Operations are runs -/

/-- Storing under a reservation is a run, however far it gets. -/
theorem run_putBytes
    (system : System Digest)
    (sha : Digest)
    (data : List Byte)
    (asPrivate : Bool)
    (capability : Option PyStr) :
    ∃ actions final, run? (step? sha256) system actions = some final ∧
      final.store = (putBytes sha256 sha data asPrivate capability system.store).2 := by
  have same : ∃ actions final, run? (step? sha256) system actions = some final ∧
      final.store = system.store := ⟨[], system, rfl, rfl⟩
  unfold putBytes
  split
  · exact same
  · next equal =>
    rw [ne_eq, not_not] at equal
    subst equal
    unfold putBlob
    cases asPrivate with
    | false =>
        cases put : putPublicOrAuthorizedBlob sha256 (sha256 data) capability data
          system.store with
        | error raised => simpa using same
        | ok stored =>
            refine ⟨[.putPublicOrAuthorizedBlob capability data],
              system.stored (sha256 data) stored, ?_, rfl⟩
            simp [step?, put]
    | true =>
        cases marked : markPrivate sha256 (sha256 data) (capability.getD "") system.store with
        | error raised => simpa using same
        | ok pair =>
            obtain ⟨hash, store⟩ := pair
            obtain ⟨next, isNext⟩ : ∃ next : System Digest, next = { system with
                store := store
                granted := system.granted ++ [(sha256 data, capability.getD "")] } := ⟨_, rfl⟩
            have marks : step? sha256 system (.markPrivate (sha256 data) (capability.getD "")) =
                some next := by
              simp [step?, marked, isNext]
            have nextStore : next.store = store := by rw [isNext]
            cases put : putPrivateBlob (sha256 data) hash data store with
            | error raised =>
                refine ⟨[.markPrivate (sha256 data) (capability.getD "")], next, ?_, ?_⟩
                · rw [run?_cons, marks, Option.bind_some, run?_nil]
                · simp [put, nextStore]
            | ok stored =>
                refine ⟨[.markPrivate (sha256 data) (capability.getD ""),
                  .putPrivateBlob hash data], next.stored (sha256 data) stored, ?_, ?_⟩
                · rw [run?_cons, marks, Option.bind_some, run?_cons, step?, nextStore, put]
                  rfl
                · simp [put, System.stored]

theorem reapRevokedManagedBlobs_of_none
    {store : Store Digest}
    (finished : reapTransaction store = none) :
    reapRevokedManagedBlobs store = store := by
  rw [reapRevokedManagedBlobs]
  split
  · rfl
  · next reaped =>
    rw [finished] at reaped
    cases reaped

theorem reapRevokedManagedBlobs_of_some
    {store next : Store Digest}
    (reaped : reapTransaction store = some next) :
    reapRevokedManagedBlobs store = reapRevokedManagedBlobs next := by
  rw [reapRevokedManagedBlobs]
  split
  · next finished =>
    rw [finished] at reaped
    cases reaped
  · next other found =>
    rw [found] at reaped
    cases reaped
    rfl

variable (sha256) in
/-- Reaping is a run that ends where there is nothing to reap; granted blobs are spared. -/
theorem run_reap
    (system : System Digest) :
    ∃ actions final, run? (step? sha256) system actions = some final ∧
      final.store = reapRevokedManagedBlobs system.store ∧ final.granted = system.granted ∧
      orphan? final.store = none ∧
      (∀ sha, final.origins.get? sha = none ∨
        final.origins.get? sha = system.origins.get? sha) ∧
      ∀ sha, system.store.hasGrant sha = true →
        final.store.blobs.get? sha = system.store.blobs.get? sha := by
  obtain ⟨store, issued, granted, origins⟩ := system
  induction store using reapRevokedManagedBlobs.induct generalizing origins with
  | case1 store finished =>
      exact ⟨[], _, rfl, (reapRevokedManagedBlobs_of_none finished).symm, rfl,
        Option.map_eq_none_iff.mp finished, fun _ => .inr rfl, fun _ _ => rfl⟩
  | case2 store next reaped smaller inductionHypothesis =>
      obtain ⟨orphan, found, isNext⟩ := Option.map_eq_some_iff.mp reaped
      obtain ⟨_, _, _, free⟩ := orphan_spec found
      obtain ⟨actions, final, executed, same, grants, ended, erased, spared⟩ :=
        inductionHypothesis (origins.erase orphan)
      refine ⟨.reap :: actions, final, ?_, ?_, grants, ended, fun sha => ?_, fun sha given => ?_⟩
      · have stepped : step? sha256 ⟨store, issued, granted, origins⟩ .reap =
            some ⟨next, issued, granted, origins.erase orphan⟩ := by
          simp [step?, found, reaped, System.unlinked]
        rw [run?_cons, stepped]
        exact executed
      · rw [reapRevokedManagedBlobs_of_some reaped]
        exact same
      · rcases erased sha with gone | kept
        · exact .inl gone
        · rw [kept, Table.get?_erase]
          split
          · exact .inl rfl
          · exact .inr rfl
      · have apart : sha ≠ orphan := by
          rintro rfl
          rw [free] at given
          cases given
        have stillGranted : next.hasGrant sha = true := by
          have sameGrants : ((store.unlink orphan).deleteAccess orphan).artifactGrants =
              (store.unlink orphan).artifactGrants := artifactGrants_deleteAccess free
          rw [← isNext, Store.hasGrant, sameGrants]
          exact given
        rw [spared sha stillGranted, ← isNext, Store.deleteAccess, Store.unlink,
          Table.get?_erase, if_neg apart]

/-- Revoking the capabilities of an owner is a run. -/
theorem run_revokeOwnerCapabilities
    {system : System Digest}
    {ownerId : PyStr}
    {count : ℕ}
    {store : Store Digest}
    (revoked : revokeOwnerCapabilities ownerId system.store = .ok (count, store)) :
    ∃ actions final, run? (step? sha256) system actions = some final ∧ final.store = store := by
  unfold revokeOwnerCapabilities at revoked
  split at revoked
  · cases revoked
  · next named =>
    cases revoked
    obtain ⟨actions, final, executed, same, _⟩ := run_reap sha256 (system.revoked ownerId)
    refine ⟨.revoke ownerId :: actions, final, ?_, same⟩
    rw [run?_cons, step?, if_neg named]
    exact executed

/-! ## Guarantees -/

/-- What holds of the private artifacts in a state. -/
structure KeepsPrivate (sha256 : List Byte → Digest) (system : System Digest) : Prop where
  /-- A blob that was stored under a reservation is private as long as it is on disk. -/
  fenced : ∀ sha, system.origins.get? sha = some .reserved →
    isPrivate sha system.store = true
  /-- A private artifact is read with a live grant and not otherwise. -/
  refused : ∀ sha capability, canRead sha256 sha capability system.store = .ok true ↔
    isPrivate sha system.store = true →
      ∃ granted, capability = some granted ∧ (sha, granted) ∈ system.granted
  /-- Where the reaping finds nothing, every reserved blob has a live grant. -/
  finished : orphan? system.store = none → ∀ sha, system.origins.get? sha = some .reserved →
    ∃ capability, (sha, capability) ∈ system.granted
  /-- Reaping removes the reserved blobs that have lost their grants. -/
  reaped : ∀ sha, system.origins.get? sha = some .reserved →
    (∀ capability, (sha, capability) ∉ system.granted) →
      (reapRevokedManagedBlobs system.store).blobs.get? sha = none
  /-- Reaping spares the blobs with a live grant. -/
  spared : ∀ sha capability, (sha, capability) ∈ system.granted →
    (reapRevokedManagedBlobs system.store).blobs.get? sha = system.store.blobs.get? sha
  /-- A blob that was stored openly and has no live grant is public. -/
  restored : ∀ sha, system.origins.get? sha = some .openly →
    (∀ capability, (sha, capability) ∉ system.granted) →
      isPrivate sha system.store = false

theorem Sound.finished
    {system : System Digest}
    (sound : Sound sha256 system)
    (none : orphan? system.store = none)
    {sha : Digest}
    (origin : system.origins.get? sha = some .reserved) :
    ∃ capability, (sha, capability) ∈ system.granted := by
  obtain ⟨row, here, managed⟩ := sound.fenced.reserved sha origin
  rw [← sound.authorized.hasGrant_iff]
  by_contra free
  rw [orphan?, List.min?_eq_none_iff, List.map_eq_nil_iff, List.filter_eq_nil_iff] at none
  refine none (sha, row) ((system.store.artifactAccess.get?_eq_some_iff _ _).mp here) ?_
  simp [isOrphan, sound.fenced.rowPrivate sha row here, managed, free]

theorem Sound.canRead_iff
    (noCollision : Function.Injective sha256)
    {system : System Digest}
    (sound : Sound sha256 system)
    (sha : Digest)
    (capability : Option PyStr) :
    canRead sha256 sha capability system.store = .ok true ↔
      (isPrivate sha system.store = true →
        ∃ granted, capability = some granted ∧ (sha, granted) ∈ system.granted) := by
  unfold canRead
  by_cases hidden : isPrivate sha system.store = true
  · simp only [hidden, Bool.not_true, Bool.false_eq_true, if_false, forall_const]
    cases capability with
    | none => simp
    | some capability =>
        simp only [Option.some.injEq, exists_eq_left']
        by_cases blank : capability.chars.isEmpty = true
        · have noHash : capabilityHash sha256 capability = .error .permissionError := by
            rw [capabilityHash, if_pos blank]
          rw [if_pos blank]
          refine ⟨fun read => (by cases read), fun given => ?_⟩
          obtain ⟨owner, issued⟩ := sound.authorized.live sha capability given
          obtain ⟨hash, hashed⟩ := sound.authorized.hashed capability owner issued
          rw [noHash] at hashed
          cases hashed
        · rw [if_neg blank]
          cases hashed : capabilityHash sha256 capability with
          | error raised =>
              refine ⟨fun read => (by cases read), fun given => ?_⟩
              obtain ⟨owner, issued⟩ := sound.authorized.live sha capability given
              obtain ⟨hash, known⟩ := sound.authorized.hashed capability owner issued
              rw [hashed] at known
              cases known
          | ok hash =>
              change Except.ok (decide ((sha, hash) ∈ system.store.artifactGrants)) = .ok true ↔ _
              rw [Except.ok.injEq, decide_eq_true_eq, sound.authorized.grants]
              constructor
              · rintro ⟨other, given, otherHash⟩
                rwa [capabilityHash_injective noCollision hashed otherHash]
              · intro given
                exact ⟨capability, given, hashed⟩
  · simp [hidden]

/-- The state is one in which the private artifacts are kept. -/
theorem Sound.keepsPrivate
    (noCollision : Function.Injective sha256)
    {system : System Digest}
    (sound : Sound sha256 system) :
    KeepsPrivate sha256 system := by
  constructor
  · intro sha origin
    obtain ⟨row, here, _⟩ := sound.fenced.reserved sha origin
    exact (sound.fenced.isPrivate_iff sha).mpr ⟨row, here⟩
  · exact sound.canRead_iff noCollision
  · intro ended sha origin
    exact sound.finished ended origin
  · intro sha origin free
    obtain ⟨actions, final, executed, same, grants, ended, erased, _⟩ :=
      run_reap sha256 system
    have finalSound := sound.run noCollision executed
    rcases erased sha with gone | kept
    · have onDisk := finalSound.fenced.onDisk sha
      rw [gone, same] at onDisk
      exact Option.isNone_iff_eq_none.mp (by simpa using onDisk.symm)
    · obtain ⟨capability, given⟩ := finalSound.finished ended (kept.trans origin)
      rw [grants] at given
      exact absurd given (free capability)
  · intro sha capability given
    obtain ⟨_, _, _, same, _, _, _, spared⟩ := run_reap sha256 system
    rw [← same]
    exact spared sha ((sound.authorized.hasGrant_iff sha).mpr ⟨capability, given⟩)
  · intro sha origin free
    rw [Bool.eq_false_iff]
    intro isPrivate
    obtain ⟨row, here⟩ := (sound.fenced.isPrivate_iff sha).mp isPrivate
    have unmanaged := sound.fenced.openly sha row origin here
    obtain ⟨capability, given⟩ := (sound.authorized.hasGrant_iff sha).mp
      (sound.fenced.unmanaged sha row here unmanaged).2
    exact free capability given

/--
Transactions are run in any order from a new store, with processes that end wherever they
want. Private artifacts are kept in every state, and a blob that was stored openly keeps
its bytes from then on.
-/
theorem private_artifacts_kept
    (sha256 : List Byte → Digest)
    (noCollision : Function.Injective sha256)
    (actions later : List (Action Digest))
    (system final : System Digest)
    (reached : run? (step? sha256) .initial actions = some system)
    (continued : run? (step? sha256) system later = some final) :
    KeepsPrivate sha256 system ∧
      ∀ sha, system.origins.get? sha = some .openly →
        final.store.blobs.get? sha = system.store.blobs.get? sha ∧
          ((∀ capability, (sha, capability) ∉ final.granted) →
            isPrivate sha final.store = false) := by
  have sound := sound_initial.run noCollision reached
  refine ⟨sound.keepsPrivate noCollision, fun sha origin => ?_⟩
  obtain ⟨stays, same⟩ := sound.openly_run noCollision continued origin
  exact ⟨same, ((sound.run noCollision continued).keepsPrivate noCollision).restored sha stays⟩

/-- SHA-256 on the texts `a` and `b`; other texts are told apart. -/
def sampleSha (bytes : List Byte) : ℕ :=
  Equiv.swap (Encodable.encode ([0x61] : List Byte))
    0xca978112ca1bbdcafac231b39a23dc4da786eff8147c4e72b9807785afee48bb
    (Equiv.swap (Encodable.encode ([0x62] : List Byte))
      0x3e23e8160039594a33894f6564e1b1348bbd7a0088d42c4acb73eeaed59c009d
      (Encodable.encode bytes))

/-- A blob is stored under a reservation, and the owner's capabilities are revoked. -/
theorem stored_revoked_kept :
    ∃ system final,
      run? (step? sampleSha) .initial
        [.createCapability (some "run") "a", .markPrivate (sampleSha [0x62]) "a",
          .putPrivateBlob (sampleSha [0x61]) [0x62]] = some system ∧
      run? (step? sampleSha) system [.revoke "run", .crashedReap, .reap] = some final ∧
      KeepsPrivate sampleSha system ∧
      ∀ sha, system.origins.get? sha = some .openly →
        final.store.blobs.get? sha = system.store.blobs.get? sha ∧
          ((∀ capability, (sha, capability) ∉ final.granted) →
            isPrivate sha final.store = false) := by
  have runs : (run? (step? sampleSha) .initial
      ([.createCapability (some "run") "a", .markPrivate (sampleSha [0x62]) "a",
        .putPrivateBlob (sampleSha [0x61]) [0x62]] ++
        [.revoke "run", .crashedReap, .reap])).isSome = true := by
    decide +kernel
  obtain ⟨final, executed⟩ := Option.isSome_iff_exists.mp runs
  rw [run?_append] at executed
  obtain ⟨system, reached, continued⟩ := Option.bind_eq_some_iff.mp executed
  have noCollision : Function.Injective sampleSha :=
    (Equiv.injective _).comp ((Equiv.injective _).comp Encodable.encode_injective)
  exact ⟨system, final, reached, continued,
    private_artifacts_kept sampleSha noCollision _ _ system final reached continued⟩

end Maze.Files.ArtifactStore
