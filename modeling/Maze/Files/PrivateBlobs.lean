import Maze.Files.ArtifactPrivacy

namespace Maze.Files.ArtifactStore

open Maze.Python
open Maze.Python.Utf8 (Byte)
open Maze.Library
open Maze.Library.Transition

/-!
# Private blobs

A blob that was stored under a reservation has a managed access row until it is unlinked,
and the access row of a blob that was there before is not managed and goes with its last
grant.
-/

variable {Digest : Type} [LinearOrder Digest] {sha256 : List Byte → Digest}

/-- What the access rows say about the blobs on disk. -/
structure Fenced (store : Store Digest) (origins : Table Digest Origin) : Prop where
  rowPrivate : ∀ sha row, store.artifactAccess.get? sha = some row → row.isPrivate = true
  grantRow : ∀ sha, store.hasGrant sha = true → ∃ row, store.artifactAccess.get? sha = some row
  onDisk : ∀ sha, (origins.get? sha).isSome = (store.blobs.get? sha).isSome
  reserved : ∀ sha, origins.get? sha = some .reserved →
    ∃ row, store.artifactAccess.get? sha = some row ∧ row.managedBlob = true
  openly : ∀ sha row, origins.get? sha = some .openly →
    store.artifactAccess.get? sha = some row → row.managedBlob = false
  unmanaged : ∀ sha row, store.artifactAccess.get? sha = some row → row.managedBlob = false →
    origins.get? sha = some .openly ∧ store.hasGrant sha = true

theorem fenced_initial :
    Fenced (Store.empty : Store Digest) .empty := by
  constructor <;> simp [Store.empty, Store.hasGrant]

/-- An artifact is private exactly if it has an access row. -/
theorem Fenced.isPrivate_iff
    {store : Store Digest}
    {origins : Table Digest Origin}
    (fenced : Fenced store origins)
    (sha : Digest) :
    isPrivate sha store = true ↔ ∃ row, store.artifactAccess.get? sha = some row := by
  rw [isPrivate]
  cases found : store.artifactAccess.get? sha with
  | none => simp
  | some row => simpa using fenced.rowPrivate sha row found

/-- The access rows, the grants and the blobs are the same. -/
theorem Fenced.of_same
    {store next : Store Digest}
    {origins : Table Digest Origin}
    (fenced : Fenced store origins)
    (access : next.artifactAccess = store.artifactAccess)
    (grants : next.artifactGrants = store.artifactGrants)
    (blobs : next.blobs = store.blobs) :
    Fenced next origins := by
  have has : next.hasGrant = store.hasGrant := by
    funext sha
    rw [Store.hasGrant, grants, Store.hasGrant]
  constructor
  · rw [access]
    exact fenced.rowPrivate
  · rw [access, has]
    exact fenced.grantRow
  · rw [blobs]
    exact fenced.onDisk
  · rw [access]
    exact fenced.reserved
  · rw [access]
    exact fenced.openly
  · rw [access, has]
    exact fenced.unmanaged

theorem Fenced.mark
    {store next : Store Digest}
    {origins : Table Digest Origin}
    {sha hash : Digest}
    {capability : PyStr}
    (fenced : Fenced store origins)
    (marked : markPrivate sha256 sha capability store = .ok (hash, next)) :
    Fenced next origins := by
  obtain ⟨_, _, _, _, grants, blobs, row, access, rowPrivate, rowManaged⟩ :=
    markPrivate_spec marked
  have has (wanted : Digest) :
      next.hasGrant wanted = true ↔ wanted = sha ∨ store.hasGrant wanted = true := by
    rw [hasGrant_eq_true_iff, hasGrant_eq_true_iff]
    constructor
    · rintro ⟨found, member⟩
      rcases (grants _).mp member with member | equal
      · exact .inr ⟨found, member⟩
      · exact .inl (Prod.mk.inj equal).1
    · rintro (rfl | ⟨found, member⟩)
      · exact ⟨hash, (grants _).mpr (.inr rfl)⟩
      · exact ⟨found, (grants _).mpr (.inl member)⟩
  have look (wanted : Digest) : next.artifactAccess.get? wanted =
      if wanted = sha then some row else store.artifactAccess.get? wanted := by
    rw [access, Table.get?_set]
  constructor
  · intro wanted found here
    rw [look] at here
    split at here
    · cases here
      exact rowPrivate
    · exact fenced.rowPrivate wanted found here
  · intro wanted given
    rw [look]
    split
    · exact ⟨row, rfl⟩
    · next other => exact fenced.grantRow wanted (((has wanted).mp given).resolve_left other)
  · rw [blobs]
    exact fenced.onDisk
  · intro wanted origin
    obtain ⟨old, here, managed⟩ := fenced.reserved wanted origin
    rw [look]
    split
    · next same =>
      subst same
      exact ⟨row, rfl, by rw [rowManaged, here]; simp [managed]⟩
    · exact ⟨old, here, managed⟩
  · intro wanted found origin here
    rw [look] at here
    split at here
    · next same =>
      subst same
      cases here
      have there : store.blobs.contains wanted = true := by
        rw [Table.contains, ← fenced.onDisk, origin]
        rfl
      rw [rowManaged, there]
      cases old : store.artifactAccess.get? wanted with
      | none => rfl
      | some oldRow => simpa using fenced.openly wanted oldRow origin old
    · exact fenced.openly wanted found origin here
  · intro wanted found here unmanaged
    rw [look] at here
    split at here
    · next same =>
      subst same
      cases here
      rw [rowManaged, Bool.or_eq_false_iff, Bool.not_eq_false'] at unmanaged
      refine ⟨?_, (has wanted).mpr (.inl rfl)⟩
      have there : (origins.get? wanted).isSome = true := by
        rw [fenced.onDisk]
        exact unmanaged.2
      obtain ⟨origin, known⟩ := Option.isSome_iff_exists.mp there
      cases origin with
      | openly => exact known
      | reserved =>
          obtain ⟨old, oldHere, managed⟩ := fenced.reserved wanted known
          rw [oldHere] at unmanaged
          exact absurd unmanaged.1 (by simp [managed])
    · obtain ⟨origin, given⟩ := fenced.unmanaged wanted found here unmanaged
      exact ⟨origin, (has wanted).mpr (.inr given)⟩

/-- A blob is stored first: it is reserved if it has an access row. -/
theorem Fenced.write
    {system : System Digest}
    (fenced : Fenced system.store system.origins)
    (sha : Digest)
    (data : List Byte) :
    Fenced (system.store.writeBlob sha data)
      (system.stored sha (system.store.writeBlob sha data)).origins := by
  unfold Store.writeBlob System.stored
  by_cases there : system.store.blobs.contains sha = true
  · simp only [there, if_true]
    exact fenced
  · simp only [there]
    have absent : system.origins.get? sha = none := by
      rw [Table.contains, ← fenced.onDisk] at there
      simpa using there
    have managed (row : AccessRow) (here : system.store.artifactAccess.get? sha = some row) :
        row.managedBlob = true := by
      by_contra other
      obtain ⟨origin, _⟩ := fenced.unmanaged sha row here (Bool.eq_false_iff.mpr other)
      rw [absent] at origin
      cases origin
    constructor
    · exact fenced.rowPrivate
    · exact fenced.grantRow
    · intro wanted
      simp only [Bool.false_eq_true, if_false, Table.get?_set]
      split
      · rfl
      · exact fenced.onDisk wanted
    · intro wanted origin
      simp only [Bool.false_eq_true, if_false, Table.get?_set] at origin
      split at origin
      · next same =>
        subst same
        split at origin
        · next isPrivate =>
          obtain ⟨row, here⟩ := (fenced.isPrivate_iff wanted).mp isPrivate
          exact ⟨row, here, managed row here⟩
        · cases origin
      · exact fenced.reserved wanted origin
    · intro wanted row origin here
      simp only [Bool.false_eq_true, if_false, Table.get?_set] at origin
      split at origin
      · next same =>
        subst same
        have isPrivate := (fenced.isPrivate_iff wanted).mpr ⟨row, here⟩
        rw [if_pos isPrivate] at origin
        cases origin
      · exact fenced.openly wanted row origin here
    · intro wanted row here unmanaged
      obtain ⟨origin, given⟩ := fenced.unmanaged wanted row here unmanaged
      refine ⟨?_, given⟩
      simp only [Bool.false_eq_true, if_false, Table.get?_set]
      split
      · next same =>
        subst same
        rw [absent] at origin
        cases origin
      · exact origin

theorem Fenced.revoke
    {store : Store Digest}
    {origins : Table Digest Origin}
    (fenced : Fenced store origins)
    (ownerId : PyStr) :
    Fenced (revokeTransaction ownerId store) origins := by
  obtain ⟨_, _, grants, blobs, access⟩ := revokeTransaction_spec ownerId store
  have has (sha : Digest) : (revokeTransaction ownerId store).hasGrant sha =
      (store.deleteCapabilities (ownedHashes ownerId store)).hasGrant sha := by
    rw [Store.hasGrant, grants, Store.hasGrant]
  have left (sha : Digest) (given : (revokeTransaction ownerId store).hasGrant sha = true) :
      store.hasGrant sha = true := by
    rw [has, hasGrant_eq_true_iff] at given
    obtain ⟨hash, member⟩ := given
    exact (hasGrant_eq_true_iff store sha).mpr ⟨hash, (List.mem_filter.mp member).1⟩
  -- a row that is there has been there, and an unmanaged one keeps a grant
  have before (sha : Digest) (row : AccessRow)
      (here : (revokeTransaction ownerId store).artifactAccess.get? sha = some row) :
      store.artifactAccess.get? sha = some row ∧
        (row.managedBlob = false →
          (revokeTransaction ownerId store).hasGrant sha = true) := by
    rw [access] at here
    split at here
    · cases here
    · next stays =>
      refine ⟨here, fun unmanaged => ?_⟩
      rw [here] at stays
      by_contra none
      rw [has] at none
      obtain ⟨_, given⟩ := fenced.unmanaged sha row here unmanaged
      obtain ⟨hash, member⟩ := (hasGrant_eq_true_iff store sha).mp given
      refine stays ⟨⟨⟨hash, ?_, member⟩, by rw [← unmanaged]; rfl⟩, Bool.eq_false_iff.mpr none⟩
      by_contra kept
      exact none ((hasGrant_eq_true_iff _ sha).mpr
        ⟨hash, List.mem_filter.mpr ⟨member, decide_eq_true kept⟩⟩)
  have after (sha : Digest) (row : AccessRow) (here : store.artifactAccess.get? sha = some row)
      (keeps : row.managedBlob = true ∨
        (revokeTransaction ownerId store).hasGrant sha = true) :
      (revokeTransaction ownerId store).artifactAccess.get? sha = some row := by
    rw [access, if_neg]
    · exact here
    · rintro ⟨⟨_, unmanaged⟩, free⟩
      rw [here, Option.map_some, Option.some.injEq] at unmanaged
      rw [has, free, unmanaged] at keeps
      simp at keeps
  constructor
  · intro sha row here
    exact fenced.rowPrivate sha row (before sha row here).1
  · intro sha given
    obtain ⟨row, here⟩ := fenced.grantRow sha (left sha given)
    exact ⟨row, after sha row here (.inr given)⟩
  · rw [blobs]
    exact fenced.onDisk
  · intro sha origin
    obtain ⟨row, here, managed⟩ := fenced.reserved sha origin
    exact ⟨row, after sha row here (.inl managed), managed⟩
  · intro sha row origin here
    exact fenced.openly sha row origin (before sha row here).1
  · intro sha row here unmanaged
    obtain ⟨here, given⟩ := before sha row here
    exact ⟨(fenced.unmanaged sha row here unmanaged).1, given unmanaged⟩

/-- What the reaping takes is a managed row without a grant. -/
theorem orphan_spec
    {store : Store Digest}
    {sha : Digest}
    (found : orphan? store = some sha) :
    ∃ row, store.artifactAccess.get? sha = some row ∧ row.managedBlob = true ∧
      store.hasGrant sha = false := by
  obtain ⟨row, here, orphan⟩ := orphan?_spec found
  simp only [isOrphan, Bool.and_eq_true, Bool.not_eq_true'] at orphan
  exact ⟨row, here, orphan.1.2, orphan.2⟩

theorem Fenced.unlink
    {store : Store Digest}
    {origins : Table Digest Origin}
    {sha : Digest}
    (fenced : Fenced store origins)
    (found : orphan? store = some sha) :
    Fenced (store.unlink sha) (origins.erase sha) := by
  obtain ⟨orphan, orphanHere, orphanManaged, _⟩ := orphan_spec found
  constructor
  · exact fenced.rowPrivate
  · exact fenced.grantRow
  · intro wanted
    rw [Store.unlink, Table.get?_erase, Table.get?_erase]
    split
    · rfl
    · exact fenced.onDisk wanted
  · intro wanted origin
    rw [Table.get?_erase] at origin
    split at origin
    · cases origin
    · exact fenced.reserved wanted origin
  · intro wanted row origin here
    rw [Table.get?_erase] at origin
    split at origin
    · cases origin
    · exact fenced.openly wanted row origin here
  · intro wanted row here unmanaged
    obtain ⟨origin, given⟩ := fenced.unmanaged wanted row here unmanaged
    refine ⟨?_, given⟩
    rw [Table.get?_erase, if_neg]
    · exact origin
    · rintro rfl
      cases orphanHere.symm.trans here
      rw [orphanManaged] at unmanaged
      cases unmanaged

theorem Fenced.reap
    {store : Store Digest}
    {origins : Table Digest Origin}
    {sha : Digest}
    (fenced : Fenced store origins)
    (found : orphan? store = some sha) :
    Fenced ((store.unlink sha).deleteAccess sha) (origins.erase sha) := by
  obtain ⟨_, _, _, free⟩ := orphan_spec found
  have unlinked := fenced.unlink found
  have grants : ((store.unlink sha).deleteAccess sha).artifactGrants =
      (store.unlink sha).artifactGrants := artifactGrants_deleteAccess free
  have has : ((store.unlink sha).deleteAccess sha).hasGrant = (store.unlink sha).hasGrant := by
    funext wanted
    rw [Store.hasGrant, grants, Store.hasGrant]
  have look (wanted : Digest) : ((store.unlink sha).deleteAccess sha).artifactAccess.get? wanted =
      if wanted = sha then none else (store.unlink sha).artifactAccess.get? wanted := by
    rw [Store.deleteAccess, Table.get?_erase]
  constructor
  · intro wanted row here
    rw [look] at here
    split at here
    · cases here
    · exact unlinked.rowPrivate wanted row here
  · intro wanted given
    rw [has] at given
    rw [look, if_neg]
    · exact unlinked.grantRow wanted given
    · rintro rfl
      rw [show (store.unlink wanted).hasGrant wanted = store.hasGrant wanted from rfl,
        free] at given
      cases given
  · exact unlinked.onDisk
  · intro wanted origin
    obtain ⟨row, here, managed⟩ := unlinked.reserved wanted origin
    refine ⟨row, ?_, managed⟩
    rw [look, if_neg]
    · exact here
    · rintro rfl
      rw [Table.get?_erase, if_pos rfl] at origin
      cases origin
  · intro wanted row origin here
    rw [look] at here
    split at here
    · cases here
    · exact unlinked.openly wanted row origin here
  · intro wanted row here unmanaged
    rw [look] at here
    split at here
    · cases here
    · rw [has]
      exact unlinked.unmanaged wanted row here unmanaged

/-! ## Runs -/

/-- The database says who may read what, and the access rows fence the reserved blobs. -/
structure Sound (sha256 : List Byte → Digest) (system : System Digest) : Prop where
  authorized : Authorized sha256 system
  fenced : Fenced system.store system.origins

theorem sound_initial :
    Sound sha256 (System.initial : System Digest) :=
  ⟨authorized_initial, fenced_initial⟩

theorem authorized_stored
    {system : System Digest}
    (authorized : Authorized sha256 system)
    (sha : Digest)
    (data : List Byte) :
    Authorized sha256 (system.stored sha (system.store.writeBlob sha data)) := by
  have same : (system.store.writeBlob sha data).capabilities = system.store.capabilities ∧
      (system.store.writeBlob sha data).capabilityOwners = system.store.capabilityOwners ∧
      (system.store.writeBlob sha data).artifactGrants = system.store.artifactGrants := by
    unfold Store.writeBlob
    split
    · exact ⟨rfl, rfl, rfl⟩
    · exact ⟨rfl, rfl, rfl⟩
  exact authorized.of_same same.1 same.2.1 same.2.2 rfl rfl

/-- A store that succeeds writes the blob unless it is there. -/
theorem putPrivateBlob_spec
    {sha hash : Digest}
    {data : List Byte}
    {store next : Store Digest}
    (put : putPrivateBlob sha hash data store = .ok next) :
    next = store.writeBlob sha data := by
  unfold putPrivateBlob at put
  split at put
  · exact (Except.ok.inj put).symm
  · cases put

theorem putPublicOrAuthorizedBlob_spec
    {sha : Digest}
    {capability : Option PyStr}
    {data : List Byte}
    {store next : Store Digest}
    (put : putPublicOrAuthorizedBlob sha256 sha capability data store = .ok next) :
    next = store.writeBlob sha data := by
  unfold putPublicOrAuthorizedBlob at put
  split at put
  · cases capability with
    | none => cases put
    | some capability =>
        simp only at put
        cases hashed : capabilityHash sha256 capability with
        | error raised =>
            rw [hashed] at put
            cases put
        | ok hash =>
            rw [hashed] at put
            simp only [Bind.bind, Except.bind] at put
            split at put
            · exact (Except.ok.inj put).symm
            · cases put
  · exact (Except.ok.inj put).symm

/-- What a transaction that is not refused does. -/
inductive Effect (sha256 : List Byte → Digest) (system : System Digest) :
    System Digest → Prop where
  | created
      {ownerId : Option PyStr}
      {capability : PyStr}
      {store : Store Digest}
      (created : createCapability sha256 ownerId capability system.store = .ok store) :
      Effect sha256 system
        { system with store := store, issued := system.issued ++ [(capability, ownerId)] }
  | marked
      {sha hash : Digest}
      {capability : PyStr}
      {store : Store Digest}
      (marked : markPrivate sha256 sha capability system.store = .ok (hash, store)) :
      Effect sha256 system
        { system with store := store, granted := system.granted ++ [(sha, capability)] }
  | written
      (sha : Digest)
      (data : List Byte) :
      Effect sha256 system (system.stored sha (system.store.writeBlob sha data))
  | read : Effect sha256 system system
  | revoked (ownerId : PyStr) : Effect sha256 system (system.revoked ownerId)
  | reaped
      {sha : Digest}
      (found : orphan? system.store = some sha) :
      Effect sha256 system (system.unlinked sha ((system.store.unlink sha).deleteAccess sha))
  | crashed
      {sha : Digest}
      (found : orphan? system.store = some sha) :
      Effect sha256 system (system.unlinked sha (system.store.unlink sha))

theorem effect_of_step?
    {system next : System Digest}
    {action : Action Digest}
    (stepped : step? sha256 system action = some next) :
    Effect sha256 system next := by
  cases action with
  | createCapability ownerId capability =>
      rw [step?] at stepped
      split at stepped
      · next store created =>
        cases stepped
        exact .created created
      · cases stepped
  | markPrivate sha capability =>
      rw [step?] at stepped
      split at stepped
      · next hash store marked =>
        cases stepped
        exact .marked marked
      · cases stepped
  | putPrivateBlob hash data =>
      rw [step?] at stepped
      split at stepped
      · next store put =>
        cases stepped
        rw [putPrivateBlob_spec put]
        exact .written _ data
      · cases stepped
  | putPublicOrAuthorizedBlob capability data =>
      rw [step?] at stepped
      split at stepped
      · next store put =>
        cases stepped
        rw [putPublicOrAuthorizedBlob_spec put]
        exact .written _ data
      · cases stepped
  | canRead sha capability =>
      cases stepped
      exact .read
  | revoke ownerId =>
      rw [step?] at stepped
      split at stepped
      · cases stepped
      · cases stepped
        exact .revoked ownerId
  | reap =>
      obtain ⟨sha, found, stepped⟩ := Option.bind_eq_some_iff.mp stepped
      rw [reapTransaction, found] at stepped
      cases stepped
      exact .reaped found
  | crashedReap =>
      obtain ⟨sha, found, stepped⟩ := Option.bind_eq_some_iff.mp stepped
      rw [crashedReapTransaction, found] at stepped
      cases stepped
      exact .crashed found

theorem Sound.effect
    (noCollision : Function.Injective sha256)
    {system next : System Digest}
    (sound : Sound sha256 system)
    (effect : Effect sha256 system next) :
    Sound sha256 next := by
  obtain ⟨authorized, fenced⟩ := sound
  cases effect with
  | created created =>
      refine ⟨authorized.create created, ?_⟩
      obtain ⟨_, _, _, rfl⟩ := createCapability_spec created
      exact fenced.of_same rfl rfl rfl
  | marked marked => exact ⟨authorized.mark noCollision marked, fenced.mark marked⟩
  | written sha data => exact ⟨authorized_stored authorized sha data, fenced.write sha data⟩
  | read => exact ⟨authorized, fenced⟩
  | revoked ownerId => exact ⟨authorized.revoke noCollision ownerId, fenced.revoke ownerId⟩
  | reaped found =>
      obtain ⟨_, _, _, free⟩ := orphan_spec found
      exact ⟨authorized.of_same rfl rfl (artifactGrants_deleteAccess free) rfl rfl,
        fenced.reap found⟩
  | crashed found => exact ⟨authorized.of_same rfl rfl rfl rfl rfl, fenced.unlink found⟩

/-- A blob that was stored openly stays as it is. -/
theorem Sound.openly_effect
    {system next : System Digest}
    (sound : Sound sha256 system)
    (effect : Effect sha256 system next)
    {sha : Digest}
    (origin : system.origins.get? sha = some .openly) :
    next.origins.get? sha = some .openly ∧
      next.store.blobs.get? sha = system.store.blobs.get? sha := by
  have there : system.store.blobs.contains sha = true := by
    rw [Table.contains, ← sound.fenced.onDisk, origin]
    rfl
  have spared (orphan : Digest) (found : orphan? system.store = some orphan) : sha ≠ orphan := by
    rintro rfl
    obtain ⟨row, here, managed, _⟩ := orphan_spec found
    rw [sound.fenced.openly sha row origin here] at managed
    cases managed
  cases effect with
  | created created =>
      obtain ⟨_, _, _, rfl⟩ := createCapability_spec created
      exact ⟨origin, rfl⟩
  | marked marked =>
      obtain ⟨_, _, _, _, _, blobs, _⟩ := markPrivate_spec marked
      exact ⟨origin, by rw [blobs]⟩
  | written other data =>
      unfold System.stored Store.writeBlob
      by_cases stays : system.store.blobs.contains other = true
      · simp only [stays, if_true, and_true]
        exact origin
      · have apart : sha ≠ other := by
          rintro rfl
          exact stays there
        simp only [stays, Bool.false_eq_true, if_false, Table.get?_set, if_neg apart, and_true]
        exact origin
  | read => exact ⟨origin, rfl⟩
  | revoked ownerId =>
      obtain ⟨_, _, _, blobs, _⟩ := revokeTransaction_spec ownerId system.store
      exact ⟨origin, congrArg (Table.get? · sha) blobs⟩
  | reaped found =>
      have apart := spared _ found
      exact ⟨by rw [System.unlinked, Table.get?_erase, if_neg apart]; exact origin,
        by rw [System.unlinked, Store.deleteAccess, Store.unlink, Table.get?_erase,
          if_neg apart]⟩
  | crashed found =>
      have apart := spared _ found
      exact ⟨by rw [System.unlinked, Table.get?_erase, if_neg apart]; exact origin,
        by rw [System.unlinked, Store.unlink, Table.get?_erase, if_neg apart]⟩

theorem Sound.run
    (noCollision : Function.Injective sha256)
    {system final : System Digest}
    {actions : List (Action Digest)}
    (sound : Sound sha256 system)
    (executed : run? (step? sha256) system actions = some final) :
    Sound sha256 final :=
  run?_invariant (fun _ _ _ sound stepped => sound.effect noCollision (effect_of_step? stepped))
    sound executed

/-- A blob that was stored openly is on disk with the given bytes. -/
structure Stays
    (sha256 : List Byte → Digest)
    (sha : Digest)
    (bytes : Option (List Byte))
    (system : System Digest) :
    Prop where
  sound : Sound sha256 system
  origin : system.origins.get? sha = some .openly
  same : system.store.blobs.get? sha = bytes

/-- The blob stays through every run. -/
theorem Sound.openly_run
    (noCollision : Function.Injective sha256)
    {system final : System Digest}
    {actions : List (Action Digest)}
    (sound : Sound sha256 system)
    (executed : run? (step? sha256) system actions = some final)
    {sha : Digest}
    (origin : system.origins.get? sha = some .openly) :
    final.origins.get? sha = some .openly ∧
      final.store.blobs.get? sha = system.store.blobs.get? sha := by
  have preserved : ∀ state action next, Stays sha256 sha (system.store.blobs.get? sha) state →
      step? sha256 state action = some next →
      Stays sha256 sha (system.store.blobs.get? sha) next := by
    rintro state action next ⟨sound, origin, same⟩ stepped
    have effect := effect_of_step? stepped
    obtain ⟨origin, same'⟩ := sound.openly_effect effect origin
    exact ⟨sound.effect noCollision effect, origin, same'.trans same⟩
  have kept := run?_invariant preserved ⟨sound, origin, rfl⟩ executed
  exact ⟨kept.origin, kept.same⟩

end Maze.Files.ArtifactStore
