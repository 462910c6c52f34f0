import AgentRoom.Lobby.Tables

namespace AgentRoom.Lobby

open Library

structure RoomProvisioningClaim where
  jobId : RoomProvisioningJobId
  leaseId : RoomProvisioningLeaseId
  catalogId : RoomCatalogId
  target : RoomProvisioningTarget
  aliasLocalpart : MatrixRoomAliasLocalpart
  claimedAt : UtcMillis
  expiresAt : UtcMillis

def RoomProvisioningClaim.new (claim : RoomProvisioningClaim) : DomainResult RoomProvisioningClaim :=
  if claim.expiresAt ≤ claim.claimedAt then .error (.validation "room_provisioning_lease" "租约过期时间必须晚于声明时间")
  else .ok claim

structure RoomProvisioningJob where
  jobId : RoomProvisioningJobId
  leaseId : RoomProvisioningLeaseId
  catalog : RoomCatalog
  target : RoomProvisioningTarget
  aliasLocalpart : MatrixRoomAliasLocalpart
  matrixRoomId : Option MatrixRoomReference
  leaseExpiresAt : UtcMillis

inductive RoomProvisioningClaimOutcome where
  | claimed (job : RoomProvisioningJob)
  | busy (retryAt : UtcMillis)
  | spaceReady (catalog : RoomCatalog)
  | instanceReady (room : RoomInstance)

inductive RoomProvisioningFailureCode where
  | matrixCreate
  | matrixResolve
  | spaceAttach
  | moderationCarryOver

def ensureProvisionableCatalog (catalog : RoomCatalog) : Except RepositoryErrorKind Unit :=
  if catalog.kind = .publicLobby ∧ catalog.status = .active then .ok () else .error .constraint

def isReadyInstance (catalogId : RoomCatalogId) (region : Option RoomRegion) (room : RoomInstance) : Bool :=
  decide (room.catalogId = catalogId ∧ room.region = region ∧ room.state = .active ∧ room.allocatedSlots < room.capacity.soft)

-- ORDER BY allocated_slots, id: the first comes out on top.
def bySlots (left right : RoomInstance) : Ordering :=
  (compare right.allocatedSlots left.allocatedSlots).then (compare right.id left.id)

section

variable (claim : RoomProvisioningClaim) (job : RoomProvisioningJob) (row : JobRow)

def isPendingFor : Bool :=
  decide (row.catalogId = claim.catalogId ∧ row.target.kind = claim.target.kind ∧
    (claim.target.kind = .roomInstance → row.target.region = claim.target.region)) && row.pending

def isLeasedAt (now : UtcMillis) : Bool := row.lease.any fun lease => decide (now < lease.expiresAt)

def holdsLease (now : UtcMillis) : Bool :=
  row.pending && row.lease.any fun lease => decide (lease.id = job.leaseId ∧ now < lease.expiresAt)

def JobRow.leased (lease : Option RoomProvisioningLease) : JobRow := { row with lease }

def JobRow.checkpointed (room : MatrixRoomReference) : JobRow := { row with matrixRoomId := some room }

def JobRow.completed : JobRow := { row with pending := false, lease := none }

-- What a worker is handed: the job as it is recorded, under the lease just claimed.
def decodeJob (catalog : RoomCatalog) : RoomProvisioningJob where
  jobId := row.id
  leaseId := claim.leaseId
  catalog
  target := row.target
  aliasLocalpart := row.aliasLocalpart
  matrixRoomId := row.matrixRoomId
  leaseExpiresAt := claim.expiresAt

def newRow : JobRow where
  id := claim.jobId
  catalogId := claim.catalogId
  target := claim.target
  aliasLocalpart := claim.aliasLocalpart
  matrixRoomId := none
  pending := true
  lease := some ⟨claim.leaseId, claim.expiresAt⟩
  createdAt := claim.claimedAt

-- The unique keys of the table: the id, the alias and the room instance.
def clashes : Bool :=
  decide (row.id = claim.jobId ∨ row.aliasLocalpart = claim.aliasLocalpart ∨
    (claim.target.roomInstanceId.isSome = true ∧ row.target.roomInstanceId = claim.target.roomInstanceId))

end

namespace LobbyStore

variable (store : LobbyStore)

def lockReadyInstance (catalogId : RoomCatalogId) (region : Option RoomRegion) : Option RoomInstance :=
  maxBy bySlots (store.rooms.filter (isReadyInstance catalogId region))

def lockPendingJob (claim : RoomProvisioningClaim) : Option JobRow := store.jobs.find? (isPendingFor claim)

def readyFor (catalog : RoomCatalog) : RoomProvisioningTarget → Except RepositoryErrorKind (Option RoomProvisioningClaimOutcome)
  | .space => .ok (if catalog.matrixSpaceId.isSome then some (.spaceReady catalog) else none)
  | .roomInstance _ region =>
    if catalog.matrixSpaceId.isSome then .ok ((store.lockReadyInstance catalog.id region).map .instanceReady)
    else .error .constraint

def changeJob (id : RoomProvisioningJobId) (update : JobRow → JobRow) : LobbyStore :=
  { store with jobs := store.jobs.map fun row => if row.id = id then update row else row }

def writeJob (row : JobRow) (now : UtcMillis) (update : JobRow → JobRow) : Except RepositoryErrorKind LobbyStore :=
  if row.createdAt ≤ now then .ok (store.changeJob row.id update) else .error .constraint

def insertJob (claim : RoomProvisioningClaim) : Except RepositoryErrorKind LobbyStore :=
  if store.jobs.any (clashes claim) then .error .conflict else .ok { store with jobs := store.jobs ++ [newRow claim] }

def claimJob (catalog : RoomCatalog) (claim : RoomProvisioningClaim) :
    Except RepositoryErrorKind (RoomProvisioningClaimOutcome × LobbyStore) :=
  match store.lockPendingJob claim with
  | some row =>
    match row.lease.filter fun lease => decide (claim.claimedAt < lease.expiresAt) with
    | some lease => .ok (.busy lease.expiresAt, store)
    | none => do
      let next ← store.writeJob row claim.claimedAt (·.leased (some ⟨claim.leaseId, claim.expiresAt⟩))
      return (.claimed (decodeJob claim row catalog), next)
  | none => do
    let next ← store.insertJob claim
    return (.claimed (decodeJob claim (newRow claim) catalog), next)

def claimRoomProvisioning (claim : RoomProvisioningClaim) :
    Except RepositoryErrorKind (RoomProvisioningClaimOutcome × LobbyStore) := do
  let catalog ← orElse .notFound (store.catalog claim.catalogId)
  ensureProvisionableCatalog catalog
  let ready ← store.readyFor catalog claim.target
  match ready with
  | some outcome => return (outcome, store)
  | none => store.claimJob catalog claim

variable (job : RoomProvisioningJob)

def checkpointMatrixRoom (room : MatrixRoomReference) (now : UtcMillis) : Except RepositoryErrorKind LobbyStore := do
  let row ← orElse .conflict (store.job job.jobId)
  if holdsLease job row now && decide (row.matrixRoomId = none ∨ row.matrixRoomId = some room) then
    store.writeJob row now (·.checkpointed room)
  else .error .conflict

def lockCompletableJob (room : MatrixRoomReference) (now : UtcMillis) : Except RepositoryErrorKind JobRow := do
  let row ← orElse .conflict (store.job job.jobId)
  if holdsLease job row now && decide (row.matrixRoomId = some room) then .ok row else .error .conflict

def withSpace (id : RoomCatalogId) (space : MatrixRoomReference) : LobbyStore :=
  { store with catalogs := store.catalogs.map fun catalog =>
      if catalog.id = id then { catalog with matrixSpaceId := some space } else catalog }

def withRoom (room : RoomInstance) : LobbyStore := { store with rooms := store.rooms ++ [room] }

def completeSpace (space : MatrixRoomReference) (now : UtcMillis) : Except RepositoryErrorKind (RoomCatalog × LobbyStore) := do
  ensure .constraint (job.target.kind = .space)
  let row ← store.lockCompletableJob job space now
  let catalog ← orElse .conflict (store.catalog job.catalog.id)
  if catalog.matrixSpaceId = none ∨ catalog.matrixSpaceId = some space then
    let next ← (store.withSpace catalog.id space).writeJob row now JobRow.completed
    return ({ catalog with matrixSpaceId := some space }, next)
  else .error .conflict

def completeInstance (room : RoomInstance) (now : UtcMillis) : Except RepositoryErrorKind LobbyStore := do
  ensure .constraint (job.target.kind = .roomInstance ∧ job.target.roomInstanceId = some room.id ∧ job.catalog.id = room.catalogId)
  let row ← store.lockCompletableJob job room.matrixRoomId now
  if store.rooms.any fun other => decide (other.id = room.id ∨ other.matrixRoomId = room.matrixRoomId) then .error .conflict
  else (store.withRoom room).writeJob row now JobRow.completed

def releaseProvisioning (now : UtcMillis) : Except RepositoryErrorKind LobbyStore := do
  let row ← orElse .conflict (store.job job.jobId)
  if holdsLease job row now then store.writeJob row now (·.leased none) else .error .conflict

end LobbyStore

section

variable (store next : LobbyStore) (claim : RoomProvisioningClaim) (job : RoomProvisioningJob) (now : UtcMillis)

def Missing (catalog : RoomCatalog) : RoomProvisioningTarget → Prop
  | .space => catalog.matrixSpaceId = none
  | .roomInstance _ region => catalog.matrixSpaceId.isSome = true ∧ ∀ room ∈ store.rooms, isReadyInstance catalog.id region room = false

inductive Claims (catalog : RoomCatalog) : RoomProvisioningClaimOutcome → LobbyStore → Prop where
  | spaceReady (target : claim.target = .space) (space : catalog.matrixSpaceId.isSome = true) : Claims catalog (.spaceReady catalog) store
  | instanceReady (id : RoomInstanceId) (region : Option RoomRegion) (room : RoomInstance) (target : claim.target = .roomInstance id region)
      (there : room ∈ store.rooms) (ready : isReadyInstance catalog.id region room = true) : Claims catalog (.instanceReady room) store
  | busy (row : JobRow) (lease : RoomProvisioningLease) (missing : Missing store catalog claim.target)
      (found : store.lockPendingJob claim = some row) (leased : row.lease = some lease) (held : claim.claimedAt < lease.expiresAt) :
      Claims catalog (.busy lease.expiresAt) store
  | takenOver (row : JobRow) (missing : Missing store catalog claim.target) (found : store.lockPendingJob claim = some row)
      (lapsed : isLeasedAt row claim.claimedAt = false) (created : row.createdAt ≤ claim.claimedAt) :
      Claims catalog (.claimed (decodeJob claim row catalog)) (store.changeJob row.id (·.leased (some ⟨claim.leaseId, claim.expiresAt⟩)))
  | begun (missing : Missing store catalog claim.target) (none' : store.lockPendingJob claim = none)
      (apart : ∀ row ∈ store.jobs, clashes claim row = false) :
      Claims catalog (.claimed (decodeJob claim (newRow claim) catalog)) { store with jobs := store.jobs ++ [newRow claim] }

theorem claim_job_claims (missing : Missing store catalog claim.target)
    (claimed : store.claimJob catalog claim = .ok (outcome, next)) : Claims store claim catalog outcome next := by
  unfold LobbyStore.claimJob at claimed
  cases found : store.lockPendingJob claim with
  | none =>
    simp only [found, LobbyStore.insertJob] at claimed
    split at claimed
    · cases claimed
    · cases claimed
      refine .begun missing found fun row listed => ?_
      cases clash : clashes claim row with
      | false => rfl
      | true => exact absurd (List.any_eq_true.mpr ⟨row, listed, clash⟩) ‹_›
  | some row =>
    simp only [found] at claimed
    cases held : row.lease.filter fun lease => decide (claim.claimedAt < lease.expiresAt) with
    | some lease =>
      obtain ⟨leased, within⟩ := Option.filter_eq_some_iff.mp held
      simp only [held, Except.ok.injEq, Prod.mk.injEq] at claimed
      obtain ⟨rfl, rfl⟩ := claimed
      exact .busy row lease missing found leased (of_decide_eq_true within)
    | none =>
      simp only [held, LobbyStore.writeJob] at claimed
      split at claimed
      · cases claimed
        refine .takenOver row missing found ?_ ‹_›
        unfold isLeasedAt
        cases leased : row.lease with
        | none => rfl
        | some lease =>
          rw [leased] at held
          simpa using held
      · cases claimed

theorem lock_ready
    (found : store.lockReadyInstance catalogId region = some room) : room ∈ store.rooms ∧ isReadyInstance catalogId region room = true :=
  List.mem_filter.mp (max_by_mem bySlots found)

theorem lock_none_ready
    (none' : store.lockReadyInstance catalogId region = none) : ∀ room ∈ store.rooms, isReadyInstance catalogId region room = false := by
  have nothing := (max_by_none bySlots).mp none'
  exact fun room there => Bool.eq_false_iff.mpr (List.filter_eq_nil_iff.mp nothing room there)

theorem claim_claims (claimed : store.claimRoomProvisioning claim = .ok (outcome, next)) :
    ∃ catalog, store.catalog claim.catalogId = some catalog ∧ catalog.kind = .publicLobby ∧ catalog.status = .active ∧
      Claims store claim catalog outcome next := by
  obtain ⟨catalog, found, rest⟩ := unbind claimed
  obtain ⟨_, allowed, rest⟩ := unbind rest
  obtain ⟨ready, read, rest⟩ := unbind rest
  have fits : catalog.kind = .publicLobby ∧ catalog.status = .active := by
    unfold ensureProvisionableCatalog at allowed
    split at allowed
    · assumption
    · cases allowed
  refine ⟨catalog, (or_else_ok ..).mp found, fits.1, fits.2, ?_⟩
  unfold LobbyStore.readyFor at read
  cases target : claim.target with
  | space =>
    rw [target] at read
    by_cases space : catalog.matrixSpaceId.isSome = true
    · simp only [space, if_true, Except.ok.injEq] at read
      subst read
      cases rest
      exact .spaceReady target space
    · simp only [if_neg space, Except.ok.injEq] at read
      subst read
      exact claim_job_claims store next claim (by rw [target]; exact Option.not_isSome_iff_eq_none.mp space) rest
  | roomInstance id region =>
    rw [target] at read
    by_cases space : catalog.matrixSpaceId.isSome = true
    · simp only [if_pos space, Except.ok.injEq] at read
      cases first : store.lockReadyInstance catalog.id region with
      | some room =>
        simp only [first, Option.map_some] at read
        subst read
        cases rest
        obtain ⟨there, ready⟩ := lock_ready store first
        exact .instanceReady id region room target there ready
      | none =>
        simp only [first, Option.map_none] at read
        subst read
        refine claim_job_claims store next claim ?_ rest
        rw [target]
        exact ⟨space, lock_none_ready store first⟩
    · simp only [if_neg space] at read
      cases read

theorem write_job_ok {row : JobRow} (wrote : store.writeJob row now update = .ok next) :
    row.createdAt ≤ now ∧ next = store.changeJob row.id update := by
  unfold LobbyStore.writeJob at wrote
  split at wrote
  · cases wrote
    exact ⟨‹_›, rfl⟩
  · cases wrote

structure Held (row : JobRow) : Prop where
  found : store.job job.jobId = some row
  pending : row.pending = true
  lease : ∃ lease, row.lease = some lease ∧ lease.id = job.leaseId ∧ now < lease.expiresAt
  created : row.createdAt ≤ now

theorem held_of (found : orElse .conflict (store.job job.jobId) = .ok row) (holds : holdsLease job row now = true)
    (created : row.createdAt ≤ now) : Held store job now row := by
  obtain ⟨pending, leased⟩ := (Bool.and_eq_true ..).mp holds
  obtain ⟨lease, there, fits⟩ := (Option.any_eq_true ..).mp leased
  exact ⟨(or_else_ok ..).mp found, pending, ⟨lease, there, of_decide_eq_true fits⟩, created⟩

theorem checkpoint_ok (done : store.checkpointMatrixRoom job room now = .ok next) :
    ∃ row, Held store job now row ∧ (row.matrixRoomId = none ∨ row.matrixRoomId = some room) ∧
      next = store.changeJob row.id (·.checkpointed room) := by
  obtain ⟨row, found, rest⟩ := unbind done
  split at rest
  · obtain ⟨holds, free⟩ := (Bool.and_eq_true ..).mp ‹_›
    obtain ⟨created, rfl⟩ := write_job_ok store next now rest
    exact ⟨row, held_of store job now found holds created, of_decide_eq_true free, rfl⟩
  · cases rest

theorem release_ok (done : store.releaseProvisioning job now = .ok next) :
    ∃ row, Held store job now row ∧ next = store.changeJob row.id (·.leased none) := by
  obtain ⟨row, found, rest⟩ := unbind done
  split at rest
  · obtain ⟨created, rfl⟩ := write_job_ok store next now rest
    exact ⟨row, held_of store job now found ‹_› created, rfl⟩
  · cases rest

theorem completable_ok (found : store.lockCompletableJob job room now = .ok row) :
    orElse .conflict (store.job job.jobId) = .ok row ∧ holdsLease job row now = true ∧ row.matrixRoomId = some room := by
  obtain ⟨row', found', rest⟩ := unbind found
  split at rest
  · obtain ⟨holds, same⟩ := (Bool.and_eq_true ..).mp ‹_›
    cases rest
    exact ⟨found', holds, of_decide_eq_true same⟩
  · cases rest

theorem complete_space_ok (done : store.completeSpace job space now = .ok (told, next)) :
    ∃ row catalog, Held store job now row ∧ row.matrixRoomId = some space ∧ job.target.kind = .space ∧
      store.catalog job.catalog.id = some catalog ∧ (catalog.matrixSpaceId = none ∨ catalog.matrixSpaceId = some space) ∧
      told = { catalog with matrixSpaceId := some space } ∧ next = (store.withSpace catalog.id space).changeJob row.id JobRow.completed := by
  obtain ⟨_, kind, rest⟩ := unbind done
  obtain ⟨row, found, rest⟩ := unbind rest
  obtain ⟨catalog, place, rest⟩ := unbind rest
  obtain ⟨locked, holds, same⟩ := completable_ok store job now found
  split at rest
  · obtain ⟨written, wrote, rest⟩ := unbind rest
    obtain ⟨created, rfl⟩ := write_job_ok _ written now wrote
    cases rest
    exact ⟨row, catalog, held_of store job now locked holds created, same, (ensure_ok ..).mp kind, (or_else_ok ..).mp place, ‹_›,
      rfl, rfl⟩
  · cases rest

theorem complete_instance_ok {room : RoomInstance} (done : store.completeInstance job room now = .ok next) :
    ∃ row, Held store job now row ∧ row.matrixRoomId = some room.matrixRoomId ∧ job.target.roomInstanceId = some room.id ∧
      job.catalog.id = room.catalogId ∧ (∀ other ∈ store.rooms, other.id ≠ room.id ∧ other.matrixRoomId ≠ room.matrixRoomId) ∧
      next = (store.withRoom room).changeJob row.id JobRow.completed := by
  obtain ⟨_, fits, rest⟩ := unbind done
  obtain ⟨row, found, rest⟩ := unbind rest
  obtain ⟨locked, holds, same⟩ := completable_ok store job now found
  obtain ⟨_, target, catalog⟩ := (ensure_ok ..).mp fits
  split at rest
  · cases rest
  · obtain ⟨created, rfl⟩ := write_job_ok _ next now rest
    refine ⟨row, held_of store job now locked holds created, same, target, catalog, fun other there => ?_, rfl⟩
    refine not_or.mp fun clash => ‹¬ _› (List.any_eq_true.mpr ⟨other, there, decide_eq_true clash⟩)

end

end AgentRoom.Lobby
