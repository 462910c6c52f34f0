import AgentRoom.Lobby.Entering
import AgentRoom.Lobby.Leases

namespace AgentRoom.Lobby

open Library

def JobRow.finished (row : JobRow) (room : MatrixRoomReference) : JobRow := (row.checkpointed room).completed

structure AsksAgain (world : LobbyWorld) (claim : RoomProvisioningClaim) (row : JobRow) (catalog : RoomCatalog) : Prop where
  there : row ∈ world.store.jobs
  pending : row.pending = true
  work : SameWork row (newRow claim)
  found : world.store.catalog claim.catalogId = some catalog
  provisionable : catalog.kind = .publicLobby ∧ catalog.status = .active
  lapsed : isLeasedAt row claim.claimedAt = false
  created : row.createdAt ≤ claim.claimedAt
  lease : claim.claimedAt < claim.expiresAt

-- The Matrix room a job comes to: the one it has, the one its alias stands for,
-- or a new one.
def Stands (world : LobbyWorld) (row : JobRow) (place : MatrixRoomReference) : Prop :=
  row.matrixRoomId = some place ∨ (row.matrixRoomId = none ∧ ((row.aliasLocalpart, place) ∈ world.directory ∨
    (world.resolves row.aliasLocalpart = none ∧ (∀ entry ∈ world.directory, entry.2 ≠ place) ∧
      ∀ room ∈ world.store.rooms, room.matrixRoomId ≠ place)))

def takenOver (world : LobbyWorld) (claim : RoomProvisioningClaim) (row : JobRow) (catalog : RoomCatalog) : LobbyWorld :=
  world.wrote (world.store.changeJob row.id (·.leased (some ⟨claim.leaseId, claim.expiresAt⟩))) [.handed (decodeJob claim row catalog)]

def Finishes (world : LobbyWorld) (claim : RoomProvisioningClaim) (row : JobRow) (catalog : RoomCatalog) (place : MatrixRoomReference) : Prop :=
  match row.target with
  | .space => ∃ final, final.store.job row.id = some (row.finished place) ∧
      Alone lobbyEnvironment (openSpace (decodeJob claim row catalog)).run (takenOver world claim row catalog)
        (.ok (.ready { catalog with matrixSpaceId := some place })) final
  | .roomInstance id _ => ∀ space, ∃ (room : RoomInstance) (final : LobbyWorld), room.id = id ∧ room.matrixRoomId = place ∧
      final.store.job row.id = some (row.finished place) ∧
      Alone lobbyEnvironment (openInstance catalog space (decodeJob claim row catalog)).run (takenOver world claim row catalog)
        (.ok (.ready ⟨catalog, room⟩)) final

section

variable {world : LobbyWorld} {claim : RoomProvisioningClaim} {row : JobRow} {catalog : RoomCatalog}

theorem pending_found (sound : Provisioned world) (asks : AsksAgain world claim row catalog) :
    world.store.lockPendingJob claim = some row := by
  obtain ⟨place, kind, region⟩ := asks.work
  have fits : isPendingFor claim row = true :=
    (Bool.and_eq_true ..).mpr ⟨decide_eq_true ⟨place, kind, fun same => region (kind.trans same)⟩, asks.pending⟩
  cases found : world.store.lockPendingJob claim with
  | none => exact absurd fits (List.find?_eq_none.mp found row asks.there)
  | some other =>
    obtain ⟨there, place', kind', region', pending'⟩ := pending_fits world claim found
    have same : SameWork row other := by
      refine ⟨place.trans place'.symm, kind.trans kind'.symm, fun instance' => ?_⟩
      exact (region instance').trans (region' (kind.symm.trans instance')).symm
    have equal := sound.jobs.once row asks.there other there same (.inl ⟨asks.pending, pending'⟩)
    rw [same_row world.store sound.jobs there asks.there equal.symm]

theorem claim_takes_over (sound : Provisioned world) (asks : AsksAgain world claim row catalog) :
    (∃ room ∈ world.store.rooms, row.target.kind = .roomInstance ∧ isReadyInstance catalog.id row.target.region room = true ∧
      world.store.claimRoomProvisioning claim = .ok (.instanceReady room, world.store)) ∨
    world.store.claimRoomProvisioning claim =
      .ok (.claimed (decodeJob claim row catalog), (takenOver world claim row catalog).store) := by
  have found := pending_found sound asks
  obtain ⟨listed, same⟩ := catalog_found world.store asks.found
  have place : catalog.id = row.catalogId := same.trans asks.work.1.symm
  have free : row.lease.filter (fun lease => decide (claim.claimedAt < lease.expiresAt)) = none := by
    have lapsed := asks.lapsed
    unfold isLeasedAt at lapsed
    cases leased : row.lease with
    | none => rfl
    | some lease =>
      rw [leased] at lapsed
      simpa using lapsed
  have handed : world.store.claimJob catalog claim =
      .ok (.claimed (decodeJob claim row catalog), (takenOver world claim row catalog).store) := by
    simp only [LobbyStore.claimJob, found, free, LobbyStore.writeJob, if_pos asks.created]
    rfl
  have opens : ∀ ready result, world.store.readyFor catalog claim.target = .ok ready →
      ready.elim (world.store.claimJob catalog claim) (fun outcome => .ok (outcome, world.store)) = .ok result → world.store.claimRoomProvisioning claim = .ok result := by
    intro ready result read rest
    refine (bind_ok ..).mpr ⟨catalog, (or_else_ok ..).mpr asks.found,
      (bind_ok ..).mpr ⟨(), if_pos asks.provisionable, (bind_ok ..).mpr ⟨ready, read, ?_⟩⟩⟩
    cases ready <;> exact rest
  cases target : claim.target with
  | space =>
    have isSpace : row.target = .space := by
      have kind : row.target.kind = claim.target.kind := asks.work.2.1
      cases mine : row.target with
      | space => rfl
      | roomInstance id region =>
        rw [mine, target] at kind
        cases kind
    have spaced := sound.places.spaces row asks.there isSpace catalog listed place
    rw [asks.pending] at spaced
    have none' : catalog.matrixSpaceId = none := spaced
    refine .inr (opens none _ ?_ handed)
    simp [target, LobbyStore.readyFor, none']
  | roomInstance id region =>
    have kind : row.target.kind = .roomInstance := by
      have same : row.target.kind = claim.target.kind := asks.work.2.1
      rw [same, target]
      rfl
    have based := sound.places.based row asks.there kind catalog listed place
    have sameRegion : row.target.region = region := by
      have same : row.target.region = claim.target.region := asks.work.2.2 kind
      rw [same, target]
      rfl
    cases first : world.store.lockReadyInstance catalog.id region with
    | some room =>
      obtain ⟨there, ready⟩ := lock_ready world.store first
      refine .inl ⟨room, there, kind, sameRegion ▸ ready, opens (some (.instanceReady room)) _ ?_ rfl⟩
      simp [target, LobbyStore.readyFor, based, first]
    | none =>
      refine .inr (opens none _ ?_ handed)
      simp [target, LobbyStore.readyFor, based, first]

end

section

variable (world : LobbyWorld) (job : RoomProvisioningJob) (row : JobRow) (now : UtcMillis)

structure Holding (world : LobbyWorld) (job : RoomProvisioningJob) (row : JobRow) (now : UtcMillis) : Prop where
  found : world.store.job job.jobId = some row
  holds : holdsLease job row now = true
  created : row.createdAt ≤ now

theorem job_changed (store : LobbyStore) (id : RoomProvisioningJobId) (update : JobRow → JobRow) (same : ∀ row, (update row).id = row.id)
    (other : RoomProvisioningJobId) :
    (store.changeJob id update).job other = (store.job other).map fun row => if row.id = id then update row else row := by
  unfold LobbyStore.job LobbyStore.changeJob
  rw [List.find?_map]
  congr 1
  refine congrArg (List.find? · store.jobs) (funext fun row => ?_)
  simp only [Function.comp]
  split
  · rw [same row]
  · rfl

theorem changed_found {store : LobbyStore} (same : ∀ row, (update row).id = row.id)
    (found : store.job job.jobId = some row) : (store.changeJob row.id update).job job.jobId = some (update row) := by
  rw [job_changed store row.id update same, found]
  exact congrArg some (if_pos rfl)

theorem checkpoint_alone (stages : MatrixRoomStages) (room : MatrixRoomReference) (holding : Holding world job row now)
    (free : row.matrixRoomId = none) : ∃ final, Alone lobbyEnvironment (checkpoint job stages room).run world (.ok room) final ∧
      Holding final job (row.checkpointed room) now ∧ final.store.rooms = world.store.rooms ∧
      final.store.catalogs = world.store.catalogs := by
  have made : world.store.checkpointMatrixRoom job room now = .ok (world.store.changeJob row.id (·.checkpointed room)) := by
    refine (bind_ok ..).mpr ⟨row, (or_else_ok ..).mpr holding.found, ?_⟩
    simp [holding.holds, free, LobbyStore.writeJob, holding.created]
  refine ⟨world.wrote (world.store.changeJob row.id (·.checkpointed room)) [.checkpointed job room now], ?_,
    ⟨?_, holding.holds, holding.created⟩, rfl, rfl⟩
  · refine (alone_then ..).mpr ⟨now, world, (alone_consult ..).mpr ⟨now, rfl, rfl⟩, ?_⟩
    refine (alone_then ..).mpr ⟨(), _, (alone_consult ..).mpr ⟨.ok (), ?_, rfl⟩, (alone_pure ..).mpr ⟨rfl, rfl⟩⟩
    exact .inl ⟨(), _, by rw [made]; rfl, rfl, .inl rfl⟩
  · exact changed_found job row (fun _ => rfl) holding.found

theorem directory_resolves (names : (world.directory.map Prod.fst).Nodup)
    (named : (aliasLocalpart, room) ∈ world.directory) : world.resolves aliasLocalpart = some room := by
  unfold LobbyWorld.resolves
  cases found : world.directory.find? fun entry => decide (entry.1 = aliasLocalpart) with
  | none => exact absurd (decide_eq_true rfl) (List.find?_eq_none.mp found _ named)
  | some entry =>
    obtain ⟨there, same⟩ := find_keyed Prod.fst aliasLocalpart entry found
    rw [List.inj_on_of_nodup_map names there named same]
    rfl

theorem ensure_room_alone (stages : MatrixRoomStages) (holding : Holding world job row now)
    (names : (world.directory.map Prod.fst).Nodup) (recorded : job.matrixRoomId = row.matrixRoomId)
    (alias' : job.aliasLocalpart = row.aliasLocalpart) (stands : Stands world row place) :
    ∃ final, Alone lobbyEnvironment (ensureMatrixRoom job stages).run world (.ok place) final ∧
      Holding final job (row.checkpointed place) now ∧ final.store.rooms = world.store.rooms ∧
      final.store.catalogs = world.store.catalogs := by
  rcases stands with there | ⟨none', named | ⟨free, fresh, apart⟩⟩
  · have same : row.checkpointed place = row := by rw [JobRow.checkpointed, ← there]
    refine ⟨world, ?_, same.symm ▸ holding, rfl, rfl⟩
    unfold ensureMatrixRoom
    rw [recorded, there]
    exact (alone_pure ..).mpr ⟨rfl, rfl⟩
  · obtain ⟨final, run, rest⟩ := checkpoint_alone world job row now stages place holding none'
    refine ⟨final, ?_, rest⟩
    unfold ensureMatrixRoom
    rw [recorded, none']
    refine (alone_then ..).mpr ⟨.error .conflict, world, (alone_consult ..).mpr ⟨.error .conflict, .inr ⟨rfl, _, rfl⟩, rfl⟩, ?_⟩
    refine (alone_then ..).mpr ⟨.ok place, world, (alone_consult ..).mpr ⟨.ok place, ⟨?_, rfl⟩, rfl⟩, run⟩
    intro room same
    rw [← Except.ok.inj same, alias']
    exact directory_resolves world names named
  · obtain ⟨final, run, rest⟩ := checkpoint_alone (world.opened row.aliasLocalpart place) job row now stages place
      ⟨holding.found, holding.holds, holding.created⟩ none'
    refine ⟨final, ?_, rest⟩
    unfold ensureMatrixRoom
    rw [recorded, none']
    refine (alone_then ..).mpr ⟨.ok place, world.opened row.aliasLocalpart place, (alone_consult ..).mpr ⟨.ok place, ?_, rfl⟩, run⟩
    rw [alias']
    exact .inl ⟨place, free, fresh, apart, rfl, .inl rfl⟩

theorem completable (room : MatrixRoomReference) (holding : Holding world job row now) (place : row.matrixRoomId = some room) :
    world.store.lockCompletableJob job room now = .ok row := by
  refine (bind_ok ..).mpr ⟨row, (or_else_ok ..).mpr holding.found, ?_⟩
  simp [holding.holds, place]

theorem open_space_alone {catalog : RoomCatalog} (holding : Holding world job row now)
    (names : (world.directory.map Prod.fst).Nodup) (recorded : job.matrixRoomId = row.matrixRoomId)
    (alias' : job.aliasLocalpart = row.aliasLocalpart) (target : job.target = .space)
    (found : world.store.catalog job.catalog.id = some catalog) (missing : catalog.matrixSpaceId = none) (stands : Stands world row place) :
    ∃ final, final.store.job job.jobId = some (row.finished place) ∧
      Alone lobbyEnvironment (openSpace job).run world (.ok (.ready { catalog with matrixSpaceId := some place })) final := by
  obtain ⟨middle, run, held, _, catalogs⟩ := ensure_room_alone world job row now spaceStages holding names recorded alias' stands
  have found' : middle.store.catalog job.catalog.id = some catalog := by
    rw [LobbyStore.catalog, catalogs]
    exact found
  have made : middle.store.completeSpace job place now = .ok ({ catalog with matrixSpaceId := some place },
      (middle.store.withSpace catalog.id place).changeJob (row.checkpointed place).id JobRow.completed) := by
    have kind : job.target.kind = .space := by rw [target]; rfl
    refine (bind_ok ..).mpr ⟨(), (ensure_ok ..).mpr kind, (bind_ok ..).mpr ⟨_, completable middle job _ now place held rfl,
      (bind_ok ..).mpr ⟨catalog, (or_else_ok ..).mpr found', ?_⟩⟩⟩
    rw [if_pos (.inl missing)]
    exact (bind_ok ..).mpr ⟨_, if_pos held.created, rfl⟩
  refine ⟨middle.wrote ((middle.store.withSpace catalog.id place).changeJob (row.checkpointed place).id JobRow.completed)
    [.completed job place now], ?_, ?_⟩
  · exact changed_found job (row.checkpointed place) (fun _ => rfl) held.found
  · refine (alone_then ..).mpr ⟨(), world, (alone_settled ..).mpr ⟨?_, rfl⟩, ?_⟩
    · unfold ensureJobKind
      rw [target]
      rfl
    refine (alone_then ..).mpr ⟨place, middle, run, ?_⟩
    refine (alone_then ..).mpr ⟨now, middle, (alone_consult ..).mpr ⟨now, rfl, rfl⟩, ?_⟩
    refine (alone_then ..).mpr ⟨_, _, (alone_consult ..).mpr ⟨.ok _, ?_, rfl⟩, (alone_pure ..).mpr ⟨rfl, rfl⟩⟩
    exact .inl ⟨_, _, made, rfl, .inl rfl⟩

theorem open_instance_alone {catalog : RoomCatalog} {space : MatrixRoomReference} {id : RoomInstanceId}
    (holding : Holding world job row now) (names : (world.directory.map Prod.fst).Nodup) (recorded : job.matrixRoomId = row.matrixRoomId)
    (alias' : job.aliasLocalpart = row.aliasLocalpart) (target : job.target = .roomInstance id region) (stands : Stands world row place)
    (apart : ∀ room ∈ world.store.rooms, room.id ≠ id ∧ room.matrixRoomId ≠ place) :
    ∃ room final, room.id = id ∧ room.matrixRoomId = place ∧ final.store.job job.jobId = some (row.finished place) ∧
      Alone lobbyEnvironment (openInstance catalog space job).run world (.ok (.ready ⟨catalog, room⟩)) final := by
  obtain ⟨middle, run, held, rooms, _⟩ := ensure_room_alone world job row now instanceStages holding names recorded alias' stands
  have kind : job.target.kind = .roomInstance := by rw [target]; rfl
  have instance' : job.target.roomInstanceId = some id := by rw [target]; rfl
  let room : RoomInstance := ⟨id, job.catalog.id, place, job.target.region, .standard, 0, .active, Nat.zero_le _⟩
  have built : buildRoomInstance job place = .ok room := by rw [buildRoomInstance, instance']
  have free : (middle.store.rooms.any fun other => decide (other.id = room.id ∨ other.matrixRoomId = room.matrixRoomId)) = false := by
    rw [rooms]
    refine List.any_eq_false.mpr fun other there => ?_
    obtain ⟨id', place'⟩ := apart other there
    simp [room, id', place']
  have made : middle.store.completeInstance job room now = .ok
      ((middle.store.withRoom room).changeJob (row.checkpointed place).id JobRow.completed) := by
    have fits : job.target.kind = .roomInstance ∧ job.target.roomInstanceId = some room.id ∧ job.catalog.id = room.catalogId :=
      ⟨kind, instance', rfl⟩
    have locked : middle.store.lockCompletableJob job room.matrixRoomId now = .ok (row.checkpointed place) :=
      completable middle job _ now place held rfl
    refine (bind_ok ..).mpr ⟨(), (ensure_ok ..).mpr fits, (bind_ok ..).mpr ⟨_, locked, ?_⟩⟩
    rw [if_neg (Bool.eq_false_iff.mp free)]
    exact if_pos held.created
  refine ⟨room, middle.wrote ((middle.store.withRoom room).changeJob (row.checkpointed place).id JobRow.completed)
    [.completed job place now], rfl, rfl, ?_, ?_⟩
  · exact changed_found job (row.checkpointed place) (fun _ => rfl) held.found
  · refine (alone_then ..).mpr ⟨(), world, (alone_settled ..).mpr ⟨if_pos kind, rfl⟩, ?_⟩
    refine (alone_then ..).mpr ⟨place, middle, run, ?_⟩
    refine (alone_then ..).mpr ⟨(), middle, ?_, ?_⟩
    · exact (alone_then ..).mpr ⟨.ok (), middle, (alone_consult ..).mpr ⟨.ok (), rfl, rfl⟩, (alone_pure ..).mpr ⟨rfl, rfl⟩⟩
    refine (alone_then ..).mpr ⟨(), middle, ?_, ?_⟩
    · -- Nothing is standing against anyone.
      refine (alone_then ..).mpr ⟨now, middle, (alone_consult ..).mpr ⟨now, rfl, rfl⟩, ?_⟩
      exact (alone_then ..).mpr ⟨[], middle, (alone_consult ..).mpr ⟨.ok [], rfl, rfl⟩, (alone_pure ..).mpr ⟨rfl, rfl⟩⟩
    refine (alone_then ..).mpr ⟨room, middle, (alone_settled ..).mpr ⟨built, rfl⟩, ?_⟩
    refine (alone_then ..).mpr ⟨now, middle, (alone_consult ..).mpr ⟨now, rfl, rfl⟩, ?_⟩
    refine (alone_then ..).mpr ⟨(), _, (alone_consult ..).mpr ⟨.ok (), ?_, rfl⟩, (alone_pure ..).mpr ⟨rfl, rfl⟩⟩
    exact .inl ⟨(), _, by rw [made]; rfl, rfl, .inl rfl⟩

end

def PendingOnce (store : LobbyStore) : Prop :=
  ∀ row ∈ store.jobs, ∀ other ∈ store.jobs, row.pending = true → other.pending = true → SameWork row other → row = other

def RowsKept (world later : LobbyWorld) : Prop := ∀ row ∈ world.store.jobs, ∃ other ∈ later.store.jobs, KeptRow row other

-- A job has one outcome: the space of its catalog, or the one room of its instance.
def CompletedOnce (world : LobbyWorld) : Prop :=
  ∀ row ∈ world.store.jobs, world.log.countP (LobbyEvent.completes row.id) = (if row.pending then 0 else 1) ∧
    match row.target with
    | .space => ∀ catalog ∈ world.store.catalogs, catalog.id = row.catalogId →
        catalog.matrixSpaceId = if row.pending then none else row.matrixRoomId
    | .roomInstance id _ => (world.store.rooms.filter fun room => decide (room.id = id)).map RoomInstance.matrixRoomId =
        if row.pending then [] else row.matrixRoomId.toList

-- A later claim of the same work finds a room ready, or takes the job over and can finish it.
def Resumable (world : LobbyWorld) : Prop :=
  ∀ claim row catalog, AsksAgain world claim row catalog →
    (∃ room ∈ world.store.rooms, row.target.kind = .roomInstance ∧ isReadyInstance catalog.id row.target.region room = true ∧
      world.store.claimRoomProvisioning claim = .ok (.instanceReady room, world.store)) ∨
    (world.store.claimRoomProvisioning claim =
        .ok (.claimed (decodeJob claim row catalog), (takenOver world claim row catalog).store) ∧
      ∀ place, Stands world row place → Finishes world claim row catalog place)

section

variable {world : LobbyWorld} {claim : RoomProvisioningClaim} {row : JobRow} {catalog : RoomCatalog}

theorem taken_holding (sound : Provisioned world) (asks : AsksAgain world claim row catalog) :
    Holding (takenOver world claim row catalog) (decodeJob claim row catalog)
      (row.leased (some ⟨claim.leaseId, claim.expiresAt⟩)) claim.claimedAt where
  found := changed_found (decodeJob claim row catalog) row
    (fun _ => rfl) (job_there world.store sound.jobs asks.there)
  holds := by simp [holdsLease, JobRow.leased, asks.pending, decodeJob, asks.lease]
  created := asks.created

theorem place_free (sound : Provisioned world) (there : row ∈ world.store.jobs) (pending : row.pending = true)
    (stands : Stands world row place) (id : RoomInstanceId) (target : row.target.roomInstanceId = some id) :
    ∀ room ∈ world.store.rooms, room.id ≠ id ∧ room.matrixRoomId ≠ place := by
  intro room listed
  have unpublished : ∀ holder ∈ world.store.jobs, holder.id = row.id → holder.target.roomInstanceId ≠ some room.id := by
    intro holder there' same mine
    rw [same_row world.store sound.jobs there' there same] at mine
    have ended := (sound.places.opened row there room listed mine).1
    exact absurd (pending.symm.trans ended) (by decide)
  refine ⟨fun same => unpublished row there rfl (same ▸ target), fun same => ?_⟩
  have named : (row.aliasLocalpart, place) ∈ world.directory → False := by
    intro named
    obtain ⟨holder, there', mine, name⟩ := sound.places.taken room listed _ named same
    exact unpublished holder there' (sound.jobs.aliases holder there' row there name) mine
  rcases stands with recorded | ⟨_, stands | ⟨_, _, apart⟩⟩
  · exact named (sound.places.placed row there place recorded)
  · exact named stands
  · exact apart room listed same

theorem taken_finishes (sound : Provisioned world) (asks : AsksAgain world claim row catalog) (place : MatrixRoomReference)
    (stands : Stands world row place) : Finishes world claim row catalog place := by
  have holding := taken_holding sound asks
  have stands' : Stands (takenOver world claim row catalog) (row.leased (some ⟨claim.leaseId, claim.expiresAt⟩)) place := stands
  obtain ⟨listed, same⟩ := catalog_found world.store asks.found
  cases target : row.target with
  | space =>
    have found : (takenOver world claim row catalog).store.catalog (decodeJob claim row catalog).catalog.id = some catalog := by
      have mine : (decodeJob claim row catalog).catalog.id = claim.catalogId := same
      rw [mine]
      exact asks.found
    have missing := sound.places.spaces row asks.there target catalog listed (same.trans asks.work.1.symm)
    rw [asks.pending] at missing
    obtain ⟨final, finished, run⟩ := open_space_alone _ _ _ _ holding sound.places.names rfl rfl target found missing stands'
    rw [Finishes, target]
    exact ⟨final, finished, run⟩
  | roomInstance id region =>
    have free := place_free sound asks.there asks.pending stands id (by rw [target]; rfl)
    rw [Finishes, target]
    exact fun space => open_instance_alone _ _ _ _ holding sound.places.names rfl rfl target stands' free

theorem only_keyed [DecidableEq κ] {key : α → κ} {rows : List α} {row : α} (keys : (rows.map key).Nodup) (there : row ∈ rows) :
    rows.filter (fun other => decide (key other = key row)) = [row] := by
  induction rows with
  | nil => cases there
  | cons first rest ih =>
    obtain ⟨apart, keys'⟩ := List.nodup_cons.mp keys
    by_cases mine : key first = key row
    · have same : first = row := List.inj_on_of_nodup_map keys List.mem_cons_self there mine
      have none' : rest.filter (fun other => decide (key other = key row)) = [] := by
        refine List.filter_eq_nil_iff.mpr fun other listed equal => apart ?_
        rw [mine, ← of_decide_eq_true equal]
        exact List.mem_map_of_mem listed
      rw [List.filter_cons, if_pos (decide_eq_true mine), none', same]
    · rw [List.filter_cons, if_neg fun same => mine (of_decide_eq_true same)]
      refine ih keys' ((List.mem_cons.mp there).resolve_left fun same => mine ?_)
      rw [same]

theorem provisioned_completed (sound : Provisioned world) : CompletedOnce world := by
  intro row there
  refine ⟨sound.counted row there, ?_⟩
  cases target : row.target with
  | space => exact sound.places.spaces row there target
  | roomInstance id region =>
    have mine : row.target.roomInstanceId = some id := by rw [target]; rfl
    cases pending : row.pending with
    | true =>
      have nothing : world.store.rooms.filter (fun room => decide (room.id = id)) = [] := by
        refine List.filter_eq_nil_iff.mpr fun room listed same => ?_
        have ended := (sound.places.opened row there room listed (mine.trans (congrArg some (of_decide_eq_true same).symm))).1
        exact absurd (pending.symm.trans ended) (by decide)
      change (world.store.rooms.filter fun room => decide (room.id = id)).map RoomInstance.matrixRoomId = _
      rw [nothing]
      rfl
    | false =>
      obtain ⟨room, listed, rfl⟩ := sound.places.published row there id mine pending
      change (world.store.rooms.filter fun other => decide (other.id = room.id)).map RoomInstance.matrixRoomId = _
      rw [only_keyed sound.places.rooms listed, (sound.places.opened row there room listed mine).2]
      rfl

theorem provisioned_once (sound : Provisioned world) : PendingOnce world.store := by
  intro row there other there' pending pending' work
  exact same_row world.store sound.jobs there there' (sound.jobs.once row there other there' work (.inl ⟨pending, pending'⟩))

theorem provisioned_resumable (sound : Provisioned world) : Resumable world := by
  intro claim row catalog asks
  rcases claim_takes_over sound asks with ready | handed
  · exact .inl ready
  · exact .inr ⟨handed, taken_finishes sound asks⟩

end

theorem one_holder_and_one_outcome (lifetime : DurationMillis) (world : LobbyWorld) (reached final : ProvisioningScene)
    (turns rest : List (Turn LobbyProvisioningRequest)) (untouched : Untouched world)
    (run : Provisions lifetime (.opening world) turns reached) (onward : Provisions lifetime reached rest final) :
    PendingOnce final.world.store ∧ RowsKept reached.world final.world ∧ Exclusive final.world.log ∧ (leases final.world.log).Nodup ∧
      CompletedOnce final.world ∧ Resumable final.world := by
  obtain ⟨kept, later⟩ := provisions_kept (reached_kept untouched run) onward
  have sound : Provisioned final.world := kept.invariant
  exact ⟨provisioned_once sound, later.rows, sound.exclusive, sound.leases, provisioned_completed sound,
    provisioned_resumable sound⟩

def emptyHall : LobbyWorld := ⟨emptyStore, [], [], []⟩

def cutOffTurns : List (Turn LobbyProvisioningRequest) :=
  .join ⟨emptyLobby, some "eu"⟩ :: (List.replicate 6 (.proceed 0) ++ [.cut 0])

def cutOff : ProvisioningScene :=
  cutOffTurns.foldl (rehearse (fun world => oblige world 10 "!room:hall") fun request => (provision 1000 request).run) (.opening emptyHall)

def cutOffRow : JobRow := ⟨2, ⟨1⟩, .roomInstance 1 (some "eu"), "agent-room-hall-00000000000000000000000000000001", none, true, some ⟨3, 1010⟩, 10⟩

def secondClaim : RoomProvisioningClaim := ⟨8, 9, ⟨1⟩, .roomInstance 7 (some "eu"), "agent-room-hall-00000000000000000000000000000007", 1010, 2010⟩


theorem cut_off_jobs : cutOff.world.store.jobs = [cutOffRow] := by rfl

theorem cut_off_directory : cutOff.world.directory = [(cutOffRow.aliasLocalpart, "!room:hall")] := by rfl

theorem cut_off_asks_again : AsksAgain cutOff.world secondClaim cutOffRow emptyLobby where
  there := by
    rw [cut_off_jobs]
    exact List.mem_singleton.mpr rfl
  pending := rfl
  work := ⟨rfl, rfl, fun _ => rfl⟩
  found := rfl
  provisionable := ⟨rfl, rfl⟩
  lapsed := rfl
  created := by decide
  lease := by decide

theorem cut_off_untouched : Untouched emptyHall where
  jobs := rfl
  log := rfl
  catalogs := List.nodup_singleton _
  rooms := List.nodup_nil
  names := List.nodup_nil
  places := List.nodup_nil
  apart := fun _ there => absurd there List.not_mem_nil

theorem cut_off_worker_is_replaced : ∃ turns, Provisions 1000 (.opening emptyHall) turns cutOff ∧
    cutOff.world.store.claimRoomProvisioning secondClaim =
      .ok (.claimed (decodeJob secondClaim cutOffRow emptyLobby), (takenOver cutOff.world secondClaim cutOffRow emptyLobby).store) ∧
    Finishes cutOff.world secondClaim cutOffRow emptyLobby "!room:hall" := by
  obtain ⟨turns, run⟩ := rehearsed_run lobbyEnvironment (fun world => oblige world 10 "!room:hall")
    (fun world => oblige_answers world 10 "!room:hall") (.opening emptyHall) cutOffTurns
  obtain ⟨_, _, _, _, _, resumes⟩ := one_holder_and_one_outcome 1000 emptyHall cutOff cutOff turns [] cut_off_untouched run rfl
  rcases resumes secondClaim cutOffRow emptyLobby cut_off_asks_again with ⟨room, there, _⟩ | ⟨claimed, finishes⟩
  · cases there
  · refine ⟨turns, run, claimed, finishes "!room:hall" (.inr ⟨rfl, .inl ?_⟩)⟩
    rw [cut_off_directory]
    exact List.mem_singleton.mpr rfl

end AgentRoom.Lobby
