import AgentRoom.Library.Log
import AgentRoom.Lobby.World
import Mathlib.Data.List.Nodup

namespace AgentRoom.Lobby

open Library

structure SameJob (row other : JobRow) : Prop where
  id : other.id = row.id
  catalogId : other.catalogId = row.catalogId
  target : other.target = row.target
  aliasLocalpart : other.aliasLocalpart = row.aliasLocalpart

-- A room once set stays, and so does a completed job.
structure KeptRow (row later : JobRow) : Prop where
  same : SameJob row later
  room : ∀ room, row.matrixRoomId = some room → later.matrixRoomId = some room
  done : row.pending = false → later = row

theorem kept_row_refl : KeptRow row row := ⟨⟨rfl, rfl, rfl, rfl⟩, fun _ same => same, fun _ => rfl⟩

theorem kept_row_trans (first : KeptRow row middle) (second : KeptRow middle later) : KeptRow row later where
  same := ⟨second.same.id.trans first.same.id, second.same.catalogId.trans first.same.catalogId,
    second.same.target.trans first.same.target, second.same.aliasLocalpart.trans first.same.aliasLocalpart⟩
  room := fun room found => second.room room (first.room room found)
  done := fun done => by
    have same := first.done done
    rw [← same] at done
    exact (second.done done).trans same

def SameWork (row other : JobRow) : Prop :=
  row.catalogId = other.catalogId ∧ row.target.kind = other.target.kind ∧
    (row.target.kind = .roomInstance → row.target.region = other.target.region)

structure JobsSound (store : LobbyStore) : Prop where
  keys : (store.jobs.map JobRow.id).Nodup
  once : ∀ row ∈ store.jobs, ∀ other ∈ store.jobs, SameWork row other →
    row.pending = true ∧ other.pending = true ∨ row.target.kind = .space → row.id = other.id
  rooms : ∀ row ∈ store.jobs, ∀ other ∈ store.jobs, row.target.roomInstanceId.isSome = true →
    row.target.roomInstanceId = other.target.roomInstanceId → row.id = other.id
  aliases : ∀ row ∈ store.jobs, ∀ other ∈ store.jobs, row.aliasLocalpart = other.aliasLocalpart → row.id = other.id
  done : ∀ row ∈ store.jobs, row.pending = false → row.lease = none ∧ row.matrixRoomId.isSome = true

-- An update of a row: it keeps what the row is, and never reopens it.
structure Updates (update : JobRow → JobRow) : Prop where
  same : ∀ row, SameJob row (update row)
  pending : ∀ row, (update row).pending = true → row.pending = true

section

variable (store : LobbyStore)

theorem leased_updates (lease : Option RoomProvisioningLease) : Updates (·.leased lease) := ⟨fun _ => ⟨rfl, rfl, rfl, rfl⟩, fun _ pending => pending⟩

theorem checkpointed_updates (room : MatrixRoomReference) : Updates (·.checkpointed room) :=
  ⟨fun _ => ⟨rfl, rfl, rfl, rfl⟩, fun _ pending => pending⟩

theorem completed_updates : Updates JobRow.completed := ⟨fun _ => ⟨rfl, rfl, rfl, rfl⟩, nofun⟩

variable {row other : JobRow}

theorem same_row (sound : JobsSound store) (there : row ∈ store.jobs) (there' : other ∈ store.jobs)
    (same : row.id = other.id) : row = other := List.inj_on_of_nodup_map sound.keys there there' same

theorem job_there (sound : JobsSound store) (there : row ∈ store.jobs) : store.job row.id = some row := by
  cases found : store.job row.id with
  | none => exact absurd (decide_eq_true rfl) (List.find?_eq_none.mp found row there)
  | some other =>
    obtain ⟨there', same⟩ := job_found store found
    rw [same_row store sound there' there same]

theorem changed_row {id : RoomProvisioningJobId} (there : later ∈ (store.changeJob id update).jobs) :
    ∃ row ∈ store.jobs, (row.id = id ∧ later = update row) ∨ (row.id ≠ id ∧ later = row) := by
  obtain ⟨row, listed, rfl⟩ := List.mem_map.mp there
  refine ⟨row, listed, ?_⟩
  by_cases mine : row.id = id
  · exact .inl ⟨mine, if_pos mine⟩
  · exact .inr ⟨mine, if_neg mine⟩

variable (id : RoomProvisioningJobId)

theorem row_changed (update : JobRow → JobRow) (there : row ∈ store.jobs) :
    (if row.id = id then update row else row) ∈ (store.changeJob id update).jobs := List.mem_map.mpr ⟨row, there, rfl⟩

theorem changed_same (updates : Updates update) (row : JobRow) : SameJob row (if row.id = id then update row else row) := by
  split
  · exact updates.same row
  · exact ⟨rfl, rfl, rfl, rfl⟩

theorem same_work (first : SameJob row row') (second : SameJob other other')
    (work : SameWork row' other') : SameWork row other := by
  unfold SameWork at work
  rw [first.catalogId, second.catalogId, first.target, second.target] at work
  exact work

theorem jobs_changed (updates : Updates update) (sound : JobsSound store)
    (done : ∀ row ∈ store.jobs, row.id = id → (update row).pending = false →
      (update row).lease = none ∧ (update row).matrixRoomId.isSome = true) : JobsSound (store.changeJob id update) := by
  have origin : ∀ later ∈ (store.changeJob id update).jobs, ∃ row ∈ store.jobs, SameJob row later ∧
      (later.pending = true → row.pending = true) := by
    intro later there
    obtain ⟨row, listed, ⟨_, rfl⟩ | ⟨_, rfl⟩⟩ := changed_row store there
    · exact ⟨row, listed, updates.same row, updates.pending row⟩
    · exact ⟨later, listed, ⟨rfl, rfl, rfl, rfl⟩, fun pending => pending⟩
  constructor
  · have ids : (store.changeJob id update).jobs.map JobRow.id = store.jobs.map JobRow.id := by
      simp only [LobbyStore.changeJob, List.map_map]
      exact List.map_congr_left fun row _ => (changed_same id updates row).id
    rw [ids]
    exact sound.keys
  · intro later there later' there' work which
    obtain ⟨row, listed, same, pending⟩ := origin later there
    obtain ⟨row', listed', same', pending'⟩ := origin later' there'
    rw [same.id, same'.id]
    refine sound.once row listed row' listed' (same_work same same' work) ?_
    rcases which with ⟨one, two⟩ | space
    · exact .inl ⟨pending one, pending' two⟩
    · exact .inr (same.target ▸ space)
  · intro later there later' there' some' equal
    obtain ⟨row, listed, same, _⟩ := origin later there
    obtain ⟨row', listed', same', _⟩ := origin later' there'
    rw [same.id, same'.id]
    rw [same.target] at some' equal
    rw [same'.target] at equal
    exact sound.rooms row listed row' listed' some' equal
  · intro later there later' there' equal
    obtain ⟨row, listed, same, _⟩ := origin later there
    obtain ⟨row', listed', same', _⟩ := origin later' there'
    rw [same.id, same'.id]
    rw [same.aliasLocalpart, same'.aliasLocalpart] at equal
    exact sound.aliases row listed row' listed' equal
  · intro later there ended
    obtain ⟨row, listed, ⟨mine, rfl⟩ | ⟨_, rfl⟩⟩ := changed_row store there
    · exact done row listed mine ended
    · exact sound.done later listed ended

theorem clash_apart (apart : clashes claim row = false) : row.id ≠ claim.jobId ∧ row.aliasLocalpart ≠ claim.aliasLocalpart ∧
      (claim.target.roomInstanceId.isSome = true → row.target.roomInstanceId ≠ claim.target.roomInstanceId) := by
  have none' := of_decide_eq_false apart
  obtain ⟨id, rest⟩ := not_or.mp none'
  obtain ⟨name, target⟩ := not_or.mp rest
  exact ⟨id, name, fun some' same => target ⟨some', same⟩⟩

theorem jobs_begun (claim : RoomProvisioningClaim) (sound : JobsSound store) (apart : ∀ row ∈ store.jobs, clashes claim row = false)
    (free : ∀ row ∈ store.jobs, SameWork row (newRow claim) → row.pending = false ∧ row.target.kind ≠ .space) :
    JobsSound { store with jobs := store.jobs ++ [newRow claim] } := by
  constructor
  · rw [List.map_append, List.nodup_append]
    refine ⟨sound.keys, List.nodup_singleton _, ?_⟩
    intro id listed other single
    obtain ⟨row, there, rfl⟩ := List.mem_map.mp listed
    rw [List.mem_singleton.mp single]
    exact (clash_apart (apart row there)).1
  · intro row there other there' work which
    rcases List.mem_append.mp there with old | new
    · rcases List.mem_append.mp there' with old' | new'
      · exact sound.once row old other old' work which
      · rw [List.mem_singleton.mp new'] at work
        obtain ⟨pending, kind⟩ := free row old work
        rcases which with ⟨one, _⟩ | space
        · exact absurd (one.symm.trans pending) (by decide)
        · exact absurd space kind
    · rcases List.mem_append.mp there' with old' | new'
      · rw [List.mem_singleton.mp new] at work which
        obtain ⟨pending, kind⟩ := free other old' ⟨work.1.symm, work.2.1.symm, fun kind => (work.2.2 (work.2.1.trans kind)).symm⟩
        rcases which with ⟨_, two⟩ | space
        · exact absurd (two.symm.trans pending) (by decide)
        · exact absurd (work.2.1.symm.trans space) kind
      · rw [List.mem_singleton.mp new, List.mem_singleton.mp new']
  · intro row there other there' some' equal
    rcases List.mem_append.mp there with old | new
    · rcases List.mem_append.mp there' with old' | new'
      · exact sound.rooms row old other old' some' equal
      · rw [List.mem_singleton.mp new'] at equal
        exact absurd equal ((clash_apart (apart row old)).2.2 (equal ▸ some'))
    · rcases List.mem_append.mp there' with old' | new'
      · rw [List.mem_singleton.mp new] at equal some'
        exact absurd equal.symm ((clash_apart (apart other old')).2.2 some')
      · rw [List.mem_singleton.mp new, List.mem_singleton.mp new']
  · intro row there other there' equal
    rcases List.mem_append.mp there with old | new
    · rcases List.mem_append.mp there' with old' | new'
      · exact sound.aliases row old other old' equal
      · rw [List.mem_singleton.mp new'] at equal
        exact absurd equal (clash_apart (apart row old)).2.1
    · rcases List.mem_append.mp there' with old' | new'
      · rw [List.mem_singleton.mp new] at equal
        exact absurd equal.symm (clash_apart (apart other old')).2.1
      · rw [List.mem_singleton.mp new, List.mem_singleton.mp new']
  · intro row there ended
    rcases List.mem_append.mp there with old | new
    · exact sound.done row old ended
    · rw [List.mem_singleton.mp new] at ended
      cases ended

end

-- How the jobs, the spaces, the rooms and the aliases of the homeserver fit together.
structure PlacesSound (world : LobbyWorld) : Prop where
  catalogs : (world.store.catalogs.map RoomCatalog.id).Nodup
  rooms : (world.store.rooms.map RoomInstance.id).Nodup
  spaces : ∀ row ∈ world.store.jobs, row.target = .space → ∀ catalog ∈ world.store.catalogs, catalog.id = row.catalogId →
    catalog.matrixSpaceId = if row.pending then none else row.matrixRoomId
  based : ∀ row ∈ world.store.jobs, row.target.kind = .roomInstance → ∀ catalog ∈ world.store.catalogs, catalog.id = row.catalogId →
    catalog.matrixSpaceId.isSome = true
  opened : ∀ row ∈ world.store.jobs, ∀ room ∈ world.store.rooms, row.target.roomInstanceId = some room.id →
    row.pending = false ∧ row.matrixRoomId = some room.matrixRoomId
  published : ∀ row ∈ world.store.jobs, ∀ id, row.target.roomInstanceId = some id → row.pending = false →
    ∃ room ∈ world.store.rooms, room.id = id
  placed : ∀ row ∈ world.store.jobs, ∀ room, row.matrixRoomId = some room → (row.aliasLocalpart, room) ∈ world.directory
  names : (world.directory.map Prod.fst).Nodup
  places : (world.directory.map Prod.snd).Nodup
  taken : ∀ room ∈ world.store.rooms, ∀ entry ∈ world.directory, room.matrixRoomId = entry.2 →
    ∃ row ∈ world.store.jobs, row.target.roomInstanceId = some room.id ∧ row.aliasLocalpart = entry.1

section

variable (world next : LobbyWorld)

variable {row : JobRow} {catalog : RoomCatalog}

theorem places_changed (updates : Updates update) (jobs : JobsSound world.store)
    (sound : PlacesSound world) (there : row ∈ world.store.jobs) (pending : row.pending = true) (still : (update row).pending = true)
    (room : ∀ room, (update row).matrixRoomId = some room → (row.aliasLocalpart, room) ∈ world.directory)
    (store : next.store = world.store.changeJob row.id update) (directory : next.directory = world.directory) : PlacesSound next := by
  have only : ∀ later ∈ next.store.jobs, later = update row ∨ later ∈ world.store.jobs := by
    rw [store]
    intro later listed
    obtain ⟨other, there', ⟨mine, rfl⟩ | ⟨_, rfl⟩⟩ := changed_row world.store listed
    · exact .inl (congrArg update (same_row world.store jobs there' there mine))
    · exact .inr there'
  have catalogs : next.store.catalogs = world.store.catalogs := by rw [store]; rfl
  have rooms : next.store.rooms = world.store.rooms := by rw [store]; rfl
  have same := updates.same row
  constructor
  · exact catalogs ▸ sound.catalogs
  · exact rooms ▸ sound.rooms
  · intro later listed target catalog among mine
    rw [catalogs] at among
    rcases only later listed with rfl | old
    · have before := sound.spaces row there (same.target ▸ target) catalog among (mine.trans same.catalogId)
      rw [pending] at before
      rw [still]
      exact before
    · exact sound.spaces later old target catalog among mine
  · intro later listed kind catalog among mine
    rw [catalogs] at among
    rcases only later listed with rfl | old
    · exact sound.based row there (same.target ▸ kind) catalog among (mine.trans same.catalogId)
    · exact sound.based later old kind catalog among mine
  · intro later listed other among mine
    rw [rooms] at among
    rcases only later listed with rfl | old
    · have before := (sound.opened row there other among (same.target ▸ mine)).1
      exact absurd (pending.symm.trans before) (by decide)
    · exact sound.opened later old other among mine
  · intro later listed id mine ended
    rw [rooms]
    rcases only later listed with rfl | old
    · exact absurd (still.symm.trans ended) (by decide)
    · exact sound.published later old id mine ended
  · intro later listed place found
    rw [directory]
    rcases only later listed with rfl | old
    · rw [same.aliasLocalpart]
      exact room place found
    · exact sound.placed later old place found
  · exact directory ▸ sound.names
  · exact directory ▸ sound.places
  · intro other among entry listed equal
    rw [rooms] at among
    rw [directory] at listed
    obtain ⟨holder, there', target, name⟩ := sound.taken other among entry listed equal
    refine ⟨_, store ▸ row_changed world.store row.id update there', ?_, ?_⟩
    · rw [(changed_same row.id updates holder).target]
      exact target
    · rw [(changed_same row.id updates holder).aliasLocalpart]
      exact name

theorem missing_based {store : LobbyStore} (claim : RoomProvisioningClaim)
    (missing : Missing store catalog claim.target) (kind : claim.target.kind = .roomInstance) : catalog.matrixSpaceId.isSome = true := by
  cases target : claim.target with
  | space =>
    rw [target] at kind
    cases kind
  | roomInstance id region =>
    rw [target] at missing
    exact missing.1

theorem places_begun (claim : RoomProvisioningClaim) (sound : PlacesSound world)
    (found : world.store.catalog claim.catalogId = some catalog) (missing : Missing world.store catalog claim.target)
    (unused : ∀ room ∈ world.store.rooms, claim.target.roomInstanceId ≠ some room.id)
    (store : next.store = { world.store with jobs := world.store.jobs ++ [newRow claim] })
    (directory : next.directory = world.directory) : PlacesSound next := by
  have only : ∀ later ∈ next.store.jobs, later = newRow claim ∨ later ∈ world.store.jobs := by
    rw [store]
    intro later listed
    rcases List.mem_append.mp listed with old | new
    · exact .inr old
    · exact .inl (List.mem_singleton.mp new)
  have catalogs : next.store.catalogs = world.store.catalogs := by rw [store]
  have rooms : next.store.rooms = world.store.rooms := by rw [store]
  constructor
  · exact catalogs ▸ sound.catalogs
  · exact rooms ▸ sound.rooms
  · intro later listed target other among mine
    rw [catalogs] at among
    rcases only later listed with rfl | old
    · obtain ⟨there, same⟩ := catalog_found world.store found
      have equal : other = catalog := List.inj_on_of_nodup_map sound.catalogs among there (mine.trans same.symm)
      have space : claim.target = .space := target
      rw [space] at missing
      exact equal ▸ missing
    · exact sound.spaces later old target other among mine
  · intro later listed kind other among mine
    rw [catalogs] at among
    rcases only later listed with rfl | old
    · obtain ⟨there, same⟩ := catalog_found world.store found
      have equal : other = catalog := List.inj_on_of_nodup_map sound.catalogs among there (mine.trans same.symm)
      exact equal ▸ missing_based claim missing kind
    · exact sound.based later old kind other among mine
  · intro later listed room among mine
    rw [rooms] at among
    rcases only later listed with rfl | old
    · exact absurd mine (unused room among)
    · exact sound.opened later old room among mine
  · intro later listed id mine ended
    rw [rooms]
    rcases only later listed with rfl | old
    · cases ended
    · exact sound.published later old id mine ended
  · intro later listed room set
    rw [directory]
    rcases only later listed with rfl | old
    · cases set
    · exact sound.placed later old room set
  · exact directory ▸ sound.names
  · exact directory ▸ sound.places
  · intro room among entry listed equal
    rw [rooms] at among
    rw [directory] at listed
    obtain ⟨holder, there, target, name⟩ := sound.taken room among entry listed equal
    refine ⟨holder, ?_, target, name⟩
    rw [store]
    exact List.mem_append_left _ there

theorem places_named (room : MatrixRoomReference) (sound : PlacesSound world)
    (free : world.resolves aliasLocalpart = none) (fresh : ∀ entry ∈ world.directory, entry.2 ≠ room)
    (apart : ∀ other ∈ world.store.rooms, other.matrixRoomId ≠ room) : PlacesSound (world.opened aliasLocalpart room) := by
  refine ⟨sound.catalogs, sound.rooms, sound.spaces, sound.based, sound.opened, sound.published, ?_, ?_, ?_, ?_⟩
  · exact fun row there place found => List.mem_append_left _ (sound.placed row there place found)
  · have unnamed : aliasLocalpart ∉ world.directory.map Prod.fst := by
      intro listed
      obtain ⟨entry, there, same⟩ := List.mem_map.mp listed
      have nobody := List.find?_eq_none.mp (Option.map_eq_none_iff.mp free) entry there
      exact nobody (decide_eq_true same)
    rw [LobbyWorld.opened, List.map_append, List.nodup_append]
    refine ⟨sound.names, List.nodup_singleton _, fun name listed other single same => unnamed ?_⟩
    have equal : name = aliasLocalpart := same.trans (List.mem_singleton.mp single)
    exact equal ▸ listed
  · rw [LobbyWorld.opened, List.map_append, List.nodup_append]
    refine ⟨sound.places, List.nodup_singleton _, fun place listed other single same => ?_⟩
    obtain ⟨entry, there, rfl⟩ := List.mem_map.mp listed
    exact fresh entry there (same.trans (List.mem_singleton.mp single))
  · intro other among entry listed equal
    rcases List.mem_append.mp listed with old | new
    · exact sound.taken other among entry old equal
    · rw [List.mem_singleton.mp new] at equal
      exact absurd equal (apart other among)

theorem completed_among {store : LobbyStore} {later : JobRow} (jobs : JobsSound world.store) (there : row ∈ world.store.jobs)
    (same : store.jobs = world.store.jobs) (listed : later ∈ (store.changeJob row.id JobRow.completed).jobs) :
    later = row.completed ∨ (later ∈ world.store.jobs ∧ later.id ≠ row.id) := by
  obtain ⟨other, there', ⟨named, rfl⟩ | ⟨apart, rfl⟩⟩ := changed_row _ listed
  · exact .inl (congrArg _ (same_row world.store jobs (same ▸ there') there named))
  · exact .inr ⟨same ▸ there', apart⟩

theorem places_spaced {space : MatrixRoomReference} (jobs : JobsSound world.store)
    (sound : PlacesSound world) (there : row ∈ world.store.jobs) (target : row.target = .space) (place : row.matrixRoomId = some space)
    (mine : row.catalogId = catalog.id) (store : next.store = (world.store.withSpace catalog.id space).changeJob row.id JobRow.completed)
    (directory : next.directory = world.directory) : PlacesSound next := by
  have only : ∀ later ∈ next.store.jobs, _ := fun later listed =>
    completed_among world jobs there rfl (store ▸ listed)
  have rooms : next.store.rooms = world.store.rooms := by rw [store]; rfl
  have among : ∀ later ∈ next.store.catalogs, ∃ before ∈ world.store.catalogs, later.id = before.id ∧
      later.matrixSpaceId = if before.id = catalog.id then some space else before.matrixSpaceId := by
    rw [store]
    intro later listed
    obtain ⟨before, there', rfl⟩ := List.mem_map.mp listed
    refine ⟨before, there', ?_⟩
    split
    · exact ⟨rfl, rfl⟩
    · exact ⟨rfl, rfl⟩
  constructor
  · have ids : next.store.catalogs.map RoomCatalog.id = world.store.catalogs.map RoomCatalog.id := by
      rw [store]
      simp only [LobbyStore.changeJob, LobbyStore.withSpace, List.map_map]
      refine List.map_congr_left fun other _ => ?_
      simp only [Function.comp]
      split <;> rfl
    exact ids ▸ sound.catalogs
  · exact rooms ▸ sound.rooms
  · intro later listed isSpace other listed' same
    obtain ⟨before, there', id, spaced⟩ := among other listed'
    rcases only later listed with rfl | ⟨old, apart⟩
    · rw [spaced, if_pos (id.symm.trans (same.trans mine))]
      exact place.symm
    · have elsewhere : before.id ≠ catalog.id := by
        intro equal
        refine apart (jobs.once row there later old ⟨?_, ?_, ?_⟩ (.inr (congrArg _ target))).symm
        · rw [mine, ← equal, ← id, same]
        · rw [target, isSpace]
        · rw [target]
          exact nofun
      rw [spaced, if_neg elsewhere]
      exact sound.spaces later old isSpace before there' (id.symm.trans same)
  · intro later listed kind other listed' same
    obtain ⟨before, there', id, spaced⟩ := among other listed'
    rw [spaced]
    split
    · rfl
    · rcases only later listed with rfl | ⟨old, _⟩
      · have isSpace : row.target.kind = .roomInstance := kind
        rw [target] at isSpace
        cases isSpace
      · exact sound.based later old kind before there' (id.symm.trans same)
  · intro later listed room listed' holds
    rw [rooms] at listed'
    rcases only later listed with rfl | ⟨old, _⟩
    · have isRoom : row.target.roomInstanceId = some room.id := holds
      rw [target] at isRoom
      cases isRoom
    · exact sound.opened later old room listed' holds
  · intro later listed id holds ended
    rw [rooms]
    rcases only later listed with rfl | ⟨old, _⟩
    · have isRoom : row.target.roomInstanceId = some id := holds
      rw [target] at isRoom
      cases isRoom
    · exact sound.published later old id holds ended
  · intro later listed room found
    rw [directory]
    rcases only later listed with rfl | ⟨old, _⟩
    · exact sound.placed row there room found
    · exact sound.placed later old room found
  · exact directory ▸ sound.names
  · exact directory ▸ sound.places
  · intro room listed entry among' equal
    rw [rooms] at listed
    rw [directory] at among'
    obtain ⟨holder, there', isRoom, name⟩ := sound.taken room listed entry among' equal
    refine ⟨_, store ▸ row_changed (world.store.withSpace catalog.id space) row.id JobRow.completed there', ?_, ?_⟩
    · exact (changed_same row.id completed_updates holder).target ▸ isRoom
    · exact (changed_same row.id completed_updates holder).aliasLocalpart ▸ name

theorem places_roomed (room : RoomInstance) (jobs : JobsSound world.store) (sound : PlacesSound world)
    (there : row ∈ world.store.jobs) (target : row.target.roomInstanceId = some room.id) (place : row.matrixRoomId = some room.matrixRoomId)
    (apart : ∀ other ∈ world.store.rooms, other.id ≠ room.id)
    (store : next.store = (world.store.withRoom room).changeJob row.id JobRow.completed)
    (directory : next.directory = world.directory) : PlacesSound next := by
  have only : ∀ later ∈ next.store.jobs, _ := fun later listed =>
    completed_among world jobs there rfl (store ▸ listed)
  have catalogs : next.store.catalogs = world.store.catalogs := by rw [store]; rfl
  have rooms : next.store.rooms = world.store.rooms ++ [room] := by rw [store]; rfl
  have notSpace : row.target ≠ .space := by
    intro isSpace
    rw [isSpace] at target
    cases target
  constructor
  · exact catalogs ▸ sound.catalogs
  · rw [rooms, List.map_append, List.nodup_append]
    refine ⟨sound.rooms, List.nodup_singleton _, fun id listed other single => ?_⟩
    obtain ⟨before, there', rfl⟩ := List.mem_map.mp listed
    rw [List.mem_singleton.mp single]
    exact apart before there'
  · intro later listed isSpace catalog among mine
    rw [catalogs] at among
    rcases only later listed with rfl | ⟨old, _⟩
    · exact absurd isSpace notSpace
    · exact sound.spaces later old isSpace catalog among mine
  · intro later listed kind catalog among mine
    rw [catalogs] at among
    rcases only later listed with rfl | ⟨old, _⟩
    · exact sound.based row there kind catalog among mine
    · exact sound.based later old kind catalog among mine
  · intro later listed other among holds
    rw [rooms] at among
    rcases List.mem_append.mp among with before | new
    · rcases only later listed with rfl | ⟨old, _⟩
      · have same : some room.id = some other.id := target.symm.trans holds
        exact absurd (Option.some.inj same).symm (apart other before)
      · exact sound.opened later old other before holds
    · rw [List.mem_singleton.mp new] at holds ⊢
      rcases only later listed with rfl | ⟨old, differs⟩
      · exact ⟨rfl, place⟩
      · exact absurd (jobs.rooms row there later old (by rw [target]; rfl) (target.trans holds.symm)).symm differs
  · intro later listed id holds ended
    rw [rooms]
    rcases only later listed with rfl | ⟨old, _⟩
    · have same : some room.id = some id := target.symm.trans holds
      exact ⟨room, List.mem_concat_self, Option.some.inj same⟩
    · obtain ⟨other, there', same⟩ := sound.published later old id holds ended
      exact ⟨other, List.mem_append_left _ there', same⟩
  · intro later listed other found
    rw [directory]
    rcases only later listed with rfl | ⟨old, _⟩
    · exact sound.placed row there other found
    · exact sound.placed later old other found
  · exact directory ▸ sound.names
  · exact directory ▸ sound.places
  · intro other listed entry among equal
    rw [rooms] at listed
    rw [directory] at among
    rcases List.mem_append.mp listed with before | new
    · obtain ⟨holder, there', isRoom, name⟩ := sound.taken other before entry among equal
      refine ⟨_, store ▸ row_changed (world.store.withRoom room) row.id JobRow.completed there', ?_, ?_⟩
      · exact (changed_same row.id completed_updates holder).target ▸ isRoom
      · exact (changed_same row.id completed_updates holder).aliasLocalpart ▸ name
    · rw [List.mem_singleton.mp new] at equal ⊢
      refine ⟨_, store ▸ row_changed (world.store.withRoom room) row.id JobRow.completed there, ?_, ?_⟩
      · exact (changed_same row.id completed_updates row).target ▸ target
      · rw [(changed_same row.id completed_updates row).aliasLocalpart]
        have entry' := sound.placed row there room.matrixRoomId place
        exact congrArg Prod.fst (List.inj_on_of_nodup_map sound.places entry' among equal)

theorem places_elsewhere (sound : PlacesSound world) (moved : Elsewhere world next) : PlacesSound next := by
  have rooms : ∀ room ∈ next.store.rooms, ∃ before ∈ world.store.rooms, before.id = room.id ∧ before.matrixRoomId = room.matrixRoomId := by
    intro room among
    have listed := moved.rooms ▸ List.mem_map.mpr ⟨room, among, rfl⟩
    obtain ⟨before, there, same⟩ := List.mem_map.mp listed
    exact ⟨before, there, (Prod.mk.inj same).1, (Prod.mk.inj same).2⟩
  constructor
  · have ids := congrArg (List.map Prod.fst) moved.spaces
    simp only [List.map_map] at ids
    exact ids ▸ sound.catalogs
  · have ids := congrArg (List.map Prod.fst) moved.rooms
    simp only [List.map_map] at ids
    exact ids ▸ sound.rooms
  · intro row there target catalog among mine
    rw [moved.jobs] at there
    have listed := moved.spaces ▸ List.mem_map.mpr ⟨catalog, among, rfl⟩
    obtain ⟨before, there', same⟩ := List.mem_map.mp listed
    rw [← (Prod.mk.inj same).2]
    exact sound.spaces row there target before there' ((Prod.mk.inj same).1.trans mine)
  · intro row there kind catalog among mine
    rw [moved.jobs] at there
    have listed := moved.spaces ▸ List.mem_map.mpr ⟨catalog, among, rfl⟩
    obtain ⟨before, there', same⟩ := List.mem_map.mp listed
    rw [← (Prod.mk.inj same).2]
    exact sound.based row there kind before there' ((Prod.mk.inj same).1.trans mine)
  · intro row there room among mine
    rw [moved.jobs] at there
    obtain ⟨before, there', id, place⟩ := rooms room among
    rw [← place]
    exact sound.opened row there before there' (id ▸ mine)
  · intro row there id mine ended
    rw [moved.jobs] at there
    obtain ⟨room, among, same⟩ := sound.published row there id mine ended
    have listed := moved.rooms.symm ▸ List.mem_map.mpr ⟨room, among, rfl⟩
    obtain ⟨after, there', equal⟩ := List.mem_map.mp listed
    exact ⟨after, there', (Prod.mk.inj equal).1.trans same⟩
  · rw [moved.jobs, moved.directory]
    exact sound.placed
  · exact moved.directory ▸ sound.names
  · exact moved.directory ▸ sound.places
  · intro room among entry listed equal
    obtain ⟨before, there, id, place⟩ := rooms room among
    rw [moved.directory] at listed
    obtain ⟨row, there', target, name⟩ := sound.taken before there entry listed (place.trans equal)
    exact ⟨row, moved.jobs ▸ there', id ▸ target, name⟩

end

end AgentRoom.Lobby
