import AgentRoom.Library.Telling
import AgentRoom.Lobby.Jobs
import Mathlib.Data.List.Induction

namespace AgentRoom.Lobby

open Library

namespace LobbyEvent

def job : LobbyEvent → RoomProvisioningJob
  | .handed job | .checkpointed job _ _ | .completed job _ _ | .released job _ => job

def handedJob : LobbyEvent → Option RoomProvisioningJob
  | .handed job => some job
  | _ => none

def acted : LobbyEvent → Option (RoomProvisioningJob × UtcMillis)
  | .handed _ => none
  | .checkpointed job _ now | .completed job _ now | .released job now => some (job, now)

def completes (id : RoomProvisioningJobId) : LobbyEvent → Bool
  | .completed job _ _ => decide (job.jobId = id)
  | _ => false

def givesUp : LobbyEvent → Bool
  | .completed _ _ _ | .released _ _ => true
  | _ => false

end LobbyEvent

def holds (id : RoomProvisioningJobId) (held : Option RoomProvisioningJob) (event : LobbyEvent) : Option RoomProvisioningJob :=
  if event.job.jobId = id then
    match event with
    | .handed job => some job
    | .checkpointed _ _ _ => held
    | .completed _ _ _ | .released _ _ => none
  else held

def holder (log : List LobbyEvent) (id : RoomProvisioningJobId) : Option RoomProvisioningJob := log.foldl (holds id) none

def leases (log : List LobbyEvent) : List RoomProvisioningLeaseId := (log.filterMap LobbyEvent.handedJob).map RoomProvisioningJob.leaseId

-- Only the holder of a job does something with it, and before the lease runs out.
def Exclusive (log : List LobbyEvent) : Prop :=
  EachUpTo LobbyEvent.acted (fun before act => holder before act.1.jobId = some act.1 ∧ act.2 < act.1.leaseExpiresAt) log

def leaseOf (job : RoomProvisioningJob) : RoomProvisioningLease := ⟨job.leaseId, job.leaseExpiresAt⟩

structure Describes (row : JobRow) (job : RoomProvisioningJob) : Prop where
  id : row.id = job.jobId
  catalogId : row.catalogId = job.catalog.id
  target : row.target = job.target
  aliasLocalpart : row.aliasLocalpart = job.aliasLocalpart
  room : ∀ room, job.matrixRoomId = some room → row.matrixRoomId = some room

structure Provisioned (world : LobbyWorld) : Prop where
  jobs : JobsSound world.store
  places : PlacesSound world
  told : ∀ event ∈ world.log, ∃ row ∈ world.store.jobs, Describes row event.job
  leases : (leases world.log).Nodup
  current : ∀ row ∈ world.store.jobs, (holder world.log row.id).map leaseOf = row.lease
  exclusive : Exclusive world.log
  counted : ∀ row ∈ world.store.jobs, world.log.countP (LobbyEvent.completes row.id) = if row.pending then 0 else 1

structure Onward (world next : LobbyWorld) : Prop where
  rows : ∀ row ∈ world.store.jobs, ∃ later ∈ next.store.jobs, KeptRow row later
  log : world.log <+: next.log
  directory : ∀ entry ∈ world.directory, entry ∈ next.directory

theorem onward_refl (world : LobbyWorld) : Onward world world :=
  ⟨fun row there => ⟨row, there, kept_row_refl⟩, List.prefix_rfl, fun _ there => there⟩

theorem onward_trans (first second third : LobbyWorld) (early : Onward first second) (late : Onward second third) : Onward first third where
  rows := by
    intro row there
    obtain ⟨middle, there', kept⟩ := early.rows row there
    obtain ⟨later, there'', kept'⟩ := late.rows middle there'
    exact ⟨later, there'', kept_row_trans kept kept'⟩
  log := early.log.trans late.log
  directory := fun entry there => late.directory entry (early.directory entry there)

section

variable {log : List LobbyEvent} {event : LobbyEvent}

theorem holder_snoc (id : RoomProvisioningJobId) : holder (log ++ [event]) id = holds id (holder log id) event := by
  simp [holder]

theorem holder_handed {id : RoomProvisioningJobId} (held : holder log id = some job) : .handed job ∈ log ∧ job.jobId = id := by
  induction log using List.reverseRecOn with
  | nil => cases held
  | append_singleton log event ih =>
    rw [holder_snoc] at held
    unfold holds at held
    by_cases mine : event.job.jobId = id
    · rw [if_pos mine] at held
      cases event with
      | handed other =>
        cases held
        exact ⟨List.mem_concat_self, mine⟩
      | checkpointed other room now => exact ⟨List.mem_append_left _ (ih held).1, (ih held).2⟩
      | completed other room now => cases held
      | released other now => cases held
    · rw [if_neg mine] at held
      exact ⟨List.mem_append_left _ (ih held).1, (ih held).2⟩

theorem handed_lease (handed : .handed job ∈ log) : job ∈ log.filterMap LobbyEvent.handedJob :=
  List.mem_filterMap.mpr ⟨_, handed, rfl⟩

theorem handed_once (nodup : (leases log).Nodup) (handed : .handed job ∈ log)
    (handed' : .handed other ∈ log) (same : job.leaseId = other.leaseId) : job = other :=
  List.inj_on_of_nodup_map nodup (handed_lease handed) (handed_lease handed') same

end

section

variable {world next : LobbyWorld} {row : JobRow} {job : RoomProvisioningJob} {now : UtcMillis}

theorem held_holder (sound : Provisioned world) (held : Held world.store job now row) (handed : .handed job ∈ world.log) :
    row ∈ world.store.jobs ∧ row.id = job.jobId ∧ Describes row job ∧ holder world.log job.jobId = some job ∧
      now < job.leaseExpiresAt := by
  obtain ⟨there, same⟩ := job_found world.store held.found
  obtain ⟨lease, leased, mine, within⟩ := held.lease
  obtain ⟨other, there', describes⟩ := sound.told _ handed
  have equal := same_row world.store sound.jobs there' there (describes.id.trans same.symm)
  have current := sound.current row there
  rw [leased, same] at current
  obtain ⟨holding, held', leaseIs⟩ := Option.map_eq_some_iff.mp current
  have mine' : holding.leaseId = job.leaseId := (congrArg RoomProvisioningLease.id leaseIs).trans mine
  have whole := handed_once sound.leases (holder_handed held').1 handed mine'
  subst whole
  refine ⟨there, same, equal ▸ describes, held', ?_⟩
  have expires : holding.leaseExpiresAt = lease.expiresAt := congrArg RoomProvisioningLease.expiresAt leaseIs
  exact expires ▸ within

theorem acted_job (event : LobbyEvent) (acted : event.acted = some (job, now)) : event.job = job ∧ event.handedJob = none := by
  cases event with
  | handed other => cases acted
  | checkpointed | completed | released =>
    cases acted
    exact ⟨rfl, rfl⟩

theorem acted_holds (event : LobbyEvent) (acted : event.acted = some (job, now)) (id : RoomProvisioningJobId)
    (held : Option RoomProvisioningJob) : holds id held event = if job.jobId = id ∧ event.givesUp = true then none else held := by
  unfold holds
  cases event with
  | handed other => cases acted
  | checkpointed other room at' =>
    cases acted
    simp [LobbyEvent.givesUp]
  | completed other room at' =>
    cases acted
    by_cases mine : job.jobId = id <;> simp [LobbyEvent.givesUp, LobbyEvent.job, mine]
  | released other at' =>
    cases acted
    by_cases mine : job.jobId = id <;> simp [LobbyEvent.givesUp, LobbyEvent.job, mine]

theorem acted_completes (event : LobbyEvent) (acted : event.acted = some (job, now)) (id : RoomProvisioningJobId)
    (apart : job.jobId ≠ id) : event.completes id = false := by
  cases event with
  | handed other => cases acted
  | checkpointed other room at' => rfl
  | completed other room at' =>
    cases acted
    exact decide_eq_false apart
  | released other at' => rfl

theorem provisioned_acted (event : LobbyEvent) (updates : Updates update) (sound : Provisioned world)
    (held : Held world.store job now row) (handed : .handed job ∈ world.log) (acted : event.acted = some (job, now))
    (jobs : JobsSound next.store) (places : PlacesSound next) (rows : next.store.jobs = (world.store.changeJob row.id update).jobs)
    (log : next.log = world.log ++ [event]) (room : ∀ room, row.matrixRoomId = some room → (update row).matrixRoomId = some room)
    (lease : (update row).lease = if event.givesUp = true then none else row.lease)
    (pending : (update row).pending = !event.completes row.id) : Provisioned next ∧
      ∀ row ∈ world.store.jobs, ∃ later ∈ next.store.jobs, KeptRow row later := by
  obtain ⟨there, same, describes, holding, within⟩ := held_holder sound held handed
  obtain ⟨about, nothing⟩ := acted_job event acted
  have only : ∀ later ∈ next.store.jobs, later = update row ∨ (later ∈ world.store.jobs ∧ later.id ≠ row.id) := by
    rw [rows]
    intro later listed
    obtain ⟨other, there', ⟨mine, rfl⟩ | ⟨apart, rfl⟩⟩ := changed_row world.store listed
    · exact .inl (congrArg update (same_row world.store sound.jobs there' there mine))
    · exact .inr ⟨there', apart⟩
  have kept : ∀ before ∈ world.store.jobs, ∃ later ∈ next.store.jobs, KeptRow before later := by
    rw [rows]
    intro before listed
    refine ⟨_, row_changed world.store row.id update listed, changed_same row.id updates before, ?_, ?_⟩
    · intro place found
      split
      · have mine := same_row world.store sound.jobs listed there ‹_›
        rw [mine] at found ⊢
        exact room place found
      · exact found
    · intro ended
      split
      · have mine := same_row world.store sound.jobs listed there ‹_›
        rw [mine, held.pending] at ended
        cases ended
      · rfl
  refine ⟨⟨jobs, places, ?_, ?_, ?_, ?_, ?_⟩, kept⟩
  · have described : ∀ task, (∃ before ∈ world.store.jobs, Describes before task) → ∃ later ∈ next.store.jobs, Describes later task := by
      rintro task ⟨before, listed, tells⟩
      obtain ⟨later, listed', keeps⟩ := kept before listed
      exact ⟨later, listed', keeps.same.id.trans tells.id, keeps.same.catalogId.trans tells.catalogId,
        keeps.same.target.trans tells.target, keeps.same.aliasLocalpart.trans tells.aliasLocalpart,
        fun place found => keeps.room place (tells.room place found)⟩
    rw [log]
    intro other listed
    rcases List.mem_append.mp listed with old | new
    · exact described _ (sound.told other old)
    · rw [List.mem_singleton.mp new, about]
      exact described job ⟨row, there, describes⟩
  · have unchanged : leases next.log = leases world.log := by
      rw [log, leases, List.filterMap_append]
      simp [nothing, leases]
    exact unchanged ▸ sound.leases
  · intro later listed
    rw [log, holder_snoc, acted_holds event acted]
    rcases only later listed with rfl | ⟨old, apart⟩
    · rw [(updates.same row).id, lease]
      have current := sound.current row there
      by_cases gone : event.givesUp = true
      · rw [if_pos ⟨same.symm, gone⟩, if_pos gone]
        rfl
      · rw [if_neg fun both => gone both.2, if_neg gone]
        exact current
    · rw [if_neg fun both => apart (both.1.symm.trans same.symm)]
      exact sound.current later old
  · rw [log]
    refine each_up_to_snoc LobbyEvent.acted sound.exclusive fun act acts => ?_
    cases acted.symm.trans acts
    exact ⟨holding, within⟩
  · intro later listed
    rw [log, List.countP_append]
    rcases only later listed with rfl | ⟨old, apart⟩
    · have before := sound.counted row there
      rw [held.pending] at before
      rw [(updates.same row).id, before, pending]
      cases finishes : event.completes row.id <;> simp [finishes]
    · have other := acted_completes event acted later.id fun mine => apart (mine.symm.trans same.symm)
      simp [other, sound.counted later old]

end

section

variable (world next : LobbyWorld) (claim : RoomProvisioningClaim) (job : RoomProvisioningJob)

theorem unused_lease (unused : world.unused claim = true) : claim.leaseId ∉ leases world.log := by
  intro listed
  obtain ⟨job, handed, same⟩ := List.mem_map.mp listed
  obtain ⟨event, there, mine⟩ := List.mem_filterMap.mp handed
  have every := List.all_eq_true.mp ((Bool.and_eq_true ..).mp unused).1 event there
  cases event with
  | handed other =>
    cases mine
    exact absurd same (of_decide_eq_true every)
  | checkpointed | completed | released => cases mine

theorem unused_room (unused : world.unused claim = true) : ∀ room ∈ world.store.rooms, claim.target.roomInstanceId ≠ some room.id :=
  fun room there => of_decide_eq_true (List.all_eq_true.mp ((Bool.and_eq_true ..).mp unused).2 room there)

theorem provisioned_handed (row : JobRow) (sound : Provisioned world) (jobs : JobsSound next.store) (places : PlacesSound next)
    (fresh : job.leaseId ∉ leases world.log) (there : row ∈ next.store.jobs) (describes : Describes row job) (pending : row.pending = true)
    (leased : row.lease = some (leaseOf job)) (kept : ∀ before ∈ world.store.jobs, ∃ later ∈ next.store.jobs, KeptRow before later)
    (others : ∀ later ∈ next.store.jobs, later.id = row.id ∨ later ∈ world.store.jobs)
    (before : world.log.countP (LobbyEvent.completes row.id) = 0) (log : next.log = world.log ++ [.handed job]) : Provisioned next := by
  have only : ∀ later ∈ next.store.jobs, later = row ∨ (later ∈ world.store.jobs ∧ later.id ≠ row.id) := by
    intro later listed
    by_cases mine : later.id = row.id
    · exact .inl (same_row next.store jobs listed there mine)
    · exact .inr ⟨(others later listed).resolve_left mine, mine⟩
  refine ⟨jobs, places, ?_, ?_, ?_, ?_, ?_⟩
  · rw [log]
    intro event listed
    rcases List.mem_append.mp listed with old | new
    · obtain ⟨row', listed', tells⟩ := sound.told event old
      obtain ⟨later, listed'', keeps⟩ := kept row' listed'
      exact ⟨later, listed'', keeps.same.id.trans tells.id, keeps.same.catalogId.trans tells.catalogId,
        keeps.same.target.trans tells.target, keeps.same.aliasLocalpart.trans tells.aliasLocalpart,
        fun place found => keeps.room place (tells.room place found)⟩
    · rw [List.mem_singleton.mp new]
      exact ⟨row, there, describes⟩
  · have more : leases next.log = leases world.log ++ [job.leaseId] := by
      rw [log, leases, List.filterMap_append, List.map_append]
      rfl
    rw [more, List.nodup_append]
    refine ⟨sound.leases, List.nodup_singleton _, fun lease listed other single same => fresh ?_⟩
    rw [← List.mem_singleton.mp single, ← same]
    exact listed
  · intro later listed
    rw [log, holder_snoc]
    rcases only later listed with rfl | ⟨old, apart⟩
    · have mine : (LobbyEvent.handed job).job.jobId = later.id := describes.id.symm
      simp [holds, if_pos mine, leased]
    · have elsewhere : (LobbyEvent.handed job).job.jobId ≠ later.id := fun mine => apart (mine.symm.trans describes.id.symm)
      simp only [holds, if_neg elsewhere]
      exact sound.current later old
  · rw [log]
    exact each_up_to_snoc LobbyEvent.acted sound.exclusive fun _ none => by cases none
  · intro later listed
    rw [log, List.countP_append]
    rcases only later listed with rfl | ⟨old, apart⟩
    · simp [before, pending, LobbyEvent.completes]
    · simp [sound.counted later old, LobbyEvent.completes]

theorem never_completed {id : RoomProvisioningJobId} (sound : Provisioned world) (apart : ∀ row ∈ world.store.jobs, row.id ≠ id) :
    world.log.countP (LobbyEvent.completes id) = 0 := by
  refine List.countP_eq_zero.mpr fun event listed finishes => ?_
  obtain ⟨row, there, describes⟩ := sound.told event listed
  cases event with
  | completed job room now => exact apart row there (describes.id.trans (of_decide_eq_true finishes))
  | handed | checkpointed | released => cases finishes

theorem pending_fits {row : JobRow} (found : world.store.lockPendingJob claim = some row) :
    row ∈ world.store.jobs ∧ row.catalogId = claim.catalogId ∧ row.target.kind = claim.target.kind ∧
      (claim.target.kind = .roomInstance → row.target.region = claim.target.region) ∧ row.pending = true := by
  obtain ⟨fits, pending⟩ := (Bool.and_eq_true ..).mp (@List.find?_some _ _ row world.store.jobs found)
  obtain ⟨place, kind, region⟩ := of_decide_eq_true fits
  exact ⟨List.mem_of_find?_eq_some found, place, kind, region, pending⟩

theorem nothing_pending (sound : Provisioned world) (found : world.store.catalog claim.catalogId = some catalog)
    (missing : Missing world.store catalog claim.target) (none' : world.store.lockPendingJob claim = none) :
    ∀ row ∈ world.store.jobs, SameWork row (newRow claim) → row.pending = false ∧ row.target.kind ≠ .space := by
  rintro row there ⟨place, kind, region⟩
  have ended : row.pending = false := by
    cases pending : row.pending with
    | false => rfl
    | true =>
      have nobody := List.find?_eq_none.mp none' row there
      refine absurd ((Bool.and_eq_true ..).mpr ⟨decide_eq_true ⟨place, kind, fun same => ?_⟩, pending⟩) nobody
      exact region (kind.trans same)
  refine ⟨ended, fun isSpace => ?_⟩
  obtain ⟨listed, same⟩ := catalog_found world.store found
  have target : row.target = .space := by
    cases target : row.target with
    | space => rfl
    | roomInstance id region =>
      rw [target] at isSpace
      cases isSpace
  have spaced := sound.places.spaces row there target catalog listed (same.trans place.symm)
  rw [ended] at spaced
  have asked : claim.target = .space := by
    cases asked : claim.target with
    | space => rfl
    | roomInstance id region =>
      have same' : row.target.kind = claim.target.kind := kind
      rw [isSpace, asked] at same'
      cases same'
  rw [asked] at missing
  have nowhere : catalog.matrixSpaceId = none := missing
  have somewhere := (sound.jobs.done row there ended).2
  rw [← spaced.trans (if_neg (by decide)), nowhere] at somewhere
  cases somewhere

theorem provisioned_claimed {outcome : RoomProvisioningClaimOutcome} (sound : Provisioned world)
    (claimed : world.store.claimRoomProvisioning claim = .ok (outcome, store)) (unused : world.unused claim = true) :
    Provisioned (world.wrote store (handedOut outcome)) ∧
      ∀ row ∈ world.store.jobs, ∃ later ∈ store.jobs, KeptRow row later := by
  obtain ⟨catalog, found, _, _, comes⟩ := claim_claims world.store store claim claimed
  have place := (catalog_found world.store found).2
  have same : ∀ row ∈ world.store.jobs, ∃ later ∈ world.store.jobs, KeptRow row later := fun row there => ⟨row, there, kept_row_refl⟩
  have still : ∀ log, log = world.log ++ [] → Provisioned { world with log } := by
    intro log unchanged
    rw [unchanged, List.append_nil]
    exact sound
  cases comes with
  | spaceReady target space => exact ⟨still _ rfl, same⟩
  | instanceReady id region room target there ready => exact ⟨still _ rfl, same⟩
  | busy row lease missing pending leased held => exact ⟨still _ rfl, same⟩
  | takenOver row missing pending lapsed created =>
    obtain ⟨there, mine, kind, region, open'⟩ := pending_fits world claim pending
    have updates := leased_updates (some ⟨claim.leaseId, claim.expiresAt⟩)
    have jobs := jobs_changed world.store row.id updates sound.jobs fun other listed sameId ended => by
      rw [same_row world.store sound.jobs listed there sameId] at ended
      exact absurd (open'.symm.trans ended) (by decide)
    have kept : ∀ before ∈ world.store.jobs, ∃ later ∈ (world.store.changeJob row.id (·.leased (some ⟨claim.leaseId,
        claim.expiresAt⟩))).jobs, KeptRow before later := by
      intro before listed
      refine ⟨_, row_changed world.store row.id _ listed, changed_same row.id updates before, ?_, ?_⟩
      · intro room set
        split <;> exact set
      · intro ended
        split
        · have equal := same_row world.store sound.jobs listed there ‹_›
          rw [equal, open'] at ended
          cases ended
        · rfl
    have places := places_changed world (world.wrote _ [.handed (decodeJob claim row catalog)]) updates sound.jobs sound.places
      there open' open' (fun room set => sound.places.placed row there room set) rfl rfl
    refine ⟨?_, kept⟩
    refine provisioned_handed world _ (decodeJob claim row catalog) (row.leased (some ⟨claim.leaseId, claim.expiresAt⟩)) sound jobs places
      (unused_lease world claim unused) ?_ ⟨rfl, mine.trans place.symm, rfl, rfl, fun _ set => set⟩ open' rfl kept ?_ ?_ rfl
    · have moved := row_changed world.store row.id (·.leased (some ⟨claim.leaseId, claim.expiresAt⟩)) there
      rwa [if_pos rfl] at moved
    · intro later listed
      obtain ⟨other, there', ⟨sameId, rfl⟩ | ⟨_, rfl⟩⟩ := changed_row world.store listed
      · exact .inl sameId
      · exact .inr there'
    · have counted := sound.counted row there
      rw [open'] at counted
      exact counted
  | begun missing nothing apart =>
    have jobs := jobs_begun world.store claim sound.jobs apart (nothing_pending world claim sound found missing nothing)
    have places := places_begun world (world.wrote _ [.handed (decodeJob claim (newRow claim) catalog)]) claim sound.places found
      missing (unused_room world claim unused) rfl rfl
    have kept : ∀ before ∈ world.store.jobs, ∃ later ∈ world.store.jobs ++ [newRow claim], KeptRow before later :=
      fun before listed => ⟨before, List.mem_append_left _ listed, kept_row_refl⟩
    refine ⟨?_, kept⟩
    refine provisioned_handed world _ (decodeJob claim (newRow claim) catalog) (newRow claim) sound jobs places
      (unused_lease world claim unused) List.mem_concat_self ⟨rfl, place.symm, rfl, rfl, nofun⟩ rfl rfl
      kept ?_ ?_ rfl
    · intro later listed
      rcases List.mem_append.mp listed with old | new
      · exact .inr old
      · exact .inl (congrArg JobRow.id (List.mem_singleton.mp new))
    · exact never_completed world sound fun row there => (clash_apart (apart row there)).1

end

section

variable (world next : LobbyWorld)

-- A worker acts on a job it was handed, and records a room its alias stands for.
def MayCall : LobbyCall → LobbyWorld → Prop
  | .checkpointMatrixRoom job room _, world => .handed job ∈ world.log ∧ (job.aliasLocalpart, room) ∈ world.directory
  | .completeSpace job _ _, world | .completeInstance job _ _, world | .releaseProvisioning job _ _, world => .handed job ∈ world.log
  | .reserve _, _ | .transition _ _ _ _, _ => False
  | _, _ => True

theorem provisioned_beside (sound : Provisioned world) (places : PlacesSound next) (jobs : next.store.jobs = world.store.jobs)
    (log : next.log = world.log) (directory : ∀ entry ∈ world.directory, entry ∈ next.directory) :
    Provisioned next ∧ Onward world next := by
  have sound' : JobsSound next.store := by
    constructor
    · exact jobs ▸ sound.jobs.keys
    · exact jobs ▸ sound.jobs.once
    · exact jobs ▸ sound.jobs.rooms
    · exact jobs ▸ sound.jobs.aliases
    · exact jobs ▸ sound.jobs.done
  refine ⟨⟨sound', places, ?_, ?_, ?_, ?_, ?_⟩, ?_, ?_, directory⟩
  · rw [log, jobs]
    exact sound.told
  · rw [log]
    exact sound.leases
  · rw [log, jobs]
    exact sound.current
  · rw [log]
    exact sound.exclusive
  · rw [log, jobs]
    exact sound.counted
  · rw [jobs]
    exact fun row there => ⟨row, there, kept_row_refl⟩
  · exact ⟨[], (List.append_nil _).trans log.symm⟩

theorem transacted (result : Except RepositoryErrorKind (α × LobbyStore)) (events : α → List LobbyEvent)
    (answer : Except RepositoryErrorKind α) (sound : Provisioned world) (transacts : Transacts world result events answer next)
    (done : ∀ value store, result = .ok (value, store) → Provisioned (world.wrote store (events value)) ∧
      ∀ row ∈ world.store.jobs, ∃ later ∈ store.jobs, KeptRow row later) : Provisioned next ∧ Onward world next := by
  rcases transacts with ⟨value, store, made, rfl, _⟩ | ⟨rfl, _⟩
  · obtain ⟨sound', kept⟩ := done value store made
    exact ⟨sound', kept, List.prefix_append .., fun _ there => there⟩
  · exact ⟨sound, onward_refl _⟩

theorem provisioned_checkpointed (sound : Provisioned world) (handed : .handed job ∈ world.log)
    (named : (job.aliasLocalpart, room) ∈ world.directory) (done : world.store.checkpointMatrixRoom job room now = .ok store) :
    Provisioned (world.wrote store [.checkpointed job room now]) ∧ ∀ row ∈ world.store.jobs, ∃ later ∈ store.jobs, KeptRow row later := by
  obtain ⟨row, held, free, rfl⟩ := checkpoint_ok world.store store job now done
  obtain ⟨there, mine, describes, _⟩ := held_holder sound held handed
  have updates := checkpointed_updates room
  have jobs := jobs_changed world.store row.id updates sound.jobs fun other listed same ended => by
    rw [same_row world.store sound.jobs listed there same] at ended
    exact absurd (held.pending.symm.trans ended) (by decide)
  have places := places_changed world (world.wrote _ [.checkpointed job room now]) updates sound.jobs sound.places there held.pending
    held.pending (fun place set => by
      cases set
      exact describes.aliasLocalpart ▸ named) rfl rfl
  refine provisioned_acted (.checkpointed job room now) updates sound held handed rfl jobs places rfl rfl ?_ rfl
    held.pending
  intro place set
  rcases free with none' | some'
  · cases none'.symm.trans set
  · exact some'.symm.trans set

theorem provisioned_released (sound : Provisioned world)
    (handed : .handed job ∈ world.log) (done : world.store.releaseProvisioning job now = .ok store) :
    Provisioned (world.wrote store [.released job now]) ∧ ∀ row ∈ world.store.jobs, ∃ later ∈ store.jobs, KeptRow row later := by
  obtain ⟨row, held, rfl⟩ := release_ok world.store store job now done
  obtain ⟨there, mine, describes, _⟩ := held_holder sound held handed
  have updates := leased_updates none
  have jobs := jobs_changed world.store row.id updates sound.jobs fun other listed same ended => by
    rw [same_row world.store sound.jobs listed there same] at ended
    exact absurd (held.pending.symm.trans ended) (by decide)
  have places := places_changed world (world.wrote _ [.released job now]) updates sound.jobs sound.places there held.pending
    held.pending (fun place set => sound.places.placed row there place set) rfl rfl
  exact provisioned_acted (.released job now) updates sound held handed rfl jobs places rfl rfl
    (fun _ set => set) rfl held.pending

theorem jobs_finished {row : JobRow} (sound : JobsSound store) (there : row ∈ store.jobs)
    (place : row.matrixRoomId = some room) : JobsSound (store.changeJob row.id JobRow.completed) := by
  refine jobs_changed store row.id completed_updates sound fun other listed same _ => ⟨rfl, ?_⟩
  rw [same_row store sound listed there same]
  exact place.symm ▸ rfl

theorem provisioned_spaced (sound : Provisioned world) (handed : .handed job ∈ world.log)
    (done : world.store.completeSpace job space now = .ok (told, store)) :
    Provisioned (world.wrote store [.completed job space now]) ∧ ∀ row ∈ world.store.jobs, ∃ later ∈ store.jobs, KeptRow row later := by
  obtain ⟨row, catalog, held, place, kind, found, _, _, rfl⟩ := complete_space_ok world.store store job now done
  obtain ⟨there, mine, describes, _⟩ := held_holder sound held handed
  have target : row.target = .space := by
    rw [describes.target]
    cases target : job.target with
    | space => rfl
    | roomInstance id region =>
      rw [target] at kind
      cases kind
  have same := describes.catalogId.trans (catalog_found world.store found).2.symm
  have finished := jobs_finished sound.jobs there place
  have jobs : JobsSound ((world.store.withSpace catalog.id space).changeJob row.id JobRow.completed) :=
    ⟨finished.keys, finished.once, finished.rooms, finished.aliases, finished.done⟩
  have places := places_spaced world (world.wrote _ [.completed job space now]) sound.jobs sound.places there target place
    same rfl rfl
  refine provisioned_acted (.completed job space now) completed_updates sound held handed rfl jobs places
    rfl rfl (fun _ set => set) rfl ?_
  simp [JobRow.completed, LobbyEvent.completes, mine]

theorem provisioned_opened {room : RoomInstance}
    (sound : Provisioned world) (handed : .handed job ∈ world.log) (done : world.store.completeInstance job room now = .ok store) :
    Provisioned (world.wrote store [.completed job room.matrixRoomId now]) ∧
      ∀ row ∈ world.store.jobs, ∃ later ∈ store.jobs, KeptRow row later := by
  obtain ⟨row, held, place, target, _, apart, rfl⟩ := complete_instance_ok world.store store job now done
  obtain ⟨there, mine, describes, _⟩ := held_holder sound held handed
  have finished := jobs_finished sound.jobs there place
  have jobs : JobsSound ((world.store.withRoom room).changeJob row.id JobRow.completed) :=
    ⟨finished.keys, finished.once, finished.rooms, finished.aliases, finished.done⟩
  have places := places_roomed world (world.wrote _ [.completed job room.matrixRoomId now]) room sound.jobs sound.places there
    (describes.target ▸ target) place (fun other listed => (apart other listed).1) rfl rfl
  refine provisioned_acted (.completed job room.matrixRoomId now) completed_updates sound held handed rfl
    jobs places rfl rfl (fun _ set => set) rfl ?_
  simp [JobRow.completed, LobbyEvent.completes, mine]

theorem provisioned_answered {call : LobbyCall} {answer : LobbyAnswer call} (sound : Provisioned world) (may : MayCall call world)
    (answers : LobbyAnswers world call answer next) : Provisioned next ∧ Onward world next := by
  cases call with
  | clock | attachChild | applyEffect | joinRoom | leaveRoom | standingPersonActions =>
    cases answers
    exact ⟨sound, onward_refl world⟩
  | newId =>
    obtain ⟨_, rfl⟩ := answers
    exact provisioned_beside world _ sound
      ⟨sound.places.catalogs, sound.places.rooms, sound.places.spaces, sound.places.based, sound.places.opened, sound.places.published,
        sound.places.placed, sound.places.names, sound.places.places, sound.places.taken⟩ rfl rfl fun _ there => there
  | claimProvisioning claim =>
    obtain ⟨transacts, which⟩ := answers
    rcases which with rfl | unused
    · exact ⟨sound, onward_refl next⟩
    · exact transacted world next _ _ answer sound transacts fun outcome store made =>
        provisioned_claimed world claim sound made unused
  | checkpointMatrixRoom job room now =>
    exact transacted world next _ _ answer sound answers fun value store made =>
      provisioned_checkpointed world sound may.1 may.2 (without_value_ok made)
  | completeSpace job space now =>
    exact transacted world next _ _ answer sound answers fun told store made =>
      provisioned_spaced world sound may made
  | completeInstance job room now =>
    exact transacted world next _ _ answer sound answers fun value store made =>
      provisioned_opened world sound may (without_value_ok made)
  | releaseProvisioning job code now =>
    exact transacted world next _ _ answer sound answers fun value store made =>
      provisioned_released world sound may (without_value_ok made)
  | createRoom kind aliasLocalpart =>
    rcases answers with ⟨room, free, fresh, apart, rfl, _⟩ | ⟨rfl, _⟩
    · exact provisioned_beside world _ sound (places_named world room sound.places free fresh apart) rfl rfl
        fun _ there => List.mem_append_left _ there
    · exact ⟨sound, onward_refl _⟩
  | resolveRoomAlias aliasLocalpart =>
    obtain ⟨_, rfl⟩ := answers
    exact ⟨sound, onward_refl _⟩
  | reserve | transition => exact may.elim

theorem provisioned_moved (sound : Provisioned world) (moved : Elsewhere world next) : Provisioned next ∧ Onward world next :=
  provisioned_beside world next sound (places_elsewhere world next sound.places moved) moved.jobs moved.log
    fun _ there => moved.directory.symm ▸ there

end

def lobbyRely : Rely lobbyEnvironment where
  invariant := Provisioned
  later := Onward
  same := onward_refl
  trans := onward_trans
  moved := fun world next sound moved => provisioned_moved world next sound moved

def lobbyDiscipline : Discipline lobbyEnvironment LobbyProvisioningRequest (Except LobbyProvisioningFailure LobbyProvisioningOutcome) where
  toRely := lobbyRely
  may := fun _ _ call world => MayCall call world
  promise := fun _ _ _ _ => True
  answered := fun _ _ world _ _ next sound _ may answers => provisioned_answered world next sound may answers

section

abbrev LobbyTells {ε α : Type} (told : α → LobbyWorld → Prop) (program : LobbyProgram ε α) (world : LobbyWorld) : Prop :=
  Tells lobbyRely MayCall told program world

def WasHanded (job : RoomProvisioningJob) (world : LobbyWorld) : Prop := .handed job ∈ world.log

theorem handed_lasting (job : RoomProvisioningJob) : lobbyRely.Lasting (WasHanded job) :=
  fun _ _ _ onward handed => onward.log.subset handed

variable {world : LobbyWorld} {aliasLocalpart : MatrixRoomAliasLocalpart}

theorem clock_tells : LobbyTells (fun _ _ => True) (clock : LobbyProgram ε UtcMillis) world :=
  tells_nothing fun _ _ _ => trivial

theorem id_tells : LobbyTells (fun _ _ => True) (newId : LobbyProgram ε Nat) world :=
  tells_nothing fun _ _ _ => trivial

theorem known_tells (result : Except ε α) : LobbyTells (fun _ _ => True) (settled result) world :=
  tells_settled fun _ _ _ _ _ => trivial

variable {room space : MatrixRoomReference}

theorem claim_tells : LobbyTells (fun _ _ => True) (provisioningClaim lifetime catalogId target aliasLocalpart) world := by
  refine tells_then _ clock_tells fun now first _ _ _ => ?_
  refine tells_then _ (known_tells _) fun expiresAt second _ _ _ => ?_
  refine tells_then _ id_tells fun jobId third _ _ _ => ?_
  refine tells_then _ id_tells fun leaseId fourth _ _ _ => ?_
  exact known_tells _

variable (job : RoomProvisioningJob)

theorem release_tells (handed : WasHanded job world) : LobbyTells told (releaseMatrixFailure job code stage source) world := by
  refine tells_holding (handed_lasting job) handed clock_tells fun now _ handed _ => ?_
  refine tells_then _ (tells_nothing fun later sound onward => ?_) fun _ _ _ _ _ => tells_settled nofun
  exact handed_lasting job _ _ sound onward handed

theorem checkpoint_tells (handed : WasHanded job world) (named : (job.aliasLocalpart, room) ∈ world.directory) :
    LobbyTells (fun _ _ => True) (checkpoint job stages room) world := by
  refine tells_then _ clock_tells fun now _ sound since _ => ?_
  refine tells_then _ (tells_nothing fun later sound' onward => ?_) fun _ _ _ _ _ => tells_done
  exact ⟨handed_lasting job _ _ sound' onward (handed_lasting job _ _ sound since handed),
    onward.directory _ (since.directory _ named)⟩

def Names (aliasLocalpart : MatrixRoomAliasLocalpart) (answer : Except MatrixFailureKind MatrixRoomReference) (world : LobbyWorld) : Prop :=
  ∀ room, answer = .ok room → (aliasLocalpart, room) ∈ world.directory

theorem names_lasting : lobbyRely.Lasting (Names aliasLocalpart answer) :=
  fun _ _ _ onward names room same => onward.directory _ (names room same)

theorem resolves_names (found : world.resolves aliasLocalpart = some room) : (aliasLocalpart, room) ∈ world.directory := by
  obtain ⟨entry, first, same⟩ := Option.map_eq_some_iff.mp found
  obtain ⟨there, named⟩ := find_keyed Prod.fst aliasLocalpart entry first
  have whole : entry = (aliasLocalpart, room) := Prod.ext named same
  exact whole ▸ there

theorem resolve_tells (stages : MatrixRoomStages) (handed : WasHanded job world) :
    LobbyTells (fun _ _ => True) (resolveRoom job stages) world := by
  refine tells_then (Names job.aliasLocalpart) ?_ fun resolved first _ since named => ?_
  · refine tells_call (fun _ _ _ => trivial) (fun value => names_lasting) ?_
    intro now answer after value _ _ answers _ reads room same
    obtain ⟨resolves, rfl⟩ := answers
    cases reads
    exact resolves_names (resolves room same)
  · have handed' := handed_lasting job _ _ ‹_› since handed
    cases resolved with
    | ok room => exact checkpoint_tells job handed' (named room rfl)
    | error source => exact release_tells job handed'

theorem create_tells (stages : MatrixRoomStages) (handed : WasHanded job world) :
    LobbyTells (fun _ _ => True) (createMatrixRoom job stages) world := by
  refine tells_then (Names job.aliasLocalpart) ?_ fun created first _ since named => ?_
  · refine tells_call (fun _ _ _ => trivial) (fun value => names_lasting) ?_
    intro now answer after value _ _ answers _ reads room same
    cases reads
    rcases answers with ⟨made, _, _, _, rfl, told | ⟨_, told⟩⟩ | ⟨_, _, told⟩
    · cases told.symm.trans same
      exact List.mem_concat_self
    · cases told.symm.trans same
    · cases told.symm.trans same
  · have handed' := handed_lasting job _ _ ‹_› since handed
    cases created with
    | ok room => exact checkpoint_tells job handed' (named room rfl)
    | error source =>
      cases source with
      | conflict | unknownCommit => exact resolve_tells job stages handed'
      | _ => exact release_tells job handed'

theorem ensure_room_tells (handed : WasHanded job world) : LobbyTells (fun _ _ => True) (ensureMatrixRoom job stages) world := by
  unfold ensureMatrixRoom
  cases job.matrixRoomId with
  | none => exact create_tells job stages handed
  | some room => exact tells_done

theorem open_space_tells (handed : WasHanded job world) : LobbyTells (fun _ _ => True) (openSpace job) world := by
  refine tells_holding (handed_lasting job) handed (known_tells _) fun _ _ handed _ => ?_
  refine tells_holding (handed_lasting job) handed (ensure_room_tells job handed) fun space _ handed _ => ?_
  refine tells_holding (handed_lasting job) handed clock_tells fun now _ handed _ => ?_
  refine tells_then _ (tells_nothing fun later sound onward => ?_) fun _ _ _ _ _ => tells_done
  exact handed_lasting job _ _ sound onward handed

def Grants (outcome : RoomProvisioningClaimOutcome) (world : LobbyWorld) : Prop := ∀ job, outcome = .claimed job → WasHanded job world

theorem claims_tell {claim : RoomProvisioningClaim} {read : RepositoryErrorKind → ε} :
    LobbyTells Grants (consult (.claimProvisioning claim) (Except.mapError read)) world := by
  refine tells_call (fun _ _ _ => trivial) (fun outcome _ _ sound onward grants job same =>
    handed_lasting job _ _ sound onward (grants job same)) ?_
  intro now answer after outcome _ _ answers _ reads job same
  subst same
  obtain ⟨store, _, rfl⟩ := transacts_ok answers.1 (map_error_read reads)
  exact List.mem_concat_self

theorem claim_space_tells : LobbyTells (fun _ _ => True) (claimSpace lifetime catalog) world := by
  refine tells_then _ (known_tells _) fun aliasLocalpart first _ _ _ => ?_
  refine tells_then _ claim_tells fun claim second _ _ _ => ?_
  refine tells_then _ claims_tell fun outcome third _ _ granted => ?_
  cases outcome with
  | claimed job => exact open_space_tells job (granted job rfl)
  | busy retryAt => exact tells_done
  | spaceReady catalog => exact tells_done
  | instanceReady room => exact known_tells _

theorem ensure_space_tells {lifetime : DurationMillis} : LobbyTells (fun _ _ => True) (ensureSpace lifetime catalog) world := by
  unfold ensureSpace
  split
  · exact tells_done
  · exact claim_space_tells

theorem attach_tells (handed : WasHanded job world) : LobbyTells (fun _ _ => True) (attachInstance job space child) world := by
  refine tells_holding (handed_lasting job) handed (tells_nothing fun _ _ _ => trivial) fun attached _ handed _ => ?_
  cases attached with
  | ok _ => exact tells_done
  | error source => exact release_tells job handed

theorem carry_tells (room : MatrixRoomReference) (handed : WasHanded job world) :
    LobbyTells (fun _ _ => True) (carryOver job room actions) world := by
  induction actions generalizing world with
  | nil => exact tells_done
  | cons action rest ih =>
    refine tells_holding (handed_lasting job) handed (tells_nothing fun _ _ _ => trivial) fun applied _ handed _ => ?_
    cases applied with
    | ok _ => exact ih handed
    | error source => exact release_tells job handed

theorem carry_over_tells (room : MatrixRoomReference) (handed : WasHanded job world) :
    LobbyTells (fun _ _ => True) (carryOverModeration job room) world := by
  refine tells_holding (handed_lasting job) handed clock_tells fun now _ handed _ => ?_
  refine tells_holding (handed_lasting job) handed (tells_nothing fun _ _ _ => trivial) fun standing _ handed _ => ?_
  exact carry_tells job room handed

theorem open_instance_tells (handed : WasHanded job world) :
    LobbyTells (fun _ _ => True) (openInstance catalog space job) world := by
  refine tells_holding (handed_lasting job) handed (known_tells _) fun _ _ handed _ => ?_
  refine tells_holding (handed_lasting job) handed (ensure_room_tells job handed) fun child _ handed _ => ?_
  refine tells_holding (handed_lasting job) handed (attach_tells job handed) fun _ _ handed _ => ?_
  refine tells_holding (handed_lasting job) handed (carry_over_tells job child handed) fun _ _ handed _ => ?_
  refine tells_holding (handed_lasting job) handed (known_tells _) fun room _ handed _ => ?_
  refine tells_holding (handed_lasting job) handed clock_tells fun now _ handed _ => ?_
  refine tells_then _ (tells_nothing fun later sound onward => ?_) fun _ _ _ _ _ => tells_done
  exact handed_lasting job _ _ sound onward handed

theorem ensure_instance_tells {region : Option RoomRegion} :
    LobbyTells (fun _ _ => True) (ensureInstance lifetime catalog region) world := by
  refine tells_then _ (known_tells _) fun space first _ _ _ => ?_
  refine tells_then _ id_tells fun proposed second _ _ _ => ?_
  refine tells_then _ (known_tells _) fun aliasLocalpart third _ _ _ => ?_
  refine tells_then _ claim_tells fun claim fourth _ _ _ => ?_
  refine tells_then _ claims_tell fun outcome fifth _ _ granted => ?_
  cases outcome with
  | claimed job => exact open_instance_tells job (granted job rfl)
  | busy retryAt => exact tells_done
  | instanceReady room => exact tells_done
  | spaceReady other => exact known_tells _

theorem provision_tells : LobbyTells (fun _ _ => True) (provision lifetime request) world := by
  refine tells_then _ (known_tells _) fun _ first _ _ _ => ?_
  refine tells_then _ ensure_space_tells fun ensured second _ _ _ => ?_
  cases ensured with
  | ready catalog => exact ensure_instance_tells
  | busy retryAt => exact tells_done

end

structure Untouched (world : LobbyWorld) : Prop where
  jobs : world.store.jobs = []
  log : world.log = []
  catalogs : (world.store.catalogs.map RoomCatalog.id).Nodup
  rooms : (world.store.rooms.map RoomInstance.id).Nodup
  names : (world.directory.map Prod.fst).Nodup
  places : (world.directory.map Prod.snd).Nodup
  apart : ∀ room ∈ world.store.rooms, ∀ entry ∈ world.directory, room.matrixRoomId ≠ entry.2

abbrev ProvisioningScene := Scene LobbyWorld LobbyProvisioningRequest LobbyCall LobbyAnswer
  (Except LobbyProvisioningFailure LobbyProvisioningOutcome)

-- Any number of workers provision lobbies, each step of any of them at any time,
-- any of them cut off anywhere.
def Provisions (lifetime : DurationMillis) : ProvisioningScene → List (Turn LobbyProvisioningRequest) → ProvisioningScene → Prop :=
  Runs (Turns lobbyEnvironment fun request => (provision lifetime request).run)

section

variable {lifetime : DurationMillis} {world : LobbyWorld} {reached final : ProvisioningScene} {turns : List (Turn LobbyProvisioningRequest)}

theorem untouched_provisioned (untouched : Untouched world) : Provisioned world := by
  have none {P : JobRow → Prop} : ∀ row ∈ world.store.jobs, P row := fun row there => by
    rw [untouched.jobs] at there
    cases there
  refine ⟨⟨?_, none, none, none, none⟩, ⟨untouched.catalogs, untouched.rooms, none, none, none, none, none, untouched.names,
    untouched.places, ?_⟩, ?_, ?_, none, ?_, none⟩
  · rw [untouched.jobs]
    exact List.nodup_nil
  · exact fun room there entry listed same => absurd same (untouched.apart room there entry listed)
  · rw [untouched.log]
    exact fun event listed => absurd listed List.not_mem_nil
  · rw [untouched.log]
    exact List.nodup_nil
  · rw [untouched.log]
    exact each_up_to_nil LobbyEvent.acted

theorem provisions_kept (kept : lobbyDiscipline.Kept start)
    (run : Provisions lifetime start turns final) : lobbyDiscipline.Kept final ∧ Onward start.world final.world := by
  refine kept_run (fun request state _ => ?_) kept run
  exact safe_mono _ _ _ _ (fun _ _ _ _ => trivial) provision_tells

theorem reached_kept (untouched : Untouched world) (run : Provisions lifetime (.opening world) turns reached) :
    lobbyDiscipline.Kept reached := by
  have opens : lobbyDiscipline.Kept (.opening world) := opening_kept (untouched_provisioned untouched)
  exact (provisions_kept opens run).1

end

end AgentRoom.Lobby
