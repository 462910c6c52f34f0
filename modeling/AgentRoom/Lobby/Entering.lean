import AgentRoom.Lobby.World

namespace AgentRoom.Lobby

open Library

theorem ranking_le (less : (compareCandidates left right).isLE = true) :
    (compare left.rankingKey right.rankingKey).isLE = true := by
  unfold compareCandidates compareLex compareOn at less
  cases compared : compare left.rankingKey right.rankingKey with
  | lt => rfl
  | eq => rfl
  | gt =>
    rw [compared] at less
    cases less

variable {candidate best : RoomAllocationCandidate}

theorem best_outranks
    (found : bestCandidate candidates = some best) (listed : candidate ∈ candidates) (accepts : candidate.room.acceptsAllocations = true) :
    (compare candidate.rankingKey best.rankingKey).isLE = true :=
  ranking_le (max_by_ge compareCandidates found candidate (List.mem_filter.mpr ⟨listed, accepts⟩))

theorem lonely_outranked (above : (compare candidate.rankingKey best.rankingKey).isLE = true)
    (below : candidate.room.isAboveSoftCapacity = false) (full : best.room.isAboveSoftCapacity = true)
    (alone : best.affinity.keepsSocialContext = false) (language : candidate.affinity.language = best.affinity.language)
    (region : (decide (best.affinity.region = .matching)).toNat ≤ (decide (candidate.affinity.region = .matching)).toNat) : False := by
  obtain ⟨known, invited⟩ := Bool.or_eq_false_iff.mp alone
  obtain ⟨previous, friends⟩ := Bool.or_eq_false_iff.mp known
  simp only [RoomAllocationCandidate.rankingKey, compare_le_cons, below, full, previous, invited, language] at above
  have friendless := of_decide_eq_false friends
  simp only [Bool.toNat_false, Bool.not_true, Bool.not_false, Bool.toNat_true] at above
  omega

section

variable {store : LobbyStore} {catalog : RoomCatalog} {claim : RoomReservationClaim}

variable {room : RoomInstance}

theorem ready_accepts (ready : isReadyInstance catalog.id region room = true) :
    room.acceptsAllocations = true ∧ room.isAboveSoftCapacity = false := by
  obtain ⟨_, _, active, free⟩ := of_decide_eq_true ready
  have above := room.capacity.above
  constructor
  · have left : 0 < room.remainingSlots := by
      unfold RoomInstance.remainingSlots
      omega
    simp [RoomInstance.acceptsAllocations, RoomInstanceState.acceptsAllocations, active, left]
  · simp only [RoomInstance.isAboveSoftCapacity, decide_eq_false_iff_not]
    omega

theorem prefers_region {room : RoomInstance} {other : RoomInstance} (same : room.region = preferred) :
    (decide (preferenceMatch preferred other.region = .matching)).toNat ≤
      (decide (preferenceMatch preferred room.region = .matching)).toNat := by
  rw [same]
  unfold preferenceMatch
  by_cases given : preferred.isSome = true
  · simp only [given, true_and, and_self, if_true]
    split <;> decide
  · simp [given]

theorem ready_is_chosen (there : room ∈ store.rooms) (automatic : claim.mode = .automatic)
    (ready : isReadyInstance catalog.id claim.preferredRegion room = true) :
    ∃ best ∈ store.lockCandidates catalog claim, best.room.acceptsAllocations = true ∧
      chooseRoomInstance (store.lockCandidates catalog claim) = .reserve best.room.id := by
  obtain ⟨accepts, below⟩ := ready_accepts ready
  obtain ⟨mine, same, active, _⟩ := of_decide_eq_true ready
  have listed : ⟨room, buildAffinity claim catalog room⟩ ∈ store.lockCandidates catalog claim := by
    refine List.mem_map.mpr ⟨room, List.mem_filter.mpr ⟨there, ?_⟩, rfl⟩
    simp [isCandidate, mine, automatic, active]
  cases found : bestCandidate (store.lockCandidates catalog claim) with
  | none =>
    have nobody := (max_by_none compareCandidates).mp found
    have nothing : ⟨room, buildAffinity claim catalog room⟩ ∈ ([] : List RoomAllocationCandidate) :=
      nobody ▸ List.mem_filter.mpr ⟨listed, accepts⟩
    cases nothing
  | some best =>
    obtain ⟨among, acceptsBest⟩ := List.mem_filter.mp (max_by_mem compareCandidates found)
    refine ⟨best, among, acceptsBest, ?_⟩
    obtain ⟨other, _, rfl⟩ := List.mem_map.mp among
    have above := best_outranks found listed accepts
    simp only [chooseRoomInstance, found]
    rw [if_neg]
    intro both
    obtain ⟨full, alone⟩ := (Bool.and_eq_true ..).mp both
    exact lonely_outranked above below full (Bool.not_eq_true' .. ▸ alone) rfl (prefers_region same)

end

section

variable {world final : LobbyWorld}

variable {catalog : RoomCatalog} {room : RoomInstance} {claim : RoomProvisioningClaim}

theorem reserved_joins (run : Alone lobbyEnvironment (joinReserved reservation room now).run world (.ok outcome) final) :
    ∃ committed, outcome = .joined committed room .newAssignment := by
  obtain ⟨joined, first, _, run⟩ := (alone_then ..).mp run
  cases joined with
  | error source =>
    obtain ⟨_, _, _, run⟩ := (alone_then ..).mp run
    cases run.1
  | ok _ =>
    obtain ⟨confirmed, second, _, run⟩ := (alone_then ..).mp run
    cases confirmed with
    | ok committed =>
      cases run.1
      exact ⟨committed, rfl⟩
    | error confirmation =>
      obtain ⟨_, _, _, run⟩ := (alone_then ..).mp run
      cases run.1

theorem join_required (request : JoinLobbyRequest) (catalog : RoomCatalog)
    (run : Alone lobbyEnvironment (join lifetime request).run world (.ok (.provisioningRequired catalog)) final) :
    ∀ room ∈ world.store.rooms, isReadyInstance request.catalogId request.preferredRegion room = false := by
  obtain ⟨now, first, clock, run⟩ := (alone_then ..).mp run
  obtain ⟨_, clock, _⟩ := (alone_consult ..).mp clock
  cases clock
  obtain ⟨expiresAt, _, ⟨_, rfl⟩, run⟩ := (alone_then ..).mp run
  obtain ⟨id, second, drawn, run⟩ := (alone_then ..).mp run
  obtain ⟨_, ⟨_, rfl⟩, _⟩ := (alone_consult ..).mp drawn
  obtain ⟨outcome, third, reserves, run⟩ := (alone_then ..).mp run
  obtain ⟨answer, answers, reads⟩ := (alone_consult ..).mp reserves
  have answered := map_error_read reads
  obtain ⟨store, reserved, rfl⟩ := transacts_ok answers answered
  obtain ⟨catalog', found, cases'⟩ := reserve_reserves _ _ reserved
  have same : catalog'.id = request.catalogId := (catalog_found _ found).2
  cases cases' with
  | required automatic nothing =>
    intro room there
    cases ready : isReadyInstance request.catalogId request.preferredRegion room with
    | false => rfl
    | true =>
      obtain ⟨best, _, _, chosen⟩ := ready_is_chosen there automatic (same.symm ▸ ready)
      cases nothing.symm.trans chosen
  | existing stored room fresh found place =>
    obtain ⟨_, _, _, done⟩ := (alone_then ..).mp run
    cases done.1
  | taken room taken reservation fresh idle there mine slot made =>
    obtain ⟨committed, same⟩ := reserved_joins run
    cases same
  | replayed stored room _ known replay place told =>
    rcases told with ⟨_, rfl⟩ | ⟨_, rfl⟩
    · obtain ⟨committed, same⟩ := reserved_joins run
      cases same
    · obtain ⟨_, _, _, done⟩ := (alone_then ..).mp run
      cases done.1

theorem handed_target {store next : LobbyStore} (claimed : store.claimRoomProvisioning claim = .ok (.claimed job, next)) :
    job.catalog.id = claim.catalogId ∧ job.target.kind = claim.target.kind ∧
      (claim.target.kind = .roomInstance → job.target.region = claim.target.region) := by
  obtain ⟨catalog, found, _, _, comes⟩ := claim_claims store next claim claimed
  have same := (catalog_found store found).2
  cases comes with
  | takenOver row _ pending _ _ =>
    have fits := @List.find?_some _ _ row store.jobs pending
    obtain ⟨_, kind, region⟩ := of_decide_eq_true ((Bool.and_eq_true ..).mp fits).1
    exact ⟨same, kind, region⟩
  | begun _ _ _ => exact ⟨same, rfl, fun _ => rfl⟩

theorem built_ready
    (built : buildRoomInstance job place = .ok room) : isReadyInstance job.catalog.id job.target.region room = true := by
  unfold buildRoomInstance at built
  split at built
  · cases built
    exact decide_eq_true ⟨rfl, rfl, rfl, RoomCapacity.standard.positive⟩
  · cases built

theorem open_instance_opens (run : Alone lobbyEnvironment (openInstance catalog space job).run world (.ok (.ready lobby)) final) :
    lobby.catalog = catalog ∧ ∃ room ∈ final.store.rooms, isReadyInstance job.catalog.id job.target.region room = true := by
  obtain ⟨_, _, _, run⟩ := (alone_then ..).mp run
  obtain ⟨child, _, _, run⟩ := (alone_then ..).mp run
  obtain ⟨_, _, _, run⟩ := (alone_then ..).mp run
  obtain ⟨_, _, _, run⟩ := (alone_then ..).mp run
  obtain ⟨room, _, ⟨built, rfl⟩, run⟩ := (alone_then ..).mp run
  obtain ⟨now, _, _, run⟩ := (alone_then ..).mp run
  obtain ⟨_, last, completes, run⟩ := (alone_then ..).mp run
  obtain ⟨answer, answers, reads⟩ := (alone_consult ..).mp completes
  obtain ⟨same, rfl⟩ := (alone_pure ..).mp run
  cases same
  refine ⟨rfl, room, ?_, built_ready built⟩
  obtain ⟨store, made, rfl⟩ := transacts_ok answers (map_error_read reads)
  obtain ⟨row, _, _, _, _, _, rfl⟩ := complete_instance_ok _ store job now (without_value_ok made)
  exact List.mem_concat_self

theorem provisioning_claim_fields
    (run : Alone lobbyEnvironment (provisioningClaim lifetime catalogId target aliasLocalpart).run world (.ok claim) final) :
    claim.catalogId = catalogId ∧ claim.target = target := by
  obtain ⟨_, _, _, run⟩ := (alone_then ..).mp run
  obtain ⟨_, _, _, run⟩ := (alone_then ..).mp run
  obtain ⟨_, _, _, run⟩ := (alone_then ..).mp run
  obtain ⟨_, _, _, built, _⟩ := (alone_then ..).mp run
  have made := map_error_read built
  unfold RoomProvisioningClaim.new at made
  split at made
  · cases made
  · cases made
    exact ⟨rfl, rfl⟩

theorem ensure_instance_opens
    (run : Alone lobbyEnvironment (ensureInstance lifetime catalog region).run world (.ok (.ready lobby)) final) :
    lobby.catalog = catalog ∧ ∃ room ∈ final.store.rooms, isReadyInstance catalog.id region room = true := by
  obtain ⟨space, _, ⟨_, rfl⟩, run⟩ := (alone_then ..).mp run
  obtain ⟨proposed, _, _, run⟩ := (alone_then ..).mp run
  obtain ⟨aliasLocalpart, _, ⟨_, rfl⟩, run⟩ := (alone_then ..).mp run
  obtain ⟨claim, before, claims, run⟩ := (alone_then ..).mp run
  obtain ⟨outcome, after, asks, run⟩ := (alone_then ..).mp run
  obtain ⟨place, target⟩ := provisioning_claim_fields claims
  obtain ⟨answer, ⟨answers, _⟩, reads⟩ := (alone_consult ..).mp asks
  obtain ⟨store, claimed, rfl⟩ := transacts_ok answers (map_error_read reads)
  cases outcome with
  | claimed job =>
    obtain ⟨mine, kind, sameRegion⟩ := handed_target claimed
    obtain ⟨same, room, there, ready⟩ := open_instance_opens run
    rw [mine, place, sameRegion (by rw [target]; rfl), target] at ready
    exact ⟨same, room, there, ready⟩
  | busy retryAt => cases run.1
  | spaceReady other => cases run.1
  | instanceReady room =>
    cases run.1
    cases run.2
    obtain ⟨catalog', found, _, _, comes⟩ := claim_claims _ store claim claimed
    refine ⟨rfl, room, ?_⟩
    cases comes with
    | instanceReady id region' _ target' there ready =>
      cases target.symm.trans target'
      rw [(catalog_found _ found).2, place] at ready
      exact ⟨there, ready⟩

theorem provision_opens (run : Alone lobbyEnvironment (provision lifetime request).run world (.ok (.ready lobby)) final) :
    ∃ room ∈ final.store.rooms, isReadyInstance lobby.catalog.id request.preferredRegion room = true := by
  obtain ⟨_, _, _, run⟩ := (alone_then ..).mp run
  obtain ⟨ensured, _, _, run⟩ := (alone_then ..).mp run
  cases ensured with
  | ready catalog =>
    obtain ⟨rfl, opened⟩ := ensure_instance_opens run
    exact opened
  | busy retryAt => cases run.1

theorem enter_settles (run : Alone lobbyEnvironment (enter policy request).run world (.ok outcome) final) :
    ∀ catalogId, outcome ≠ .capacityChanged catalogId := by
  rintro catalogId rfl
  obtain ⟨first, _, _, run⟩ := (alone_then ..).mp run
  cases first with
  | joined reservation room kind => cases run.1
  | provisioningRequired catalog =>
    obtain ⟨provisioned, middle, provisions, run⟩ := (alone_then ..).mp run
    have opened := (alone_fail_as ..).mp provisions
    cases provisioned with
    | busy retryAt => cases run.1
    | ready lobby =>
      obtain ⟨room, there, ready⟩ := provision_opens opened
      by_cases mismatch : lobby.catalog.id ≠ request.catalogId ∨ lobby.room.catalogId ≠ request.catalogId
      · simp only [enterProvisioned, if_pos mismatch] at run
        cases run.1
      · simp only [enterProvisioned, if_neg mismatch] at run
        obtain ⟨second, last, joins, run⟩ := (alone_then ..).mp run
        cases second with
        | joined reservation room kind => cases run.1
        | provisioningRequired again =>
          have nothing := join_required request again ((alone_fail_as ..).mp joins) room there
          rw [← not_not.mp (not_or.mp mismatch).1] at nothing
          cases ready.symm.trans nothing

end

-- Where the choice asks for a new room, the provisioning claim finds none ready.
def ProvisioningAgrees (store : LobbyStore) (catalog : RoomCatalog) (claim : RoomReservationClaim) : Prop :=
  ∀ (asked : RoomProvisioningClaim) id outcome next, asked.catalogId = catalog.id → asked.target = .roomInstance id claim.preferredRegion →
    store.claimRoomProvisioning asked = .ok (outcome, next) → ∀ room, outcome ≠ .instanceReady room

def NextReserves (store : LobbyStore) (catalog : RoomCatalog) (claim : RoomReservationClaim) : Prop :=
  ∀ room : RoomInstance, room.catalogId = catalog.id → room.region = claim.preferredRegion → room.capacity = .standard →
    room.allocatedSlots = 0 → room.state = .active → ∃ chosen ∈ (store.withRoom room).rooms,
      chooseRoomInstance ((store.withRoom room).lockCandidates catalog claim) = .reserve chosen.id ∧
        ∃ taken, chosen.reserveSlot = .ok taken

theorem agrees_of_nothing (store : LobbyStore) {catalog : RoomCatalog} {claim : RoomReservationClaim} (automatic : claim.mode = .automatic)
    (nothing : chooseRoomInstance (store.lockCandidates catalog claim) = .provisionNew) : ProvisioningAgrees store catalog claim := by
  rintro asked id outcome next mine target claimed room rfl
  obtain ⟨catalog', found, _, _, comes⟩ := claim_claims store next asked claimed
  have same := (catalog_found store found).2.trans mine
  cases comes with
  | instanceReady id' region room target' there ready =>
    cases target.symm.trans target'
    have ready' : isReadyInstance catalog.id claim.preferredRegion room = true := same ▸ ready
    obtain ⟨best, _, _, chosen⟩ := ready_is_chosen there automatic ready'
    cases nothing.symm.trans chosen

theorem accepts_slot {room : RoomInstance} (accepts : room.acceptsAllocations = true) : ∃ taken, room.reserveSlot = .ok taken := by
  obtain ⟨active, free⟩ := (Bool.and_eq_true ..).mp accepts
  have below : room.allocatedSlots < room.capacity.hard := by
    have := of_decide_eq_true free
    unfold RoomInstance.remainingSlots at this
    omega
  unfold RoomInstance.reserveSlot
  rw [if_pos active, dif_pos below]
  exact ⟨_, rfl⟩

theorem next_reserves {store : LobbyStore} {catalog : RoomCatalog} {claim : RoomReservationClaim} (automatic : claim.mode = .automatic) :
    NextReserves store catalog claim := by
  intro room place region standard none' active
  have ready : isReadyInstance catalog.id claim.preferredRegion room = true := by
    refine decide_eq_true ⟨place, region, active, ?_⟩
    rw [none', standard]
    exact RoomCapacity.standard.positive
  have there : room ∈ (store.withRoom room).rooms := List.mem_concat_self
  obtain ⟨best, listed, accepts, chosen⟩ := ready_is_chosen there automatic ready
  exact ⟨best.room, (candidate_room _ claim catalog listed).1, chosen, accepts_slot accepts⟩

theorem lobby_entry_is_no_livelock (store : LobbyStore) (catalog : RoomCatalog) (claim : RoomReservationClaim)
    (automatic : claim.mode = .automatic) (nothing : chooseRoomInstance (store.lockCandidates catalog claim) = .provisionNew) :
    ProvisioningAgrees store catalog claim ∧ NextReserves store catalog claim ∧
      ∀ (policy : EnterLobbyPolicy) (request : JoinLobbyRequest) (world final : LobbyWorld) (outcome : EnterLobbyOutcome),
        Alone lobbyEnvironment (enter policy request).run world (.ok outcome) final →
          (∃ reservation room kind, outcome = .joined reservation room kind) ∨ ∃ retryAt, outcome = .provisioningBusy retryAt := by
  refine ⟨agrees_of_nothing store automatic nothing, next_reserves automatic, ?_⟩
  intro policy request world final outcome run
  cases outcome with
  | joined reservation room kind => exact .inl ⟨reservation, room, kind, rfl⟩
  | provisioningBusy retryAt => exact .inr ⟨retryAt, rfl⟩
  | capacityChanged catalogId => exact absurd rfl (enter_settles run catalogId)

def emptyLobby : RoomCatalog := ⟨⟨1⟩, .publicLobby, some "hall", none, some "!space:hall", .publicVisibility, .active⟩

def emptyStore : LobbyStore := ⟨[emptyLobby], [], [], [], fun _ _ => true⟩

def firstEntry : JoinLobbyRequest := ⟨⟨1⟩, ⟨1⟩, ⟨1⟩, .automatic, none, some "eu", ⟨none, [], []⟩⟩

def entryPolicy : EnterLobbyPolicy := ⟨1000, 1000⟩

def entered : Except EnterLobbyFailure EnterLobbyOutcome × LobbyWorld :=
  playOut (fun world => oblige world 10 "!room:hall") (enter entryPolicy firstEntry).run ⟨emptyStore, [], [], []⟩

theorem first_entry_joins : ∃ reservation room kind, entered.1 = .ok (.joined reservation room kind) := by
  refine ⟨_, _, _, rfl⟩

theorem first_entry_is_no_livelock : (ProvisioningAgrees emptyStore emptyLobby (reservationClaim firstEntry 1 10 20) ∧
    NextReserves emptyStore emptyLobby (reservationClaim firstEntry 1 10 20)) ∧
    ∃ reservation room kind, entered.1 = .ok (.joined reservation room kind) := by
  obtain ⟨agrees, next, settles⟩ := lobby_entry_is_no_livelock emptyStore emptyLobby (reservationClaim firstEntry 1 10 20) rfl rfl
  obtain ⟨reservation, room, kind, joined⟩ := first_entry_joins
  have run := alone_play_out lobbyEnvironment (fun world => oblige world 10 "!room:hall")
    (fun world => oblige_answers world 10 "!room:hall") (enter entryPolicy firstEntry).run ⟨emptyStore, [], [], []⟩
  have run' : Alone lobbyEnvironment (enter entryPolicy firstEntry).run ⟨emptyStore, [], [], []⟩ (.ok (.joined reservation room kind))
      entered.2 := joined ▸ run
  rcases settles _ _ _ _ _ run' with ⟨reservation', room', kind', same⟩ | ⟨retryAt, same⟩
  · exact ⟨⟨agrees, next⟩, reservation', room', kind', same ▸ joined⟩
  · cases same

end AgentRoom.Lobby
