import AgentRoom.Lobby.Tables

namespace AgentRoom.Lobby

open Library

inductive RoomAllocationMode where
  | automatic
  | manual (room : RoomInstanceId)
deriving DecidableEq

structure RoomAllocationEvidence where
  previousInstance : Option RoomInstanceId
  friendsPerInstance : List (RoomInstanceId × Nat)
  invitedInstances : List RoomInstanceId

structure RoomReservationClaim where
  reservationId : RoomReservationId
  agentId : AgentId
  agentInstanceId : AgentInstanceId
  catalogId : RoomCatalogId
  mode : RoomAllocationMode
  preferredLanguage : Option RoomLanguage
  preferredRegion : Option RoomRegion
  evidence : RoomAllocationEvidence
  reservedAt : UtcMillis
  expiresAt : UtcMillis

inductive RoomReservationOutcome where
  | reserved (reservation : RoomReservation) (room : RoomInstance)
  | existingAssignment (reservation : RoomReservation) (room : RoomInstance)
  | provisioningRequired (catalog : RoomCatalog)

def mapDomainError : DomainError → RepositoryErrorKind
  | .forbidden _ => .forbidden
  | _ => .constraint

def preferenceMatch (preferred actual : Option String) : RoomPreferenceMatch :=
  if preferred.isSome = true ∧ preferred = actual then .matching else .different

section

variable (claim : RoomReservationClaim) (catalog : RoomCatalog) (room : RoomInstance)

def buildAffinity : RoomAllocationAffinity where
  recovery := if claim.evidence.previousInstance = some room.id then .previous else .other
  friendsInRoom := (claim.evidence.friendsPerInstance.lookup room.id).getD 0
  invitation := if room.id ∈ claim.evidence.invitedInstances then .explicit else .none
  language := preferenceMatch claim.preferredLanguage catalog.language
  region := preferenceMatch claim.preferredRegion room.region

def isCandidate : Bool :=
  decide (room.catalogId = catalog.id) && match claim.mode with
    | .automatic => decide (room.state = .active)
    | .manual target => decide (room.id = target)

def chooseCandidate (candidates : List RoomAllocationCandidate) : Except RepositoryErrorKind RoomAllocationDecision :=
  match claim.mode with
  | .automatic => .ok (chooseRoomInstance candidates)
  | .manual target => do
    let candidate ← orElse .notFound (candidates.find? fun candidate => decide (candidate.room.id = target))
    (chooseManualRoomInstance candidate).mapError mapDomainError

-- A private room is one instance and never assigned by itself.
def ensureAllocatableCatalog : Except RepositoryErrorKind Unit :=
  let admissible := match catalog.kind with
    | .publicLobby => decide (catalog.visibility ≠ .privateVisibility)
    | .privateRoom => decide (claim.mode ≠ .automatic)
    | .direct => false
  if admissible && catalog.isJoinable then .ok () else .error .forbidden

def newReservation : DomainResult RoomReservation :=
  if later : claim.reservedAt < claim.expiresAt then
    .ok {
      id := claim.reservationId
      catalogId := claim.catalogId
      roomInstanceId := room.id
      agentInstanceId := claim.agentInstanceId
      reservedAt := claim.reservedAt
      expiresAt := claim.expiresAt
      state := .reserved
      finalizedAt := none
      later
      consistent := ⟨fun wrong => absurd rfl wrong, nofun⟩
      ordered := nofun }
  else .error (.validation "room_reservation_expires_at" "必须晚于预约时间")

end

def satisfiesMode (reservation : RoomReservation) : RoomAllocationMode → Bool
  | .automatic => true
  | .manual target => decide (reservation.roomInstanceId = target)

def isReplayOf (claim : RoomReservationClaim) (stored : StoredReservation) : Bool :=
  decide (stored.agentId = claim.agentId ∧ stored.reservation.agentInstanceId = claim.agentInstanceId ∧
    stored.reservation.catalogId = claim.catalogId ∧ stored.reservation.reservedAt = claim.reservedAt ∧
    stored.reservation.expiresAt = claim.expiresAt)

namespace LobbyStore

variable (store : LobbyStore)

def lockCandidates (catalog : RoomCatalog) (claim : RoomReservationClaim) : List RoomAllocationCandidate :=
  (store.rooms.filter (isCandidate claim catalog)).map fun room => ⟨room, buildAffinity claim catalog room⟩

def currentAssignment (agent : AgentInstanceId) (catalogId : RoomCatalogId) (excluded : Option RoomReservationId) :
    Option StoredReservation :=
  store.reservations.find? fun stored => decide (stored.reservation.agentInstanceId = agent ∧
    stored.reservation.catalogId = catalogId ∧ stored.reservation.state = .committed ∧ some stored.reservation.id ≠ excluded)

variable (claim : RoomReservationClaim)

def hasPendingAssignment : Bool :=
  store.reservations.any fun stored => decide (stored.reservation.agentInstanceId = claim.agentInstanceId ∧
    stored.reservation.catalogId = claim.catalogId ∧ stored.reservation.state = .reserved)

def persistReservation (reservation : RoomReservation) : LobbyStore :=
  { store with reservations := store.reservations.map fun stored =>
      if stored.reservation.id = reservation.id then { stored with reservation } else stored }

def persistRoom (room : RoomInstance) : LobbyStore :=
  { store with rooms := store.rooms.map fun other => if other.id = room.id then room else other }

def replayReservation (stored : StoredReservation) : Except RepositoryErrorKind RoomReservationOutcome := do
  ensure .conflict (isReplayOf claim stored)
  let room ← orElse .notFound (store.room stored.reservation.roomInstanceId)
  match stored.reservation.state with
  | .reserved => .ok (.reserved stored.reservation room)
  | .committed => .ok (.existingAssignment stored.reservation room)
  | .released | .expired => .error .conflict

def takeSlot (room : RoomInstance) : Except RepositoryErrorKind (RoomReservationOutcome × LobbyStore) := do
  let taken ← room.reserveSlot.mapError mapDomainError
  let reservation ← (newReservation claim taken).mapError mapDomainError
  let persisted := store.persistRoom taken
  return (.reserved reservation taken, { persisted with reservations := persisted.reservations ++ [⟨reservation, claim.agentId⟩] })

def reserveNew (catalog : RoomCatalog) : Except RepositoryErrorKind (RoomReservationOutcome × LobbyStore) := do
  ensure .conflict (store.hasPendingAssignment claim = false)
  let candidates := store.lockCandidates catalog claim
  let decision ← chooseCandidate claim candidates
  match decision with
  | .provisionNew => return (.provisioningRequired catalog, store)
  | .reserve selected =>
    let candidate ← orElse .corruptData (candidates.find? fun candidate => decide (candidate.room.id = selected))
    store.takeSlot claim candidate.room

def reserveRoom : Except RepositoryErrorKind (RoomReservationOutcome × LobbyStore) := do
  ensure .forbidden (store.authorized claim.agentId claim.agentInstanceId)
  let catalog ← orElse .notFound (store.catalog claim.catalogId)
  ensureAllocatableCatalog claim catalog
  match store.reservation claim.reservationId with
  | some stored => do
    let outcome ← store.replayReservation claim stored
    return (outcome, store)
  | none =>
    match (store.currentAssignment claim.agentInstanceId claim.catalogId none).filter fun stored =>
        satisfiesMode stored.reservation claim.mode with
    | some stored => do
      let room ← orElse .notFound (store.room stored.reservation.roomInstanceId)
      return (.existingAssignment stored.reservation room, store)
    | none => store.reserveNew claim catalog

def freeSlot (room : RoomInstance) : Except RepositoryErrorKind LobbyStore :=
  match room.releaseSlot with
  | .ok freed => .ok (store.persistRoom freed)
  | .error _ => .error .corruptData

def replaceAssignment (previous : StoredReservation) (now : UtcMillis) : Except RepositoryErrorKind LobbyStore :=
  match previous.reservation.release now with
  | .ok (some released) => do
    let room ← orElse .corruptData (store.room previous.reservation.roomInstanceId)
    let freed ← store.freeSlot room
    return freed.persistReservation released
  | _ => .error .corruptData

def commitReservation (stored : StoredReservation) (now : UtcMillis) : Except RepositoryErrorKind (RoomReservation × LobbyStore) := do
  let previous := store.currentAssignment stored.reservation.agentInstanceId stored.reservation.catalogId (some stored.reservation.id)
  let _ ← orElse .notFound (store.room stored.reservation.roomInstanceId)
  let _ ← previous.mapM fun other => orElse .notFound (store.room other.reservation.roomInstanceId)
  let changed ← (stored.reservation.commit now).mapError mapDomainError
  let committed := changed.getD stored.reservation
  let replaced ← match previous with
    | some other => store.replaceAssignment other now
    | none => .ok store
  return (committed, replaced.persistReservation committed)

def finalizeReservation (reservation : RoomReservation) (ending : RoomReservation → DomainResult (Option RoomReservation)) :
    Except RepositoryErrorKind (RoomReservation × LobbyStore) := do
  let room ← orElse .notFound (store.room reservation.roomInstanceId)
  let changed ← (ending reservation).mapError mapDomainError
  match changed with
  | none => return (reservation, store.persistReservation reservation)
  | some ended => do
    let freed ← store.freeSlot room
    return (ended, freed.persistReservation ended)

def transitionReservation (id : RoomReservationId) (expected target : RoomReservationState) (now : UtcMillis) :
    Except RepositoryErrorKind (RoomReservation × LobbyStore) := do
  let stored ← orElse .notFound (store.reservation id)
  if stored.reservation.state = target then return (stored.reservation, store)
  else do
    ensure .conflict (stored.reservation.state = expected)
    match target with
    | .committed => store.commitReservation stored now
    | .released => store.finalizeReservation stored.reservation (·.release now)
    | .expired => store.finalizeReservation stored.reservation (·.expire now)
    | .reserved => .error .constraint

end LobbyStore

section

variable (store : LobbyStore) (claim : RoomReservationClaim) (catalog : RoomCatalog)

inductive Reserves : RoomReservationOutcome → LobbyStore → Prop where
  | replayed (stored : StoredReservation) (room : RoomInstance) (outcome : RoomReservationOutcome)
      (found : store.reservation claim.reservationId = some stored) (same : isReplayOf claim stored = true)
      (place : store.room stored.reservation.roomInstanceId = some room)
      (answer : stored.reservation.state = .reserved ∧ outcome = .reserved stored.reservation room ∨
        stored.reservation.state = .committed ∧ outcome = .existingAssignment stored.reservation room) :
      Reserves outcome store
  | existing (stored : StoredReservation) (room : RoomInstance) (fresh : store.reservation claim.reservationId = none)
      (found : store.currentAssignment claim.agentInstanceId claim.catalogId none = some stored)
      (place : store.room stored.reservation.roomInstanceId = some room) :
      Reserves (.existingAssignment stored.reservation room) store
  | required (automatic : claim.mode = .automatic)
      (nothing : chooseRoomInstance (store.lockCandidates catalog claim) = .provisionNew) :
      Reserves (.provisioningRequired catalog) store
  | taken (room taken : RoomInstance) (reservation : RoomReservation) (fresh : store.reservation claim.reservationId = none)
      (idle : store.hasPendingAssignment claim = false) (there : room ∈ store.rooms) (mine : room.catalogId = catalog.id)
      (slot : room.reserveSlot = .ok taken) (made : newReservation claim taken = .ok reservation) :
      Reserves (.reserved reservation taken)
        { store.persistRoom taken with reservations := store.reservations ++ [⟨reservation, claim.agentId⟩] }

theorem map_domain_ok (result : DomainResult α) (value : α) :
    result.mapError mapDomainError = .ok value ↔ result = .ok value := by
  cases result with
  | ok found => simp [Except.mapError]
  | error failure => simp [Except.mapError]

theorem manual_chooses (mode : claim.mode = .manual target)
    (chosen : chooseCandidate claim candidates = .ok .provisionNew) : False := by
  unfold chooseCandidate at chosen
  rw [mode] at chosen
  obtain ⟨candidate, _, chosen⟩ := unbind chosen
  have chosen' := (map_domain_ok ..).mp chosen
  unfold chooseManualRoomInstance at chosen'
  split at chosen'
  · split at chosen'
    · cases chosen'
    · cases chosen'
  · cases chosen'

theorem take_slot_ok {room : RoomInstance} (took : store.takeSlot claim room = .ok (outcome, next)) :
    ∃ taken reservation, room.reserveSlot = .ok taken ∧ newReservation claim taken = .ok reservation ∧
      outcome = .reserved reservation taken ∧
      next = { store.persistRoom taken with reservations := store.reservations ++ [⟨reservation, claim.agentId⟩] } := by
  obtain ⟨taken, slot, rest⟩ := unbind took
  obtain ⟨reservation, made, rest⟩ := unbind rest
  cases rest
  exact ⟨taken, reservation, (map_domain_ok ..).mp slot, (map_domain_ok ..).mp made, rfl, rfl⟩

theorem candidate_room (listed : candidate ∈ store.lockCandidates catalog claim) :
    candidate.room ∈ store.rooms ∧ isCandidate claim catalog candidate.room = true ∧
      candidate.affinity = buildAffinity claim catalog candidate.room := by
  obtain ⟨room, listed', rfl⟩ := List.mem_map.mp listed
  obtain ⟨there, fits⟩ := List.mem_filter.mp listed'
  exact ⟨there, fits, rfl⟩

theorem reserve_new_reserves (fresh : store.reservation claim.reservationId = none)
    (reserved : store.reserveNew claim catalog = .ok (outcome, next)) : Reserves store claim catalog outcome next := by
  obtain ⟨_, idle, rest⟩ := unbind reserved
  obtain ⟨decision, chosen, rest⟩ := unbind rest
  cases decision with
  | provisionNew =>
    cases rest
    cases mode : claim.mode with
    | automatic =>
      refine .required mode ?_
      unfold chooseCandidate at chosen
      rw [mode] at chosen
      exact Except.ok.inj chosen
    | manual target => exact (manual_chooses claim mode chosen).elim
  | reserve selected =>
    obtain ⟨candidate, found, rest⟩ := unbind rest
    obtain ⟨taken, reservation, slot, made, rfl, rfl⟩ := take_slot_ok store claim rest
    have listed := List.mem_of_find?_eq_some ((or_else_ok ..).mp found)
    obtain ⟨there, fits, _⟩ := candidate_room store claim catalog listed
    have mine := of_decide_eq_true ((Bool.and_eq_true ..).mp fits).1
    exact .taken candidate.room taken reservation fresh ((ensure_ok ..).mp idle) there mine slot made

theorem reserve_reserves (reserved : store.reserveRoom claim = .ok (outcome, next)) :
    ∃ catalog, store.catalog claim.catalogId = some catalog ∧ Reserves store claim catalog outcome next := by
  obtain ⟨_, _, rest⟩ := unbind reserved
  obtain ⟨catalog, found, rest⟩ := unbind rest
  obtain ⟨_, _, rest⟩ := unbind rest
  refine ⟨catalog, (or_else_ok ..).mp found, ?_⟩
  cases known : store.reservation claim.reservationId with
  | some stored =>
    simp only [known] at rest
    obtain ⟨answer, replayed, rest⟩ := unbind rest
    cases rest
    obtain ⟨_, same, replayed⟩ := unbind replayed
    obtain ⟨room, place, replayed⟩ := unbind replayed
    refine .replayed stored room _ known ((ensure_ok ..).mp same) ((or_else_ok ..).mp place) ?_
    cases state : stored.reservation.state with
    | reserved =>
      rw [state] at replayed
      exact .inl ⟨rfl, (Except.ok.inj replayed).symm⟩
    | committed =>
      rw [state] at replayed
      exact .inr ⟨rfl, (Except.ok.inj replayed).symm⟩
    | released | expired =>
      rw [state] at replayed
      cases replayed
  | none =>
    simp only [known] at rest
    cases current : (store.currentAssignment claim.agentInstanceId claim.catalogId none).filter fun stored =>
        satisfiesMode stored.reservation claim.mode with
    | some stored =>
      simp only [current] at rest
      obtain ⟨room, place, rest⟩ := unbind rest
      cases rest
      exact .existing stored room known (Option.filter_eq_some_iff.mp current).1 ((or_else_ok ..).mp place)
    | none =>
      simp only [current] at rest
      exact reserve_new_reserves store claim catalog known rest

end

end AgentRoom.Lobby
