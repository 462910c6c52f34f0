import AgentRoom.Library.OrderedMap
import AgentRoom.Presence.Sync

namespace AgentRoom.Presence

open Library

def recentOfflineLimit : Nat := 100

def defaultArchiveAfterDays : Nat := 7

def AgentRosterPolicy.default : AgentRosterPolicy := ⟨defaultArchiveAfterDays, by decide⟩

structure PresenceObservation where
  presence : ProjectedAgentPresence
  status : AgentWorkStatus
  observedAt : UtcMillis
  lifecycle : AgentLifecycle
  lastActiveAt : Int
  lastPolledAt : Option Int
  listeningUntil : Option Int
  archiveAfterDays : Nat

structure ObservedInstance where
  presence : ProjectedAgentPresence
  observed : Option MatrixPresenceObservation

namespace ObservedInstance

def evidence (entry : ObservedInstance) : AgentPresenceEvidence := entry.presence.evidenceWith entry.observed

def online (entry : ObservedInstance) (now : UtcMillis) (days : Nat) : Bool :=
  (entry.evidence.lifecycle now.toInt days).connection = .online

end ObservedInstance

def connectionTier : AgentConnection → Nat
  | .online => 2
  | .reconnecting => 1
  | .offline => 0

def workTier : AgentWorkStatus → Nat
  | .blocked => 5
  | .waitingInput => 4
  | .working => 3
  | .completed => 2
  | .idle => 1
  | .offline => 0

-- An identifier's text has a fixed length and lower case digits, so it is
-- compared like the number.
def priority (entry : ObservedInstance) (now : UtcMillis) : Nat ×ₗ Nat ×ₗ Int ×ₗ Nat :=
  let connection := (entry.evidence.lifecycle now.toInt 7).connection
  let work := if connection = .online then workTier entry.presence.status else 0
  toLex (connectionTier connection, toLex (work, toLex (entry.presence.publishedAt.toInt,
    entry.presence.identity.agentInstanceId.uuid)))

def byPriority (now : UtcMillis) (instances : List ObservedInstance) : List ObservedInstance :=
  instances.insertionSort fun first second => priority second now ≤ priority first now

def projectPrimary (primary : ObservedInstance) (instances : List ObservedInstance) (now : UtcMillis)
    (policy : AgentRosterPolicy) : PresenceObservation :=
  let days := policy.archiveAfterDays
  let online := instances.filter (·.online now days)
  let evidence : AgentPresenceEvidence := {
    primary.evidence with
    lastActiveAt := (instances.map fun entry => entry.presence.publishedAt.toInt).max?.getD primary.evidence.lastActiveAt
    lastPolledAt := (online.filterMap fun entry => entry.evidence.lastPolledAt).max?
    listeningUntil := (online.filterMap fun entry => entry.evidence.listeningUntil).max?
    receptionKnown := online.any fun entry => entry.presence.receptionKnown }
  let lifecycle := evidence.lifecycle now.toInt days
  let active := if primary.presence.card then primary.observed.bind (·.lastActiveAt) else none
  { presence := primary.presence
    status := if lifecycle.connection = .online then primary.presence.status else .offline
    observedAt := now
    lifecycle
    lastActiveAt := active.elim evidence.lastActiveAt (max · evidence.lastActiveAt)
    lastPolledAt := evidence.lastPolledAt
    listeningUntil := evidence.listeningUntil
    archiveAfterDays := days }

def projectAgent (instances : List ObservedInstance) (now : UtcMillis) (policy : AgentRosterPolicy) :
    Option PresenceObservation :=
  (byPriority now instances).head?.map fun primary => projectPrimary primary instances now policy

def lastSeen (entry : PresenceObservation) : Int :=
  if entry.presence.card then entry.lifecycle.offlineSince.getD entry.lastActiveAt else entry.lastActiveAt

def recentFirst (entries : List PresenceObservation) : List PresenceObservation :=
  entries.insertionSort fun first second =>
    lastSeen second < lastSeen first ∨
      (lastSeen first = lastSeen second ∧ first.presence.identity.agentId.uuid ≤ second.presence.identity.agentId.uuid)

def beyondCapacity (entries : List PresenceObservation) : List AgentId :=
  let offline := entries.filter fun entry => entry.lifecycle.connection = .offline ∧ entry.lifecycle.archiveReason = none
  ((recentFirst offline).drop recentOfflineLimit).map (·.presence.identity.agentId)

def archiveWhere (archived : AgentId → Bool) (entry : PresenceObservation) : PresenceObservation :=
  if archived entry.presence.identity.agentId then
    { entry with lifecycle := { entry.lifecycle with archiveReason := some .capacity } }
  else entry

instance agentIdLawful : LawfulBEq AgentId := inferInstance

def archiveBeyondCapacity (entries : List PresenceObservation) : List PresenceObservation :=
  let beyond := beyondCapacity entries
  entries.map (archiveWhere fun agentId => agentId ∈ beyond)

section

variable (presences : List ProjectedAgentPresence) (now : UtcMillis) (policy : AgentRosterPolicy)
  (matrixPresence : MatrixUserId → Option MatrixPresenceObservation)

def observedInstances (agentId : AgentId) : List ObservedInstance :=
  (presences.filter fun presence => presence.identity.agentId = agentId).map fun presence =>
    ⟨presence, matrixPresence presence.identity.matrixUserId⟩

def listedAgents : List AgentId := collectMembers (·.uuid) (presences.map (·.identity.agentId))

def projectRosterWithPresence : List PresenceObservation :=
  archiveBeyondCapacity ((listedAgents presences).filterMap fun agentId =>
    projectAgent (observedInstances presences matrixPresence agentId) now policy)

variable {entry : PresenceObservation}

theorem project_agent_primary {instances : List ObservedInstance}
    (projected : projectAgent instances now policy = some entry) : ∃ primary ∈ instances, entry.presence = primary.presence := by
  obtain ⟨primary, first, built⟩ := Option.map_eq_some_iff.mp projected
  have sorted : primary ∈ byPriority now instances := List.mem_of_mem_head? first
  exact ⟨primary, (List.mem_insertionSort _).mp sorted, by rw [← built]; rfl⟩

theorem archive_presence
    (listed : entry ∈ archiveBeyondCapacity entries) : ∃ before ∈ entries, entry.presence = before.presence := by
  obtain ⟨before, among, built⟩ := List.mem_map.mp listed
  refine ⟨before, among, ?_⟩
  rw [← built, archiveWhere]
  split <;> rfl

theorem roster_shows_instance
    (listed : entry ∈ projectRosterWithPresence presences now policy matrixPresence) : entry.presence ∈ presences := by
  obtain ⟨before, among, shown⟩ := archive_presence listed
  obtain ⟨agentId, _, projected⟩ := List.mem_filterMap.mp among
  obtain ⟨primary, member, same⟩ := project_agent_primary now policy projected
  obtain ⟨presence, kept, built⟩ := List.mem_map.mp member
  rw [shown, same, ← built]
  exact List.mem_of_mem_filter kept

end

open Library

def instanceKey (presence : ProjectedAgentPresence) : Nat := presence.identity.agentInstanceId.uuid

structure RoomPresenceState where
  joinedMembers : List MatrixUserId
  instances : OrderedMap instanceKey
  policy : AgentRosterPolicy

def RoomPresenceState.default : RoomPresenceState := ⟨[], OrderedMap.empty instanceKey, AgentRosterPolicy.default⟩

structure PresenceProjectionState where
  rooms : MatrixRoomId → Option RoomPresenceState
  presence : MatrixPresenceTracker

def PresenceProjectionState.default : PresenceProjectionState := ⟨fun _ => none, MatrixPresenceTracker.default⟩

def statusIsNewer (candidate current : ProjectedAgentPresence) : Bool :=
  current.originServerTimestamp < candidate.originServerTimestamp ||
    (candidate.originServerTimestamp = current.originServerTimestamp && current.eventId.value < candidate.eventId.value)

def changeMember (members : List MatrixUserId) (change : PresenceMembershipChange) : List MatrixUserId :=
  if change.joined then members.insert change.matrixUserId else members.filter (· ≠ change.matrixUserId)

def observePresence (joined : List MatrixUserId) (instances : OrderedMap instanceKey) (presence : ProjectedAgentPresence) :
    OrderedMap instanceKey :=
  if presence.identity.matrixUserId ∈ joined then
    if (instances.get (instanceKey presence)).all (statusIsNewer presence) then instances.insert presence else instances
  else instances

section

variable (instances : List ProjectedAgentPresence) (policy : AgentRosterPolicy) (tracker : MatrixPresenceTracker)

def disconnected (now : Int) (presence : ProjectedAgentPresence) : Bool :=
  ((presence.evidenceWith (tracker.observation presence.identity.matrixUserId)).lifecycle now
    policy.archiveAfterDays).connection = .offline

def compactionOrder (presence : ProjectedAgentPresence) : Int ×ₗ Nat :=
  toLex (presence.publishedAt.toInt, instanceKey presence)

def latestDisconnected (now : Int) (agentId : AgentId) : Option (Int ×ₗ Nat) :=
  ((instances.filter fun presence => disconnected policy tracker now presence ∧ presence.identity.agentId = agentId).map
    compactionOrder).max?

def keptByCompaction (now : Int) (presence : ProjectedAgentPresence) : Bool :=
  !disconnected policy tracker now presence ||
    (latestDisconnected instances policy tracker now presence.identity.agentId).any fun latest =>
      (ofLex latest).2 = instanceKey presence

end

def compactDisconnectedInstances (room : RoomPresenceState) (tracker : MatrixPresenceTracker) : RoomPresenceState :=
  match (room.instances.items.map fun presence => presence.observedAt.toInt).max? with
  | none => room
  | some now => { room with
      instances := room.instances.retain (keptByCompaction room.instances.items room.policy tracker now) }

-- What an update finds, after a full state has emptied the room.
def openRoom (update : PresenceRoomProjection) (found : Option RoomPresenceState) : RoomPresenceState :=
  if update.mode = .replace then RoomPresenceState.default else found.getD RoomPresenceState.default

def membersAfter (update : PresenceRoomProjection) (room : RoomPresenceState) : List MatrixUserId :=
  update.memberships.foldl changeMember room.joinedMembers

def retainedInstances (update : PresenceRoomProjection) (room : RoomPresenceState) : OrderedMap instanceKey :=
  room.instances.retain fun presence => presence.identity.matrixUserId ∈ membersAfter update room

def updateRoom (tracker : MatrixPresenceTracker) (update : PresenceRoomProjection) (room : RoomPresenceState) :
    RoomPresenceState :=
  let joined := membersAfter update room
  let observed : RoomPresenceState := {
    joinedMembers := joined
    instances := update.presences.foldl (observePresence joined) (retainedInstances update room)
    policy := update.policy.getD room.policy }
  compactDisconnectedInstances observed tracker

namespace PresenceProjectionState

variable (state : PresenceProjectionState)

def applyUpdate (update : PresenceRoomProjection) : PresenceProjectionState :=
  if update.mode = .remove then { state with rooms := Function.update state.rooms update.roomId none }
  else
    let room := updateRoom state.presence update (openRoom update (state.rooms update.roomId))
    { state with rooms := Function.update state.rooms update.roomId (some room) }

def observeUsers (update : Option MatrixPresenceUpdate) : PresenceProjectionState :=
  { state with presence := update.elim state.presence state.presence.applySync }

def applySync (batch : PresenceProjectionBatch) : PresenceProjectionState :=
  batch.rooms.foldl applyUpdate (state.observeUsers batch.presence)

def recordFetchedPresence (userId : MatrixUserId) (presence : Option MatrixUserPresence)
    (fetchedAt : UtcMillis) : PresenceProjectionState :=
  { state with presence := state.presence.recordFetched userId presence fetchedAt }

end PresenceProjectionState

def maximumPresenceTargets : Nat := 50

structure PresenceQuery where
  roomId : MatrixRoomId
  agentIds : List AgentId
  observedAt : UtcMillis
  bounded : agentIds.length ≤ maximumPresenceTargets

def PresenceQuery.new (roomId : MatrixRoomId) (agentIds : List AgentId) (observedAt : UtcMillis) : Option PresenceQuery :=
  let targets := collectMembers (·.uuid) agentIds
  if bounded : targets.length ≤ maximumPresenceTargets then some ⟨roomId, targets, observedAt, bounded⟩ else none

def PresenceProjectionState.listSync (state : PresenceProjectionState) (query : PresenceQuery) : List PresenceObservation :=
  match state.rooms query.roomId with
  | none => []
  | some room =>
    (projectRosterWithPresence room.instances.items query.observedAt room.policy state.presence.observation).filter
      fun entry => query.agentIds = [] ∨ entry.presence.identity.agentId ∈ query.agentIds

def statusRank (presence : ProjectedAgentPresence) : Nat ×ₗ String :=
  toLex (presence.originServerTimestamp.toNat, presence.eventId.value)

theorem status_is_newer_iff (candidate current : ProjectedAgentPresence) :
    statusIsNewer candidate current = true ↔ statusRank current < statusRank candidate := by
  simp only [statusIsNewer, statusRank, Prod.Lex.toLex_lt_toLex, Bool.or_eq_true, Bool.and_eq_true, decide_eq_true_eq,
    UInt64.lt_iff_toNat_lt, ← UInt64.toNat_inj]
  constructor
  · rintro (later | ⟨same, later⟩)
    · exact .inl later
    · exact .inr ⟨same.symm, later⟩
  · rintro (later | ⟨same, later⟩)
    · exact .inl later
    · exact .inr ⟨same.symm, later⟩

theorem status_not_newer_iff (candidate current : ProjectedAgentPresence) :
    statusIsNewer candidate current = false ↔ statusRank candidate ≤ statusRank current := by
  rw [← not_lt, ← status_is_newer_iff, Bool.not_eq_true]

section

variable {joined : List MatrixUserId}

theorem observe_presence_offer (instances : OrderedMap instanceKey) (presence : ProjectedAgentPresence) :
    observePresence joined instances presence =
      if presence.identity.matrixUserId ∈ joined then instances.offer statusRank presence else instances := by
  have newest : (instances.get (instanceKey presence)).all (statusIsNewer presence) = instances.outranks statusRank presence := by
    rw [OrderedMap.outranks]
    congr 1
    funext held
    rw [Bool.eq_iff_iff, status_is_newer_iff, decide_eq_true_eq]
  rw [observePresence, newest, OrderedMap.offer]

theorem observe_presences_offer (instances : OrderedMap instanceKey) (presences : List ProjectedAgentPresence) :
    presences.foldl (observePresence joined) instances =
      (presences.filter (·.identity.matrixUserId ∈ joined)).foldl (OrderedMap.offer statusRank) instances := by
  induction presences generalizing instances with
  | nil => rfl
  | cons presence rest ih =>
    rw [List.foldl_cons, observe_presence_offer, ih]
    by_cases member : presence.identity.matrixUserId ∈ joined
    · rw [if_pos member, List.filter_cons_of_pos (by simpa using member), List.foldl_cons]
    · rw [if_neg member, List.filter_cons_of_neg (by simpa using member)]

end

theorem compaction_keeps_source {tracker : MatrixPresenceTracker} {presence : ProjectedAgentPresence}
    (listed : presence ∈ (compactDisconnectedInstances room tracker).instances.items) : presence ∈ room.instances.items := by
  unfold compactDisconnectedInstances at listed
  split at listed
  · exact listed
  · exact ((room.instances.mem_retain _ presence).mp listed).1

theorem list_sync_shows {state : PresenceProjectionState} {entry : PresenceObservation} (listed : entry ∈ state.listSync query) :
    ∃ room, state.rooms query.roomId = some room ∧ entry.presence ∈ room.instances.items := by
  unfold PresenceProjectionState.listSync at listed
  cases found : state.rooms query.roomId with
  | none => simp [found] at listed
  | some room =>
    rw [found] at listed
    exact ⟨room, rfl, roster_shows_instance _ _ _ _ (List.mem_of_mem_filter listed)⟩

end AgentRoom.Presence
