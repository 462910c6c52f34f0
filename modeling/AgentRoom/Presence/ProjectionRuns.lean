import AgentRoom.Library.Runs
import AgentRoom.Presence.Projection

namespace AgentRoom.Presence

open Library

inductive ProjectionCall where
  | apply (batch : PresenceProjectionBatch)
  | recordFetched (userId : MatrixUserId) (presence : Option MatrixUserPresence) (fetchedAt : UtcMillis)

def PresenceProjectionState.call (state : PresenceProjectionState) : ProjectionCall → PresenceProjectionState
  | .apply batch => state.applySync batch
  | .recordFetched userId presence fetchedAt => state.recordFetchedPresence userId presence fetchedAt

-- What a room was given since it last started afresh: the statuses of its
-- members, and the instances one of whose members was away since.
structure RoomHistory where
  applied : List ProjectedAgentPresence
  departed : List Nat

def RoomHistory.default : RoomHistory := ⟨[], []⟩

def openHistory (update : PresenceRoomProjection) (found : RoomHistory) : RoomHistory :=
  if update.mode = .replace then RoomHistory.default else found

def acceptedStatuses (update : PresenceRoomProjection) (room : RoomPresenceState) : List ProjectedAgentPresence :=
  update.presences.filter (·.identity.matrixUserId ∈ membersAfter update room)

def departedBy (update : PresenceRoomProjection) (room : RoomPresenceState) (history : RoomHistory) : List Nat :=
  history.departed ++ (history.applied.filter (·.identity.matrixUserId ∉ membersAfter update room)).map instanceKey

def updateHistory (update : PresenceRoomProjection) (room : RoomPresenceState) (history : RoomHistory) : RoomHistory :=
  ⟨history.applied ++ acceptedStatuses update room, departedBy update room history⟩

structure ProjectionWorld where
  state : PresenceProjectionState
  history : MatrixRoomId → RoomHistory

namespace ProjectionWorld

def start : ProjectionWorld := ⟨PresenceProjectionState.default, fun _ => RoomHistory.default⟩

def found (world : ProjectionWorld) (update : PresenceRoomProjection) : RoomPresenceState :=
  openRoom update (world.state.rooms update.roomId)

def known (world : ProjectionWorld) (update : PresenceRoomProjection) : RoomHistory :=
  openHistory update (world.history update.roomId)

def applyUpdate (world : ProjectionWorld) (update : PresenceRoomProjection) : ProjectionWorld where
  state := world.state.applyUpdate update
  history := Function.update world.history update.roomId <|
    if update.mode = .remove then RoomHistory.default else updateHistory update (world.found update) (world.known update)

def observeUsers (world : ProjectionWorld) (update : Option MatrixPresenceUpdate) : ProjectionWorld :=
  { world with state := world.state.observeUsers update }

def call (world : ProjectionWorld) : ProjectionCall → ProjectionWorld
  | .apply batch => batch.rooms.foldl applyUpdate (world.observeUsers batch.presence)
  | .recordFetched userId presence fetchedAt =>
    { world with state := world.state.recordFetchedPresence userId presence fetchedAt }

def step (world : ProjectionWorld) (input : ProjectionCall) (next : ProjectionWorld) : Prop := next = world.call input

theorem apply_updates_state (world : ProjectionWorld) (updates : List PresenceRoomProjection) :
    (updates.foldl applyUpdate world).state = updates.foldl PresenceProjectionState.applyUpdate world.state := by
  induction updates generalizing world with
  | nil => rfl
  | cons update rest ih => exact ih (world.applyUpdate update)

-- The history is never read by the projection.
theorem call_state (world : ProjectionWorld) (input : ProjectionCall) : (world.call input).state = world.state.call input := by
  cases input with
  | apply batch => exact apply_updates_state (world.observeUsers batch.presence) batch.rooms
  | recordFetched => rfl

-- A listed status is not older than one of its instance that was applied while
-- all members the instance was seen with stayed.
def NeverBack (world : ProjectionWorld) : Prop :=
  ∀ query entry, entry ∈ world.state.listSync query → instanceKey entry.presence ∉ (world.history query.roomId).departed →
    ∀ earlier ∈ (world.history query.roomId).applied, instanceKey earlier = instanceKey entry.presence →
      statusIsNewer earlier entry.presence = false

-- An update that brings statuses of an instance without an entry brings one
-- that is not older than any applied before.
def BringsLatest (world : ProjectionWorld) (update : PresenceRoomProjection) : Prop :=
  ∀ brought ∈ acceptedStatuses update (world.found update),
    (retainedInstances update (world.found update)).get (instanceKey brought) = none →
    instanceKey brought ∉ departedBy update (world.found update) (world.known update) →
    ∀ earlier ∈ (world.known update).applied, instanceKey earlier = instanceKey brought →
      ∃ latest ∈ acceptedStatuses update (world.found update),
        instanceKey latest = instanceKey brought ∧ statusIsNewer earlier latest = false

def UpdatesBringLatest (world : ProjectionWorld) : List PresenceRoomProjection → Prop
  | [] => True
  | update :: rest => (update.mode ≠ .remove → world.BringsLatest update) ∧ (world.applyUpdate update).UpdatesBringLatest rest

def CallBringsLatest (world : ProjectionWorld) : ProjectionCall → Prop
  | .apply batch => (world.observeUsers batch.presence).UpdatesBringLatest batch.rooms
  | .recordFetched .. => True

instance (world : ProjectionWorld) (update : PresenceRoomProjection) : Decidable (world.BringsLatest update) := by
  unfold BringsLatest
  infer_instance

instance decideUpdates (world : ProjectionWorld) :
    (updates : List PresenceRoomProjection) → Decidable (world.UpdatesBringLatest updates)
  | [] => inferInstanceAs (Decidable True)
  | update :: rest =>
    have := decideUpdates (world.applyUpdate update) rest
    inferInstanceAs (Decidable (_ ∧ _))

instance (world : ProjectionWorld) (input : ProjectionCall) : Decidable (world.CallBringsLatest input) :=
  match input with
  | .apply batch => decideUpdates (world.observeUsers batch.presence) batch.rooms
  | .recordFetched .. => inferInstanceAs (Decidable True)

end ProjectionWorld

open ProjectionWorld

def Newest (room : RoomPresenceState) (history : RoomHistory) : Prop :=
  ∀ presence ∈ room.instances.items, instanceKey presence ∉ history.departed →
    ∀ earlier ∈ history.applied, instanceKey earlier = instanceKey presence → statusRank earlier ≤ statusRank presence

theorem newest_default {history : RoomHistory} : Newest RoomPresenceState.default history := by
  intro presence listed
  cases listed

theorem open_newest (update : PresenceRoomProjection) {found : Option RoomPresenceState} {history : RoomHistory}
    (kept : ∀ room, found = some room → Newest room history) : Newest (openRoom update found) (openHistory update history) := by
  by_cases full : update.mode = .replace
  · rw [openRoom, if_pos full]
    exact newest_default
  · rw [openRoom, openHistory, if_neg full, if_neg full]
    cases found with
    | none => exact newest_default
    | some room => exact kept room rfl

section

variable {world : ProjectionWorld} {update : PresenceRoomProjection}

theorem update_room_entry (listed : presence ∈ (updateRoom world.state.presence update (world.found update)).instances.items) :
    (presence ∈ acceptedStatuses update (world.found update) ∨ presence ∈ (retainedInstances update (world.found update)).items) ∧
      OrderedMap.Unbeaten instanceKey statusRank presence
        (acceptedStatuses update (world.found update) ++ (retainedInstances update (world.found update)).items) := by
  have observed := compaction_keeps_source listed
  simp only [observe_presences_offer] at observed
  exact ⟨OrderedMap.offers_source statusRank _ _ presence observed, OrderedMap.offers_unbeaten statusRank _ _ presence observed⟩

theorem update_room_newest (before : Newest (world.found update) (world.known update)) (latest : world.BringsLatest update) :
    Newest (updateRoom world.state.presence update (world.found update))
      (updateHistory update (world.found update) (world.known update)) := by
  intro presence listed stayed earlier applied same
  obtain ⟨source, unbeaten⟩ := update_room_entry listed
  have stayedBefore : instanceKey presence ∉ (world.known update).departed :=
    fun gone => stayed (List.mem_append_left _ gone)
  rcases List.mem_append.mp applied with old | brought
  · cases held : (retainedInstances update (world.found update)).get (instanceKey presence) with
    | some entry =>
      obtain ⟨kept, at_⟩ := OrderedMap.get_item _ _ entry held
      have foundEntry := ((OrderedMap.mem_retain ..).mp kept).1
      have above := before entry foundEntry (at_ ▸ stayedBefore) earlier old (same.trans at_.symm)
      exact le_trans above (unbeaten entry (List.mem_append_right _ kept) at_)
    | none =>
      have brought : presence ∈ acceptedStatuses update (world.found update) :=
        source.resolve_right (OrderedMap.get_none _ presence held)
      obtain ⟨top, among, at_, notOlder⟩ := latest presence brought held stayed earlier old same
      exact le_trans ((status_not_newer_iff ..).mp notOlder) (unbeaten top (List.mem_append_left _ among) at_)
  · exact unbeaten earlier (List.mem_append_left _ brought) same

end

def RoomsNewest (world : ProjectionWorld) : Prop :=
  ∀ roomId room, world.state.rooms roomId = some room → Newest room (world.history roomId)

theorem start_newest : RoomsNewest ProjectionWorld.start := by
  intro roomId room found
  cases found

theorem apply_update_newest {world : ProjectionWorld} (update : PresenceRoomProjection) (before : RoomsNewest world)
    (latest : update.mode ≠ .remove → world.BringsLatest update) : RoomsNewest (world.applyUpdate update) := by
  intro roomId room found
  unfold ProjectionWorld.applyUpdate PresenceProjectionState.applyUpdate at *
  by_cases gone : update.mode = .remove
  · simp only [if_pos gone] at found ⊢
    by_cases here : roomId = update.roomId
    · rw [here, Function.update_self] at found
      cases found
    · rw [Function.update_of_ne here] at found ⊢
      exact before roomId room found
  · simp only [if_neg gone] at found ⊢
    by_cases here : roomId = update.roomId
    · rw [here, Function.update_self, Option.some.injEq] at found
      rw [here, Function.update_self, ← found]
      exact update_room_newest (open_newest update (before update.roomId)) (latest gone)
    · rw [Function.update_of_ne here] at found ⊢
      exact before roomId room found

theorem apply_updates_newest (world : ProjectionWorld) (updates : List PresenceRoomProjection) (before : RoomsNewest world)
    (latest : world.UpdatesBringLatest updates) : RoomsNewest (updates.foldl ProjectionWorld.applyUpdate world) := by
  induction updates generalizing world with
  | nil => exact before
  | cons update rest ih => exact ih _ (apply_update_newest update before latest.1) latest.2

theorem call_newest {world : ProjectionWorld} {next : ProjectionWorld} (before : RoomsNewest world)
    (guarded : Guarded CallBringsLatest ProjectionWorld.step world input next) : RoomsNewest next := by
  obtain ⟨latest, stepped⟩ := guarded
  rw [stepped]
  cases input with
  | apply batch => exact apply_updates_newest (world.observeUsers batch.presence) batch.rooms before latest
  | recordFetched => exact before

theorem newest_never_back (world : ProjectionWorld) (newest : RoomsNewest world) : world.NeverBack := by
  intro query entry listed stayed earlier applied same
  obtain ⟨room, found, shown⟩ := list_sync_shows listed
  exact (status_not_newer_iff ..).mpr (newest query.roomId room found entry.presence shown stayed earlier applied same)

-- Where every update that brings statuses of an instance whose entry compaction
-- removed brings one at least as new as before, the projection never goes back.
theorem presence_projection_never_back (calls : List ProjectionCall) (final : ProjectionWorld)
    (run : Runs (Guarded CallBringsLatest ProjectionWorld.step) ProjectionWorld.start calls final) : final.NeverBack :=
  newest_never_back final <|
    runs_invariant RoomsNewest (fun _ _ _ before guarded => call_newest before guarded) start_newest run

def adaStatus (session : Nat) (event : String) (timestamp : UInt64) (status : AgentWorkStatus) (published : UtcMillis) :
    ProjectedAgentPresence where
  eventId := ⟨event⟩
  roomId := ⟨"!lobby:example.org"⟩
  identity := { adaIdentity with agentInstanceId := ⟨session⟩ }
  status := status
  observedAt := 1000
  leaseExpiresAt := 60000
  originServerTimestamp := timestamp
  publishedAt := published
  lastPolledAt := none
  listeningUntil := none
  receptionKnown := false
  card := false

def adaWorking : ProjectedAgentPresence := adaStatus 1 "$working:example.org" 10 .working 500

def adaStopped : ProjectedAgentPresence := adaStatus 1 "$stopped:example.org" 20 .offline 600

def adaElsewhere : ProjectedAgentPresence := adaStatus 2 "$elsewhere:example.org" 15 .offline 700

def adaJoins (presences : List ProjectedAgentPresence) : PresenceProjectionBatch :=
  ⟨[⟨⟨"!lobby:example.org"⟩, .replace, [⟨adaIdentity.matrixUserId, true⟩], presences, none⟩], none⟩

def adaReports (presences : List ProjectedAgentPresence) : PresenceProjectionBatch :=
  ⟨[⟨⟨"!lobby:example.org"⟩, .delta, [], presences, none⟩], none⟩

def lobbyQuery : PresenceQuery := ⟨⟨"!lobby:example.org"⟩, [], 1500, Nat.zero_le _⟩

-- A session that stopped is dropped for a later one of the same Agent that
-- stopped too; its first status, delivered again, is shown as current.
theorem redelivered_status_reappears :
    ¬ ∀ calls final, Runs ProjectionWorld.step ProjectionWorld.start calls final → final.NeverBack := by
  intro claimed
  let calls : List ProjectionCall :=
    [.apply (adaJoins [adaWorking]), .apply (adaReports [adaStopped, adaElsewhere]), .apply (adaReports [adaWorking])]
  have never := claimed calls _ ((foldl_runs ProjectionWorld.call ..).mpr rfl) lobbyQuery
  have shown : adaWorking ∈ ((calls.foldl ProjectionWorld.call ProjectionWorld.start).state.listSync lobbyQuery).map
      (·.presence) := by decide +kernel
  obtain ⟨entry, listed, same⟩ := List.mem_map.mp shown
  have older := never entry listed (by rw [same]; decide +kernel) adaStopped (by decide +kernel) (by rw [same]; rfl)
  rw [same] at older
  exact absurd older (by decide +kernel)

theorem out_of_order_status_stays_hidden :
    (([.apply (adaJoins [adaStopped]), .apply (adaReports [adaWorking])] : List ProjectionCall).foldl ProjectionWorld.call
      ProjectionWorld.start).NeverBack := by
  refine presence_projection_never_back [.apply (adaJoins [adaStopped]), .apply (adaReports [adaWorking])] _ ?_
  exact ⟨_, ⟨by decide +kernel, rfl⟩, _, ⟨by decide +kernel, rfl⟩, rfl⟩

end AgentRoom.Presence
