import AgentRoom.Presence.Sync

namespace AgentRoom.Presence

open Library

def leaseCap (policy : PresenceLeasePolicy) (observedAt claimedExpiry : UtcMillis) : Int :=
  min (claimedExpiry.toInt + policy.allowedClockSkew.value)
    (observedAt.toInt + policy.maximumLease.value + policy.allowedClockSkew.value)

structure Capped (policy : PresenceLeasePolicy) (observedAt : UtcMillis) (event : MatrixTimelineEvent)
    (presence : ProjectedAgentPresence) (createdAt claimedExpiry : UtcMillis) : Prop where
  created : statedTime event.content "createdAt" = some createdAt
  claimed : statedTime event.content "leaseExpiresAt" = some claimedExpiry
  notFuture : createdAt.value ≤ observedAt.value + policy.allowedClockSkew.value
  notOnline : ∀ observation now archiveAfterDays, presence.card = false → leaseCap policy observedAt claimedExpiry ≤ now →
    ((presence.evidenceWith observation).lifecycle now archiveAfterDays).connection ≠ .online
  offline : ∀ observation now archiveAfterDays, presence.card = false →
    leaseCap policy observedAt claimedExpiry + reconnectGraceMs ≤ now →
    ((presence.evidenceWith observation).lifecycle now archiveAfterDays).connection = .offline

section

variable {presence : ProjectedAgentPresence} {observation : Option MatrixPresenceObservation} {now : Int}
  {archiveAfterDays : Nat}

theorem lease_lifecycle (lease : presence.card = false) :
    ((presence.evidenceWith observation).lifecycle now archiveAfterDays).connection =
      (presence.evidenceWith observation).leaseConnection now := by
  simp [AgentPresenceEvidence.lifecycle, ProjectedAgentPresence.evidenceWith, AgentPresenceEvidence.leaseState, lease]

theorem lease_past (past : presence.leaseExpiresAt.toInt ≤ now) :
    (presence.evidenceWith observation).leaseConnection now ≠ .online := by
  by_cases reported : presence.status = .offline
  · simp [AgentPresenceEvidence.leaseConnection, ProjectedAgentPresence.evidenceWith, reported]
  · have gone : ¬ now < presence.leaseExpiresAt.toInt := by omega
    by_cases grace : now < saturatingAdd presence.leaseExpiresAt.toInt reconnectGraceMs
    · simp [AgentPresenceEvidence.leaseConnection, ProjectedAgentPresence.evidenceWith, reported, gone, grace]
    · simp [AgentPresenceEvidence.leaseConnection, ProjectedAgentPresence.evidenceWith, reported, gone, grace]

theorem saturating_add_le (first second : Int) (bounded : i64Min ≤ first + second) :
    saturatingAdd first second ≤ first + second := by
  simp only [saturatingAdd, saturate]
  omega

theorem lease_lost (past : presence.leaseExpiresAt.toInt + reconnectGraceMs ≤ now) :
    (presence.evidenceWith observation).leaseConnection now = .offline := by
  have known : 0 ≤ presence.leaseExpiresAt.toInt := Int.natCast_nonneg _
  have grace : saturatingAdd presence.leaseExpiresAt.toInt reconnectGraceMs ≤ now := by
    have exact_ := saturating_add_le presence.leaseExpiresAt.toInt reconnectGraceMs
      (by simp [i64Min, reconnectGraceMs]; omega)
    omega
  by_cases reported : presence.status = .offline
  · simp [AgentPresenceEvidence.leaseConnection, ProjectedAgentPresence.evidenceWith, reported]
  · have gone : ¬ now < presence.leaseExpiresAt.toInt := by
      simp only [reconnectGraceMs] at past
      omega
    have late : ¬ now < saturatingAdd presence.leaseExpiresAt.toInt reconnectGraceMs := by omega
    simp [AgentPresenceEvidence.leaseConnection, ProjectedAgentPresence.evidenceWith, reported, gone, late]

theorem reported_offline (lease : presence.card = false) (reported : presence.status = .offline) :
    ((presence.evidenceWith observation).lifecycle now archiveAfterDays).connection = .offline := by
  rw [lease_lifecycle lease]
  simp [AgentPresenceEvidence.leaseConnection, ProjectedAgentPresence.evidenceWith, reported]

end

section

variable (codecs : Codecs) (authenticate : Authenticator) (policy : PresenceLeasePolicy) (observedAt : UtcMillis)

variable {event : MatrixTimelineEvent} {claimedExpiry createdAt : UtcMillis} {presence : ProjectedAgentPresence}
  {fullState : Bool} {progress : RoomProgress} {events : List MatrixTimelineEvent}

theorem evaluated_capped (evaluated : Evaluated policy event observedAt presence createdAt claimedExpiry) :
    Capped policy observedAt event presence createdAt claimedExpiry := by
  obtain ⟨notFuture, deadline⟩ := evaluate_lease_ok policy evaluated.lease
  have expires : presence.leaseExpiresAt.toInt = leaseCap policy observedAt claimedExpiry := by
    simp only [leaseCap, UtcMillis.toInt, deadline]
    omega
  refine ⟨evaluated.created, evaluated.claimed, notFuture, ?_, ?_⟩
  · intro observation now archiveAfterDays lease past
    rw [lease_lifecycle lease]
    exact lease_past (by omega)
  · intro observation now archiveAfterDays lease past
    rw [lease_lifecycle lease]
    exact lease_lost (by omega)

theorem revoked_capped (capped : Capped policy observedAt event presence createdAt claimedExpiry) :
    Capped policy observedAt event presence.revoked createdAt claimedExpiry := by
  refine ⟨capped.created, capped.claimed, capped.notFuture, ?_, ?_⟩
  · intro observation now archiveAfterDays lease past
    rw [reported_offline lease rfl]
    exact AgentConnection.noConfusion
  · intro observation now archiveAfterDays lease past
    exact reported_offline lease rfl

def Sourced (events : List MatrixTimelineEvent) (presences : List ProjectedAgentPresence) : Prop :=
  ∀ presence ∈ presences, ∃ event ∈ events, ∃ createdAt claimedExpiry,
    Capped policy observedAt event presence createdAt claimedExpiry

theorem sourced_accept (listed : event ∈ events) (capped : Capped policy observedAt event presence createdAt claimedExpiry)
    (sourced : Sourced policy observedAt events progress.presences) :
    Sourced policy observedAt events (progress.accept presence).presences := by
  intro other among
  rcases List.mem_append.mp among with old | new
  · exact sourced other old
  · rw [List.mem_singleton.mp new]
    exact ⟨event, listed, createdAt, claimedExpiry, capped⟩

variable {roomId : MatrixRoomId} {next : RoomProgress}

theorem observe_status_sourced (listed : event ∈ events) (sourced : Sourced policy observedAt events progress.presences)
    (observed : observeStatus codecs authenticate policy observedAt roomId progress event = .ok next) :
    Sourced policy observedAt events next.presences := by
  by_cases many : maximumStatusEventsPerRoom < progress.statusEvents + 1
  · simp only [observeStatus, if_pos many] at observed
    cases observed
    exact sourced
  · simp only [observeStatus, if_neg many] at observed
    cases parsed : parseStatus codecs roomId event observedAt policy with
    | error reason =>
      rw [parsed] at observed
      cases observed
      exact sourced
    | ok pending =>
      obtain ⟨createdAt, claimedExpiry, evaluated⟩ := parse_status_ok policy parsed
      have capped := evaluated_capped policy observedAt evaluated
      simp only [parsed] at observed
      cases decided : authenticate pending.presence.identity.agentId pending.presence.identity.agentInstanceId
          pending.originServerTimestamp pending.canonicalEvent pending.signature with
      | error kind =>
        rw [decided] at observed
        cases observed
      | ok decision =>
        rw [decided] at observed
        cases decision with
        | trusted =>
          cases observed
          exact sourced_accept policy observedAt listed capped sourced
        | trustedHistoricalRevoked =>
          cases observed
          exact sourced_accept policy observedAt listed
            (revoked_capped policy observedAt capped) sourced
        | _ =>
          cases observed
          exact sourced

theorem observe_event_sourced (listed : event ∈ events) (sourced : Sourced policy observedAt events progress.presences)
    (observed : observeEvent codecs authenticate policy observedAt roomId progress event = .ok next) :
    Sourced policy observedAt events next.presences := by
  by_cases roster : event.eventType = agentRosterPolicyEventType
  · simp only [observeEvent, if_pos roster] at observed
    cases parsed : parseRosterPolicy event with
    | some read =>
      rw [parsed] at observed
      cases observed
      exact sourced
    | none =>
      rw [parsed] at observed
      cases observed
      exact sourced
  · by_cases member : event.eventType = roomMemberEventType
    · simp only [observeEvent, if_neg roster, if_pos member] at observed
      cases parsed : parseMembership event with
      | ok change =>
        rw [parsed] at observed
        cases observed
        exact sourced
      | error reason =>
        rw [parsed] at observed
        cases observed
        exact sourced
    · by_cases status : event.eventType ≠ agentStatusEventType
      · simp only [observeEvent, if_neg roster, if_neg member, if_pos status] at observed
        cases observed
        exact sourced
      · simp only [observeEvent, if_neg roster, if_neg member, if_neg status] at observed
        exact observe_status_sourced codecs authenticate policy observedAt listed sourced
          observed

def RoomsSourced (rooms : List MatrixRoomSync) (updates : List PresenceRoomProjection) : Prop :=
  ∀ update ∈ updates, ∃ room ∈ rooms, update.roomId = room.roomId ∧
    Sourced policy observedAt (presenceStateEvents room) update.presences

theorem observe_room_sourced {progress next : SyncProgress}
    (listed : room ∈ rooms) (sourced : RoomsSourced policy observedAt rooms progress.roomUpdates)
    (observed : observeRoom codecs authenticate policy observedAt fullState progress room = .ok next) :
    RoomsSourced policy observedAt rooms next.roomUpdates := by
  by_cases outside : room.kind ≠ .joined
  · simp only [observeRoom, if_pos outside] at observed
    cases observed
    intro update among
    rcases List.mem_append.mp among with old | new
    · exact sourced update old
    · rw [List.mem_singleton.mp new]
      exact ⟨room, listed, rfl, fun presence none_ => (nomatch none_)⟩
  · simp only [observeRoom, if_neg outside, bind_ok] at observed
    obtain ⟨ended, folded, rest⟩ := observed
    have ends := fold_ok_invariant (observeEvent codecs authenticate policy observedAt room.roomId)
      (fun progress => Sourced policy observedAt (presenceStateEvents room) progress.presences) (presenceStateEvents room)
      (fun event among state after_ holds stepped => observe_event_sourced codecs authenticate policy observedAt among holds stepped) _ ended (fun presence none_ => absurd none_ List.not_mem_nil) folded
    cases rest
    intro update among
    rcases List.mem_append.mp among with old | new
    · exact sourced update old
    · rw [List.mem_singleton.mp new]
      exact ⟨room, listed, rfl, ends⟩

theorem project_sourced {batch : PresenceProjectionBatch}
    (projected : project codecs authenticate policy observedAt sync fullState = .ok (batch, outcome)) :
    RoomsSourced policy observedAt sync.rooms batch.rooms := by
  simp only [project, bind_ok] at projected
  obtain ⟨progress, folded, rest⟩ := projected
  cases rest
  exact fold_ok_invariant (observeRoom codecs authenticate policy observedAt fullState)
    (fun progress => RoomsSourced policy observedAt sync.rooms progress.roomUpdates) sync.rooms
    (fun room among state after_ holds stepped => observe_room_sourced codecs authenticate policy observedAt among holds stepped) _ progress (fun update none_ => absurd none_ List.not_mem_nil) folded

-- No sender keeps an agent online past the cap, and none writes from the future.
theorem presence_lease_capped : (∀ sync fullState batch outcome,
      project codecs authenticate policy observedAt sync fullState = .ok (batch, outcome) →
      ∀ update ∈ batch.rooms, ∀ presence ∈ update.presences, ∃ room ∈ sync.rooms, ∃ event ∈ presenceStateEvents room,
        ∃ createdAt claimedExpiry, update.roomId = room.roomId ∧
          Capped policy observedAt event presence createdAt claimedExpiry) ∧
      ∀ roomId event createdAt pending, statedTime event.content "createdAt" = some createdAt →
        observedAt.value + policy.allowedClockSkew.value < createdAt.value →
        parseStatus codecs roomId event observedAt policy ≠ .ok pending := by
  refine ⟨?_, ?_⟩
  · intro sync fullState batch outcome projected update among presence listed
    obtain ⟨room, roomListed, same, sourced⟩ :=
      project_sourced codecs authenticate policy observedAt projected update among
    obtain ⟨event, eventListed, createdAt, claimedExpiry, capped⟩ := sourced presence listed
    exact ⟨room, roomListed, event, eventListed, createdAt, claimedExpiry, same, capped⟩
  · intro roomId event createdAt pending stated future parsed
    obtain ⟨created, claimed, evaluated⟩ := parse_status_ok policy parsed
    obtain ⟨notFuture, _⟩ := evaluate_lease_ok policy evaluated.lease
    have same : created = createdAt := Option.some.inj (evaluated.created.symm.trans stated)
    rw [same] at notFuture
    omega

end

def hexDigit (char : Char) : Option Nat :=
  if char.isDigit then some (char.toNat - 48) else if 'a' ≤ char ∧ char ≤ 'f' then some (char.toNat - 87) else none

def canonicalStatus : String :=
  "\x7b\"actor\":\x7b\"agent\":\x7b\"agentId\":\"019b76da-a800-7000-8000-000000000001\",\"displayName\":\"Ada\"," ++
    "\"matrixUserId\":\"@ada:example.org\"\x7d,\"instanceId\":\"019b76da-a800-7000-8000-000000000002\"," ++
    "\"provenance\":\"autonomous_agent\"\x7d,\"correlationId\":\"019b76da-a800-7000-8000-000000000004\"," ++
    "\"createdAt\":\"2026-01-01T00:00:00.000Z\"," ++
    "\"eventType\":\"io.github.rainyflash.agentroom.agent.status.v1\"," ++
    "\"id\":\"019b76da-a800-7000-8000-000000000003\",\"leaseExpiresAt\":\"2026-01-01T00:05:00.000Z\"," ++
    "\"schemaVersion\":\"1.0\",\"status\":\"working\",\"visibility\":\"coarse\"\x7d"

def plainCodecs : Codecs where
  parseUuid text := (text.toList.filter (· ≠ '-')).foldlM (fun uuid char => (hexDigit char).map (16 * uuid + ·)) 0
  decodeBase64 text := if text.toList.all (· = 'A') then some (List.replicate (text.toList.length * 6 / 8) 0) else none
  canonicalize _ := some canonicalStatus.toUTF8.toList

def workingStatus : Json :=
  .object [
    ("actor", .object [
      ("agent", .object [
        ("agentId", .string "019b76da-a800-7000-8000-000000000001"),
        ("displayName", .string "Ada"),
        ("matrixUserId", .string "@ada:example.org")]),
      ("instanceId", .string "019b76da-a800-7000-8000-000000000002"),
      ("provenance", .string "autonomous_agent")]),
    ("correlationId", .string "019b76da-a800-7000-8000-000000000004"),
    ("createdAt", .string "2026-01-01T00:00:00.000Z"),
    ("eventType", .string agentStatusEventType),
    ("id", .string "019b76da-a800-7000-8000-000000000003"),
    ("leaseExpiresAt", .string "2026-01-01T00:05:00.000Z"),
    ("schemaVersion", .string "1.0"),
    ("signature", .string (String.ofList (List.replicate 86 'A'))),
    ("status", .string "working"),
    ("visibility", .string "coarse")]

def workingEvent : MatrixTimelineEvent where
  eventId := some ⟨"$status"⟩
  sender := some ⟨"@ada:example.org"⟩
  eventType := agentStatusEventType
  stateKey := some "019b76da-a800-7000-8000-000000000002"
  originServerTimestamp := some 1767225600100
  content := workingStatus

def lobby : MatrixRoomId := ⟨"!lobby:example.org"⟩

def workingSync : MatrixSyncBatch where
  rooms := [{ roomId := lobby, kind := .joined, timeline := [workingEvent], state := [], statePosition := .beforeTimeline }]
  presence := []

def fiveMinutes : PresenceLeasePolicy := ⟨300000, 30000, by decide⟩

def workingPresence : ProjectedAgentPresence where
  eventId := ⟨"$status"⟩
  roomId := lobby
  identity := adaIdentity
  status := .working
  observedAt := 1767225610000
  leaseExpiresAt := 1767225930000
  originServerTimestamp := 1767225600100
  publishedAt := 1767225600000
  lastPolledAt := none
  listeningUntil := none
  receptionKnown := false
  card := false

def workingUpdate : PresenceRoomProjection := ⟨lobby, .delta, [], [workingPresence], none⟩

def workingBatch : PresenceProjectionBatch :=
  { rooms := [workingUpdate], presence := some ⟨1767225610000, false, []⟩ }

theorem presence_lease_capped_working :
    (∃ room ∈ workingSync.rooms, ∃ event ∈ presenceStateEvents room, ∃ createdAt claimedExpiry,
      workingUpdate.roomId = room.roomId ∧
        Capped fiveMinutes ⟨1767225610000, by decide⟩ event workingPresence createdAt claimedExpiry) ∧
      ∀ pending, parseStatus plainCodecs lobby workingEvent ⟨1767225569999, by decide⟩ fiveMinutes ≠ .ok pending :=
  ⟨(presence_lease_capped plainCodecs (fun _ _ _ _ _ => .ok .trusted) fiveMinutes ⟨1767225610000, by decide⟩).1
      workingSync false workingBatch ⟨1, 0, []⟩ (by decide +kernel) workingUpdate (List.mem_singleton.mpr rfl)
      workingPresence (List.mem_singleton.mpr rfl),
    fun pending =>
      (presence_lease_capped plainCodecs (fun _ _ _ _ _ => .ok .trusted) fiveMinutes ⟨1767225569999, by decide⟩).2 lobby
        workingEvent ⟨1767225600000, by decide⟩ pending (by decide +kernel) (by decide)⟩

end AgentRoom.Presence
