import AgentRoom.Domain.Failures
import AgentRoom.Presence.Status

namespace AgentRoom.Presence

open Library

def agentRosterPolicyEventType : String := "io.github.rainyflash.agentroom.roster.policy.v1"

def roomMemberEventType : String := "m.room.member"

def maximumStatusEventsPerRoom : Nat := 20000

inductive MatrixRoomStatePosition where
  | beforeTimeline
  | afterTimeline

structure MatrixRoomSync where
  roomId : MatrixRoomId
  kind : MatrixRoomSyncKind
  timeline : List MatrixTimelineEvent
  state : List MatrixTimelineEvent
  statePosition : MatrixRoomStatePosition

structure MatrixSyncBatch where
  rooms : List MatrixRoomSync
  presence : List MatrixUserPresence

structure PresenceMembershipChange where
  matrixUserId : MatrixUserId
  joined : Bool
deriving DecidableEq

inductive PresenceRoomProjectionMode where
  | delta
  | replace
  | remove
deriving DecidableEq

structure AgentRosterPolicy where
  archiveAfterDays : Nat
  offered : archiveAfterDays ∈ [1, 7, 30]
deriving DecidableEq

def AgentRosterPolicy.new (days : Nat) : Option AgentRosterPolicy :=
  if offered : days ∈ [1, 7, 30] then some ⟨days, offered⟩ else none

structure PresenceRoomProjection where
  roomId : MatrixRoomId
  mode : PresenceRoomProjectionMode
  memberships : List PresenceMembershipChange
  presences : List ProjectedAgentPresence
  policy : Option AgentRosterPolicy
deriving DecidableEq

structure PresenceProjectionBatch where
  rooms : List PresenceRoomProjection
  presence : Option MatrixPresenceUpdate
deriving DecidableEq

structure PresenceSyncIssue where
  roomId : MatrixRoomId
  eventId : Option MatrixEventId
  reason : PresenceSyncIssueReason
deriving DecidableEq

structure PresenceSyncOutcome where
  acceptedStatuses : Nat
  membershipChanges : Nat
  issues : List PresenceSyncIssue
deriving DecidableEq

inductive PresenceProjectionFailureKind where
  | unavailable
  | corrupt
deriving DecidableEq

inductive PresenceSyncFailure where
  | authentication (kind : AgentEventAuthenticationFailureKind)
  | projection (kind : PresenceProjectionFailureKind)
deriving DecidableEq

abbrev Authenticator :=
  AgentId → AgentInstanceId → UtcMillis → List UInt8 → DeviceSignature →
    Except AgentEventAuthenticationFailureKind AgentEventAuthenticationDecision

def authenticationIssue : AgentEventAuthenticationDecision → PresenceSyncIssueReason
  | .unknownInstance => .unknownInstance
  | .revokedInstance => .revokedInstance
  | .agentInstanceMismatch => .agentInstanceMismatch
  | .invalidSignature => .invalidSignature
  | .outsideInstanceValidityWindow => .outsideInstanceValidityWindow
  | .trusted | .trustedHistoricalRevoked => .invalidEnvelope

def presenceStateEvents (room : MatrixRoomSync) : List MatrixTimelineEvent :=
  match room.statePosition with
  | .beforeTimeline => (room.state ++ room.timeline).filter (·.stateKey.isSome)
  | .afterTimeline => room.state.filter (·.stateKey.isSome)

def parseMembership (event : MatrixTimelineEvent) : Parsed PresenceMembershipChange := do
  let stateKey ← okOr .missingEnvelope event.stateKey
  ensure .invalidMembership (validUserId stateKey = true)
  let membership ← okOr .invalidMembership ((event.content.get "membership").bind Json.asStr)
  ensure .invalidMembership (membership ∈ ["ban", "invite", "join", "knock", "leave"])
  return { matrixUserId := ⟨stateKey⟩, joined := membership = "join" }

def parseRosterPolicy (event : MatrixTimelineEvent) : Option AgentRosterPolicy := do
  let version ← (event.content.get "schemaVersion").bind Json.asU64
  let days ← (event.content.get "archiveAfterDays").bind Json.asU64
  if event.stateKey ≠ some "" ∨ version ≠ 1 then none else AgentRosterPolicy.new days

structure RoomProgress where
  memberships : List PresenceMembershipChange
  presences : List ProjectedAgentPresence
  statusEvents : Nat
  rosterPolicy : Option AgentRosterPolicy
  acceptedStatuses : Nat
  issues : List PresenceSyncIssue

structure SyncProgress where
  roomUpdates : List PresenceRoomProjection
  acceptedStatuses : Nat
  membershipChanges : Nat
  issues : List PresenceSyncIssue

namespace RoomProgress

def flag (progress : RoomProgress) (roomId : MatrixRoomId) (event : MatrixTimelineEvent)
    (reason : PresenceSyncIssueReason) : RoomProgress :=
  { progress with issues := progress.issues ++ [{ roomId, eventId := event.eventId, reason }] }

def accept (progress : RoomProgress) (presence : ProjectedAgentPresence) : RoomProgress :=
  { progress with
    presences := progress.presences ++ [presence]
    acceptedStatuses := progress.acceptedStatuses + 1 }

end RoomProgress

section

variable (codecs : Codecs) (authenticate : Authenticator) (policy : PresenceLeasePolicy) (observedAt : UtcMillis)

def observeStatus (roomId : MatrixRoomId) (before : RoomProgress) (event : MatrixTimelineEvent) :
    Except PresenceSyncFailure RoomProgress :=
  let progress := { before with statusEvents := before.statusEvents + 1 }
  if maximumStatusEventsPerRoom < progress.statusEvents then .ok (progress.flag roomId event .tooManyStatusEvents)
  else
    match parseStatus codecs roomId event observedAt policy with
    | .error reason => .ok (progress.flag roomId event reason)
    | .ok pending =>
      let identity := pending.presence.identity
      match authenticate identity.agentId identity.agentInstanceId pending.originServerTimestamp pending.canonicalEvent
          pending.signature with
      | .error kind => .error (.authentication kind)
      | .ok .trusted => .ok (progress.accept pending.presence)
      | .ok .trustedHistoricalRevoked => .ok (progress.accept pending.presence.revoked)
      | .ok decision => .ok (progress.flag roomId event (authenticationIssue decision))

def observeEvent (roomId : MatrixRoomId) (progress : RoomProgress) (event : MatrixTimelineEvent) :
    Except PresenceSyncFailure RoomProgress :=
  if event.eventType = agentRosterPolicyEventType then
    match parseRosterPolicy event with
    | some policy => .ok { progress with rosterPolicy := some policy }
    | none => .ok (progress.flag roomId event .invalidRosterPolicy)
  else if event.eventType = roomMemberEventType then
    match parseMembership event with
    | .ok change => .ok { progress with memberships := progress.memberships ++ [change] }
    | .error reason => .ok (progress.flag roomId event reason)
  else if event.eventType ≠ agentStatusEventType then .ok progress
  else observeStatus codecs authenticate policy observedAt roomId progress event

def observeRoom (fullState : Bool) (progress : SyncProgress) (room : MatrixRoomSync) : Except PresenceSyncFailure SyncProgress :=
  if room.kind ≠ .joined then
    .ok { progress with
      roomUpdates := progress.roomUpdates ++
        [{ roomId := room.roomId, mode := .remove, memberships := [], presences := [], policy := none }] }
  else do
    let start : RoomProgress := ⟨[], [], 0, none, progress.acceptedStatuses, progress.issues⟩
    let ended ← (presenceStateEvents room).foldlM (observeEvent codecs authenticate policy observedAt room.roomId) start
    let update : PresenceRoomProjection := {
      roomId := room.roomId
      mode := if fullState then .replace else .delta
      memberships := ended.memberships
      presences := ended.presences
      policy := ended.rosterPolicy }
    return {
      roomUpdates := progress.roomUpdates ++ [update]
      acceptedStatuses := ended.acceptedStatuses
      membershipChanges := progress.membershipChanges + ended.memberships.length
      issues := ended.issues }

def project (sync : MatrixSyncBatch) (fullState : Bool) :
    Except PresenceSyncFailure (PresenceProjectionBatch × PresenceSyncOutcome) := do
  let progress ← sync.rooms.foldlM (observeRoom codecs authenticate policy observedAt fullState) ⟨[], 0, 0, []⟩
  let batch : PresenceProjectionBatch :=
    { rooms := progress.roomUpdates, presence := some { observedAt, fullState, users := sync.presence } }
  return (batch, ⟨progress.acceptedStatuses, progress.membershipChanges, progress.issues⟩)

def process (apply : PresenceProjectionBatch → Except PresenceProjectionFailureKind Unit) (sync : MatrixSyncBatch)
    (fullState : Bool) : Except PresenceSyncFailure PresenceSyncOutcome := do
  let (batch, outcome) ← project codecs authenticate policy observedAt sync fullState
  match apply batch with
  | .ok () => return outcome
  | .error kind => throw (.projection kind)

end

end AgentRoom.Presence
