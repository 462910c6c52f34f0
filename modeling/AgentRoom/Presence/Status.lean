import AgentRoom.Library.Rfc3339
import AgentRoom.Presence.AgentStatus

namespace AgentRoom.Presence

open Library

structure PresenceLeasePolicy where
  maximumLease : DurationMillis
  allowedClockSkew : DurationMillis
  bounded : allowedClockSkew.value < maximumLease.value

structure MatrixRoomId where
  value : String
deriving DecidableEq

structure MatrixEventId where
  value : String
deriving DecidableEq

structure MatrixTimelineEvent where
  eventId : Option MatrixEventId
  sender : Option MatrixUserId
  eventType : String
  stateKey : Option String
  originServerTimestamp : Option UInt64
  content : Json

structure ProjectedAgentPresence where
  eventId : MatrixEventId
  roomId : MatrixRoomId
  identity : BridgeAgentIdentity
  status : AgentWorkStatus
  observedAt : UtcMillis
  leaseExpiresAt : UtcMillis
  originServerTimestamp : UInt64
  publishedAt : UtcMillis
  lastPolledAt : Option UtcMillis
  listeningUntil : Option UtcMillis
  receptionKnown : Bool
  card : Bool
deriving DecidableEq

namespace ProjectedAgentPresence

def evidenceWith (presence : ProjectedAgentPresence) (observation : Option MatrixPresenceObservation) :
    AgentPresenceEvidence where
  reportedStatus := presence.status
  leaseExpiresAt := presence.leaseExpiresAt.toInt
  lastActiveAt := presence.publishedAt.toInt
  lastPolledAt := presence.lastPolledAt.map (·.toInt)
  listeningUntil := presence.listeningUntil.map (·.toInt)
  receptionKnown := presence.receptionKnown
  liveness := if presence.card then .presence observation else .lease

def revoked (presence : ProjectedAgentPresence) : ProjectedAgentPresence :=
  { presence with status := .offline, leaseExpiresAt := presence.observedAt }

end ProjectedAgentPresence

inductive PresenceSyncIssueReason where
  | missingEnvelope
  | invalidEnvelope
  | senderMismatch
  | invalidMembership
  | invalidRosterPolicy
  | tooManyStatusEvents
  | invalidLease
  | futureEvent
  | unknownInstance
  | revokedInstance
  | agentInstanceMismatch
  | invalidSignature
  | outsideInstanceValidityWindow
deriving DecidableEq

def agentStatusEventType : String := "io.github.rainyflash.agentroom.agent.status.v1"

structure DeviceSignature where
  bytes : List UInt8
  length : bytes.length = 64

def DeviceSignature.new (bytes : List UInt8) : Option DeviceSignature :=
  if length : bytes.length = 64 then some ⟨bytes, length⟩ else none

-- Encodings that other crates read: a UUID, unpadded base64 and canonical JSON.
structure Codecs where
  parseUuid : String → Option Nat
  decodeBase64 : String → Option (List UInt8)
  canonicalize : Json → Option (List UInt8)

abbrev Parsed (α : Type) := Except PresenceSyncIssueReason α

variable {α : Type}

def okOr (reason : PresenceSyncIssueReason) : Option α → Parsed α
  | some value => .ok value
  | none => .error reason

theorem ok_or_ok (reason : PresenceSyncIssueReason) (found : Option α) (value : α) :
    okOr reason found = .ok value ↔ found = some value := by
  cases found with
  | none => simp [okOr]
  | some other => simp [okOr]

def ensure (reason : PresenceSyncIssueReason) (condition : Prop) [Decidable condition] : Parsed Unit :=
  if condition then .ok () else .error reason

theorem ensure_ok (reason : PresenceSyncIssueReason) (condition : Prop) [Decidable condition] (done : Unit) :
    ensure reason condition = .ok done ↔ condition := by
  by_cases holds : condition
  · simp [ensure, holds]
  · simp [ensure, holds]

def parseTime (value : String) : Parsed UtcMillis :=
  okOr .invalidEnvelope ((read value.toList).bind fun moment => (UtcMillis.new moment).toOption)

def timeValue : Option Json → Parsed (Option UtcMillis)
  | none => .ok none
  | some value => do
    let text ← okOr .invalidEnvelope value.asStr
    let time ← parseTime text
    return some time

-- A field that is missing or null says that nobody waits.
def waitDeadline (extensions : List (String × Json)) (field : String) (createdAt : UtcMillis) (limitMs : Int) :
    Parsed (Option UtcMillis) := do
  let deadline ← timeValue ((lookup field extensions).filter fun value => !value.isNull)
  ensure .invalidEnvelope (¬ deadline.any fun until_ => saturatingAdd createdAt.toInt limitMs < until_.toInt)
  return deadline

def laterDeadline : Option UtcMillis → Option UtcMillis → Option UtcMillis
  | none, second => second
  | first, none => first
  | some first, some second => some (if first ≤ second then second else first)

def validateWireStatus (wire : Wire.AgentStatusEvent) : Parsed Unit := do
  ensure .invalidEnvelope (wire.extensions.length ≤ 11 ∧ wire.actor.extensions.length ≤ 9 ∧
    wire.actor.agent.extensions.length ≤ 12)
  let hasDetails := wire.taskSummary.isSome || wire.startedAt.isSome || wire.progress.isSome
  ensure .invalidEnvelope (¬ (wire.visibility = .coarse ∧ hasDetails = true))
  match wire.taskSummary with
  | some summary => let _ ← okOr .invalidEnvelope (AgentTaskSummary.new summary).toOption
  | none => pure ()
  match wire.startedAt with
  | some startedAt => let _ ← parseTime startedAt
  | none => pure ()
  ensure .invalidEnvelope (wire.progress.all fun progress => 0 ≤ progress ∧ progress ≤ 1)

def evaluateLease (createdAt claimedExpiry observedAt : UtcMillis) (policy : PresenceLeasePolicy) : Parsed UtcMillis := do
  ensure .invalidLease (policy.maximumLease.value ≤ i64Max)
  let lifetime := saturatingSub claimedExpiry.toInt createdAt.toInt
  ensure .invalidLease (¬ (lifetime ≤ 0 ∨ policy.maximumLease.value < lifetime))
  let latestCreatedAt ← okOr .invalidLease (observedAt.checkedAdd policy.allowedClockSkew).toOption
  ensure .futureEvent (createdAt ≤ latestCreatedAt)
  let senderDeadline ← okOr .invalidLease (claimedExpiry.checkedAdd policy.allowedClockSkew).toOption
  let longest ← okOr .invalidLease (observedAt.checkedAdd policy.maximumLease).toOption
  let localDeadline ← okOr .invalidLease (longest.checkedAdd policy.allowedClockSkew).toOption
  return senderDeadline.earlier localDeadline

def validatePropertyLimits (content : Json) : Parsed Unit := do
  let object ← okOr .invalidEnvelope content.asObject
  ensure .invalidEnvelope (object.length ≤ 24)

def wireStatus : Wire.AgentWorkStatus → AgentWorkStatus
  | .offline => .offline
  | .idle => .idle
  | .working => .working
  | .waitingInput => .waitingInput
  | .blocked => .blocked
  | .completed => .completed

structure PendingPresence where
  presence : ProjectedAgentPresence
  originServerTimestamp : UtcMillis
  canonicalEvent : List UInt8
  signature : DeviceSignature

-- The version is the high half of the seventh byte.
def isVersion7 (uuid : Nat) : Bool := uuid / 2 ^ 76 % 16 = 7

section

variable (codecs : Codecs)

def canonicalAndSignature (content : Json) : Parsed (List UInt8 × DeviceSignature) := do
  let text ← okOr .invalidEnvelope ((content.get "signature").bind Json.asStr)
  let bytes ← okOr .invalidEnvelope (codecs.decodeBase64 text)
  let signature ← okOr .invalidEnvelope (DeviceSignature.new bytes)
  let object ← okOr .invalidEnvelope content.asObject
  let unsigned := Json.object (object.filter fun field => field.1 ≠ "signature")
  let canonical ← okOr .invalidEnvelope (codecs.canonicalize unsigned)
  return (canonical, signature)

def parseV7 (value : String) : Parsed Nat := do
  let uuid ← okOr .invalidEnvelope (codecs.parseUuid value)
  ensure .invalidEnvelope (isVersion7 uuid = true)
  return uuid

def identityOf (wire : Wire.AgentStatusEvent) (agentId : AgentId) (instanceId : AgentInstanceId) :
    Parsed BridgeAgentIdentity := do
  let agent := wire.actor.agent
  let identity ← okOr .invalidEnvelope
    (BridgeAgentIdentity.new agentId agent.displayName agent.matrixUserId instanceId).toOption
  match agent.avatarUrl with
  | some avatarUrl => okOr .invalidEnvelope (identity.withAvatarUrl avatarUrl).toOption
  | none => return identity

def parseStatus (roomId : MatrixRoomId) (event : MatrixTimelineEvent) (observedAt : UtcMillis)
    (policy : PresenceLeasePolicy) : Parsed PendingPresence := do
  let eventId ← okOr .missingEnvelope event.eventId
  let sender ← okOr .missingEnvelope event.sender
  let stateKey ← okOr .missingEnvelope event.stateKey
  let timestamp ← okOr .missingEnvelope event.originServerTimestamp
  let originServerTimestamp ← okOr .missingEnvelope (UtcMillis.new timestamp.toNat).toOption
  validatePropertyLimits event.content
  let (canonicalEvent, signature) ← canonicalAndSignature codecs event.content
  let wire ← okOr .invalidEnvelope (Wire.AgentStatusEvent.decode event.content)
  validateWireStatus wire
  ensure .invalidEnvelope (wire.schemaVersion = "1.0" ∧ wire.eventType = agentStatusEventType)
  let agentId ← parseV7 codecs wire.actor.agent.agentId
  let instanceId ← parseV7 codecs wire.actor.instanceId
  let _ ← parseV7 codecs wire.id
  let _ ← parseV7 codecs wire.correlationId
  ensure .senderMismatch (stateKey = wire.actor.instanceId ∧ sender.value = wire.actor.agent.matrixUserId)
  ensure .invalidEnvelope (wire.actor.provenance = .autonomousAgent)
  let identity ← identityOf wire ⟨agentId⟩ ⟨instanceId⟩
  let createdAt ← parseTime wire.createdAt
  let polledAt ← timeValue (lookup "lastPolledAt" wire.extensions)
  let lastPolledAt := polledAt.filter fun polled => polled ≤ createdAt
  let listeningUntil ← waitDeadline wire.extensions "listeningUntil" createdAt receptionFreshnessMs
  let waitingUntil ← waitDeadline wire.extensions "waitingUntil" createdAt waitingLeaseMs
  let receptionKnown := (lookup "listeningUntil" wire.extensions).isSome || (lookup "waitingUntil" wire.extensions).isSome
  let card := decide (wire.liveness = some .presence)
  let claimedExpiry ← parseTime wire.leaseExpiresAt
  let leaseExpiresAt ← evaluateLease createdAt claimedExpiry observedAt policy
  let status := wireStatus wire.status
  let presence : ProjectedAgentPresence := {
    eventId, roomId, identity, status, observedAt, leaseExpiresAt, originServerTimestamp := timestamp,
    publishedAt := createdAt, lastPolledAt, listeningUntil := laterDeadline listeningUntil waitingUntil, receptionKnown,
    card }
  return { presence, originServerTimestamp, canonicalEvent, signature }

end

section

variable {codecs : Codecs} (policy : PresenceLeasePolicy)

theorem checked_add_some {time later : UtcMillis}
    (added : (time.checkedAdd duration).toOption = some later) : later.value = time.value + duration.value := by
  cases sum : time.checkedAdd duration with
  | error failure => simp [sum, Except.toOption] at added
  | ok value =>
    simp only [sum, Except.toOption, Option.some.injEq] at added
    exact added ▸ UtcMillis.checked_add_value sum

theorem evaluate_lease_ok {createdAt claimedExpiry observedAt deadline : UtcMillis}
    (evaluated : evaluateLease createdAt claimedExpiry observedAt policy = .ok deadline) :
    createdAt.value ≤ observedAt.value + policy.allowedClockSkew.value ∧
      deadline.value = min (claimedExpiry.value + policy.allowedClockSkew.value)
        (observedAt.value + policy.maximumLease.value + policy.allowedClockSkew.value) := by
  simp only [evaluateLease, bind_ok, ok_or_ok, ensure_ok] at evaluated
  obtain ⟨_, _, _, _, latest, latestIs, _, notFuture, sender, senderIs, longest, longestIs, local_, localIs, final⟩ := evaluated
  have latestValue := checked_add_some latestIs
  have senderValue := checked_add_some senderIs
  have longestValue := checked_add_some longestIs
  have localValue := checked_add_some localIs
  rw [UtcMillis.le_iff] at notFuture
  refine ⟨by omega, ?_⟩
  cases final
  by_cases first : sender ≤ local_
  · rw [UtcMillis.earlier, if_pos first]
    rw [UtcMillis.le_iff] at first
    omega
  · rw [UtcMillis.earlier, if_neg first]
    rw [UtcMillis.le_iff] at first
    omega

def statedTime (content : Json) (field : String) : Option UtcMillis :=
  ((content.get field).bind Json.asStr).bind fun text => (parseTime text).toOption

structure Evaluated (event : MatrixTimelineEvent) (observedAt : UtcMillis) (presence : ProjectedAgentPresence)
    (createdAt claimedExpiry : UtcMillis) : Prop where
  created : statedTime event.content "createdAt" = some createdAt
  claimed : statedTime event.content "leaseExpiresAt" = some claimedExpiry
  published : presence.publishedAt = createdAt
  observed : presence.observedAt = observedAt
  lease : evaluateLease createdAt claimedExpiry observedAt policy = .ok presence.leaseExpiresAt

theorem parse_status_ok (parsed : parseStatus codecs roomId event observedAt policy = .ok pending) :
    ∃ createdAt claimedExpiry, Evaluated policy event observedAt pending.presence createdAt claimedExpiry := by
  simp only [parseStatus, bind_ok, ok_or_ok] at parsed
  obtain ⟨_, _, _, _, _, _, _, _, _, _, _, _, _, _, wire, decoded, _, _, _, _, _, _, _, _, _, _, _, _, parsed⟩ := parsed
  obtain ⟨_, _, _, _, _, _, createdAt, created, _, _, _, _, _, _, claimedExpiry, claimed, deadline, lease, final⟩ := parsed
  obtain ⟨createdText, claimedText⟩ := Wire.AgentStatusEvent.decode_times wire decoded
  have createdStated : statedTime event.content "createdAt" = some createdAt := by
    simp [statedTime, createdText, created, Except.toOption]
  have claimedStated : statedTime event.content "leaseExpiresAt" = some claimedExpiry := by
    simp [statedTime, claimedText, claimed, Except.toOption]
  cases final
  exact ⟨createdAt, claimedExpiry, createdStated, claimedStated, rfl, rfl, lease⟩

end

end AgentRoom.Presence
