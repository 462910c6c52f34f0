import AgentRoom.Library.Method
import AgentRoom.Presence.Status

namespace AgentRoom.Presence

open Library

def waitingRenewalMarginMs : Int := 60000

def pollReportIntervalMs : Int := 60000

inductive HostAgentState where
  | disconnected
  | available
  | running
  | awaitingInput
  | blocked
  | succeeded

def HostAgentState.workStatus : HostAgentState → AgentWorkStatus
  | .disconnected => .offline
  | .available => .idle
  | .running => .working
  | .awaitingInput => .waitingInput
  | .blocked => .blocked
  | .succeeded => .completed

structure AgentStatusIntent where
  hostState : HostAgentState
  details : Option AgentStatusDetails
  lastPolledAt : Option UtcMillis
  waiting : Bool

def AgentStatusIntent.snapshot (intent : AgentStatusIntent) (visibility : AgentStatusVisibility) :
    DomainResult AgentStatusSnapshot :=
  let details := match visibility with
    | .coarse => none
    | .detailed => intent.details
  AgentStatusSnapshot.new intent.hostState.workStatus visibility details

structure AgentStatusRoomTarget where
  roomId : MatrixRoomId
  visibility : AgentStatusVisibility

inductive StatusPublicationFailure (μ : Type) where
  | invalidConfiguration
  | invalidIdentity
  | invalidIntent
  | invalidIdentifier
  | signingUnavailable
  | serialization
  | matrix (failure : μ)

variable {μ α ε : Type}

abbrev Publishing (μ α : Type) := Except (StatusPublicationFailure μ) α

section

variable (failure : StatusPublicationFailure μ)

def orFail : Except ε α → Publishing μ α
  | .ok value => .ok value
  | .error _ => .error failure

def someOr : Option α → Publishing μ α
  | some value => .ok value
  | none => .error failure

theorem or_fail_ok (result : Except ε α) (value : α) : orFail failure result = .ok value ↔ result = .ok value := by
  cases result with
  | ok other => simp [orFail]
  | error reason => simp [orFail]

theorem some_or_ok (found : Option α) (value : α) : someOr failure found = .ok value ↔ found = some value := by
  cases found with
  | none => simp [someOr]
  | some other => simp [someOr]

end

-- The latest renewal comes before the lease ends.
structure AgentStatusLeasePolicy where
  lifetime : DurationMillis
  renewalInterval : DurationMillis
  renewalJitter : DurationMillis
  bounded : renewalInterval.value + renewalJitter.value ≤ u64Max
  jitters : renewalJitter.value < renewalInterval.value
  inTime : renewalInterval.value + renewalJitter.value < lifetime.value

namespace AgentStatusLeasePolicy

variable (policy : AgentStatusLeasePolicy)

def renewalWidth : Nat :=
  min u64Max (min u64Max (policy.renewalJitter.value * 2) + 1)

def renewalMillis (entropy : UInt64) : Nat :=
  min u64Max (policy.renewalInterval.value - policy.renewalJitter.value + entropy.toNat % policy.renewalWidth)

theorem renewal_millis_range (entropy : UInt64) :
    policy.renewalInterval.value - policy.renewalJitter.value ≤ policy.renewalMillis entropy ∧
      policy.renewalMillis entropy ≤ policy.renewalInterval.value + policy.renewalJitter.value := by
  have bounded := policy.bounded
  have jitters := policy.jitters
  have width : policy.renewalWidth = policy.renewalJitter.value * 2 + 1 := by
    simp only [renewalWidth]
    omega
  have drawn : entropy.toNat % policy.renewalWidth < policy.renewalWidth := Nat.mod_lt _ (by omega)
  simp only [renewalMillis]
  omega

def renewalDelay (entropy : UInt64) : DurationMillis :=
  ⟨policy.renewalMillis entropy, by
    have range := policy.renewal_millis_range entropy
    have jitters := policy.jitters
    omega⟩

theorem renewal_delay_in_time (entropy : UInt64) : (policy.renewalDelay entropy).value < policy.lifetime.value := by
  have range := policy.renewal_millis_range entropy
  have inTime := policy.inTime
  simp only [renewalDelay]
  omega

end AgentStatusLeasePolicy

inductive StatusPublicationReason where
  | initial
  | statusChanged
  | visibilityChanged
  | renewal

inductive StatusPublicationOutcome where
  | published (eventId : MatrixEventId) (reason : StatusPublicationReason) (lease : AgentStatusLease) (renewAt : UtcMillis)
  | notDue (renewAt leaseExpiresAt : UtcMillis)

structure PublishedRoomStatus where
  snapshot : AgentStatusSnapshot
  renewAt : UtcMillis
  leaseExpiresAt : UtcMillis
  lastPolledAt : Option UtcMillis
  waitingUntil : Option UtcMillis

def PublishedRoomStatus.renewalDue (previous : PublishedRoomStatus) (intent : AgentStatusIntent) (now : UtcMillis) : Bool :=
  let waitingChanged := previous.waitingUntil.isSome != intent.waiting
  let waitingLapsing := intent.waiting &&
    previous.waitingUntil.any fun until_ => until_.toInt ≤ saturatingAdd now.toInt waitingRenewalMarginMs
  let polledLater := !intent.waiting && intent.lastPolledAt.any fun polled =>
    previous.lastPolledAt.all fun old => pollReportIntervalMs ≤ polled.toInt - old.toInt
  previous.renewAt ≤ now || waitingChanged || waitingLapsing || polledLater

structure MatrixStateEvent where
  eventType : String
  stateKey : String
  content : Json

def maxEventPayloadBytes : Nat := 65536

structure WaitingWindow where
  listeningUntil : UtcMillis
  waitingUntil : UtcMillis

def waitingWindow (publishedAt : UtcMillis) : Publishing μ WaitingWindow := do
  let listeningUntil ← orFail .invalidConfiguration (UtcMillis.new (saturatingAdd publishedAt.toInt receptionFreshnessMs))
  let waitingUntil ← orFail .invalidConfiguration (UtcMillis.new (saturatingAdd publishedAt.toInt waitingLeaseMs))
  return { listeningUntil, waitingUntil }

def AgentStatusIntent.window (intent : AgentStatusIntent) (publishedAt : UtcMillis) : Publishing μ (Option WaitingWindow) :=
  if intent.waiting then some <$> waitingWindow publishedAt else .ok none

def rfc3339 (value : UtcMillis) : Publishing μ String :=
  someOr .serialization ((write value.value).map String.ofList)

def rfc3339Of : Option UtcMillis → Publishing μ (Option String)
  | none => .ok none
  | some value => some <$> rfc3339 value

structure UnsignedStatusEvent where
  lastPolledAt : Option String
  listeningUntil : Option String
  waitingUntil : Option String
  id : Nat
  createdAt : String
  identity : BridgeAgentIdentity
  correlationId : Nat
  snapshot : AgentStatusSnapshot
  startedAt : Option String
  leaseExpiresAt : String

-- What the other services answer during one call, and the encodings of other crates.
structure StatusPorts (μ : Type) where
  now : UtcMillis
  eventId : Nat
  correlationId : Nat
  formatUuid : Nat → String
  canonicalize : Json → Option (List UInt8)
  sign : List UInt8 → Option DeviceSignature
  encodeBase64 : List UInt8 → String
  serializedLength : Json → Option Nat
  publish : MatrixRoomId → MatrixStateEvent → Except μ MatrixEventId

structure StatusService where
  identity : BridgeAgentIdentity
  policy : AgentStatusLeasePolicy

def present (key : String) : Option Json → List (String × Json)
  | none => []
  | some value => [(key, value)]

section

variable (service : StatusService) (ports : StatusPorts μ)

def UnsignedStatusEvent.toJson (unsigned : UnsignedStatusEvent) : Json :=
  let agent := Json.object [
    ("agentId", .string (ports.formatUuid unsigned.identity.agentId.uuid)),
    ("displayName", .string unsigned.identity.displayName),
    ("matrixUserId", .string unsigned.identity.matrixUserId.value)]
  let actor := Json.object [
    ("agent", agent),
    ("instanceId", .string (ports.formatUuid unsigned.identity.agentInstanceId.uuid)),
    ("provenance", .string "autonomous_agent")]
  let taskSummary := unsigned.snapshot.details.bind (·.taskSummary)
  let progress := unsigned.snapshot.details.bind (·.progress)
  .object (
    present "lastPolledAt" (unsigned.lastPolledAt.map Json.string) ++
    ("listeningUntil", (unsigned.listeningUntil.map Json.string).getD .null) ::
    present "waitingUntil" (unsigned.waitingUntil.map Json.string) ++ [
      ("schemaVersion", .string "1.0"),
      ("eventType", .string agentStatusEventType),
      ("id", .string (ports.formatUuid unsigned.id)),
      ("createdAt", .string unsigned.createdAt),
      ("actor", actor),
      ("correlationId", .string (ports.formatUuid unsigned.correlationId)),
      ("status", .string unsigned.snapshot.status.asStr),
      ("visibility", .string unsigned.snapshot.visibility.asStr)] ++
    present "taskSummary" (taskSummary.map fun summary => .string summary.value) ++
    present "startedAt" (unsigned.startedAt.map Json.string) ++
    present "progress" (progress.map fun progress => .number (.fraction progress.fraction)) ++
    [("leaseExpiresAt", .string unsigned.leaseExpiresAt)])

def unsignedContent (lease : AgentStatusLease) (lastPolledAt : Option UtcMillis) (waiting : Option WaitingWindow) :
    Publishing μ Json := do
  if isVersion7 ports.eventId = false ∨ isVersion7 ports.correlationId = false then throw .invalidIdentifier
  let createdAt ← rfc3339 lease.publishedAt
  let startedAt ← rfc3339Of (lease.snapshot.details.bind (·.startedAt))
  let leaseExpiresAt ← rfc3339 lease.expiresAt
  let lastPolledAt ← rfc3339Of lastPolledAt
  let listeningUntil ← rfc3339Of (waiting.map (·.listeningUntil))
  let waitingUntil ← rfc3339Of (waiting.map (·.waitingUntil))
  let unsigned : UnsignedStatusEvent := {
    lastPolledAt, listeningUntil, waitingUntil, id := ports.eventId, createdAt, identity := service.identity,
    correlationId := ports.correlationId, snapshot := lease.snapshot, startedAt, leaseExpiresAt }
  return unsigned.toJson ports

def signedStateEvent (content : Json) : Publishing μ MatrixStateEvent := do
  let canonical ← someOr .serialization (ports.canonicalize content)
  let signature ← someOr .signingUnavailable (ports.sign canonical)
  let object ← someOr .serialization content.asObject
  let signed := Json.object (object ++ [("signature", .string (ports.encodeBase64 signature.bytes))])
  let size ← someOr .serialization (ports.serializedLength signed)
  if maxEventPayloadBytes < size then throw .serialization
  return {
    eventType := agentStatusEventType
    stateKey := ports.formatUuid service.identity.agentInstanceId.uuid
    content := signed }

def stateEvent (lease : AgentStatusLease) (lastPolledAt : Option UtcMillis) (waiting : Option WaitingWindow) :
    Publishing μ MatrixStateEvent := do
  let content ← unsignedContent service ports lease lastPolledAt waiting
  signedStateEvent service ports content

structure Attempt where
  reason : StatusPublicationReason
  snapshot : AgentStatusSnapshot
  lease : AgentStatusLease
  waiting : Option WaitingWindow
  event : MatrixStateEvent

abbrev PublishedRooms := MatrixRoomId → Option PublishedRoomStatus

-- On the left the status that needs no other yet, on the right why it needs one.
def dueReason (previous : Option PublishedRoomStatus) (snapshot : AgentStatusSnapshot) (intent : AgentStatusIntent)
    (now : UtcMillis) : PublishedRoomStatus ⊕ StatusPublicationReason :=
  match previous with
  | none => .inr .initial
  | some previous =>
    if previous.snapshot.status ≠ snapshot.status then .inr .statusChanged
    else if previous.snapshot.visibility ≠ snapshot.visibility then .inr .visibilityChanged
    else if previous.renewalDue intent now then .inr .renewal
    else .inl previous

def attempt (reason : StatusPublicationReason) (snapshot : AgentStatusSnapshot) (intent : AgentStatusIntent) :
    Publishing μ Attempt := do
  let lease ← orFail .invalidIntent
    (AgentStatusLease.issue service.identity.agentInstanceId snapshot ports.now service.policy.lifetime)
  let waiting ← intent.window ports.now
  let event ← stateEvent service ports lease intent.lastPolledAt waiting
  return { reason, snapshot, lease, waiting, event }

def prepare (published : PublishedRooms) (target : AgentStatusRoomTarget) (intent : AgentStatusIntent) :
    Publishing μ (PublishedRoomStatus ⊕ Attempt) := do
  if intent.lastPolledAt.any (ports.now < ·) then throw .invalidIntent
  let snapshot ← orFail .invalidIntent (intent.snapshot target.visibility)
  match dueReason (published target.roomId) snapshot intent ports.now with
  | .inl previous => return .inl previous
  | .inr reason => Sum.inr <$> attempt service ports reason snapshot intent

def PublishedRooms.record (published : PublishedRooms) (roomId : MatrixRoomId) (status : PublishedRoomStatus) : PublishedRooms :=
  fun other => if other = roomId then some status else published other

abbrev PublicationMethod (μ α : Type) := Method (StatusPublicationFailure μ) PublishedRooms α

def send (published : PublishedRooms) (target : AgentStatusRoomTarget) (intent : AgentStatusIntent) (entropy : UInt64)
    (attempt : Attempt) : PublicationMethod μ StatusPublicationOutcome := do
  let eventId ← lift ((ports.publish target.roomId attempt.event).mapError .matrix)
  let renewAt ← lift (orFail .invalidConfiguration (ports.now.checkedAdd (service.policy.renewalDelay entropy)))
  set (published.record target.roomId {
    snapshot := attempt.snapshot
    renewAt
    leaseExpiresAt := attempt.lease.expiresAt
    lastPolledAt := intent.lastPolledAt
    waitingUntil := attempt.waiting.map (·.waitingUntil) })
  return .published eventId attempt.reason attempt.lease renewAt

def settle (published : PublishedRooms) (target : AgentStatusRoomTarget) (intent : AgentStatusIntent) (entropy : UInt64) :
    PublishedRoomStatus ⊕ Attempt → PublicationMethod μ StatusPublicationOutcome
  | .inl previous => return .notDue previous.renewAt previous.leaseExpiresAt
  | .inr attempt => send service ports published target intent entropy attempt

def publishIfDue (target : AgentStatusRoomTarget) (intent : AgentStatusIntent) (entropy : UInt64) :
    PublicationMethod μ StatusPublicationOutcome := do
  let published ← get
  let prepared ← lift (prepare service ports published target intent)
  settle service ports published target intent entropy prepared

end

end AgentRoom.Presence
