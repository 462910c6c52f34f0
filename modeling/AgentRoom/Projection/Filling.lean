import AgentRoom.Domain.Failures
import AgentRoom.Projection.Store

namespace AgentRoom.MessageSync

open Library

abbrev MessageAuthenticationDecision := AgentEventAuthenticationDecision

inductive MatrixTimelineEncryption where
  | plaintext
  | endToEndUntrusted
  | endToEndTrusted
deriving DecidableEq

inductive MessageBody where
  | preview (messageId : MessageId) (preview : String) (content : EncodedContent)
  | revision (targetMessageId : MessageId) (kind : MessageRevisionKind) (preview : Option String)
      (content : Option EncodedContent)

-- What the checks of the content read in it: whose message it is, whether an
-- agent signed it, and what it says.
structure MessageContent where
  actorSubjectKey : String
  signed : Bool
  body : MessageBody

structure MatrixTimelineEvent where
  eventId : Option MatrixEventId
  sender : Option String
  eventType : String
  stateKey : Option String
  originServerTimestamp : Option Nat
  encryption : MatrixTimelineEncryption
  session : Option UndecryptableSession
  content : Except MessageSyncIssueReason MessageContent

structure MatrixRoomSync where
  roomId : MatrixRoomId
  kind : MatrixRoomSyncKind
  timelineLimited : Bool
  previousBatch : Option MatrixBackfillToken
  timeline : List MatrixTimelineEvent

structure MatrixSyncBatch where
  nextBatch : MatrixSyncToken
  rooms : List MatrixRoomSync

inductive MessageSyncFailure where
  | submissionStore
  | authentication (kind : AgentEventAuthenticationFailureKind)
  | projectionStore (kind : MessageProjectionStoreFailureKind)

abbrev MessageEventAuthenticator :=
  MatrixTimelineEvent → Except AgentEventAuthenticationFailureKind MessageAuthenticationDecision

def previewEventType : String := "io.github.rainyflash.agentroom.message.preview.v1"

def revisionEventType : String := "io.github.rainyflash.agentroom.message.revision.v1"

def previewEventTypeV2 : String := "io.github.rainyflash.agentroom.message.preview.v2"

def revisionEventTypeV2 : String := "io.github.rainyflash.agentroom.message.revision.v2"

def undecryptedEventType : String := "m.room.encrypted"

def isUndecryptable (event : MatrixTimelineEvent) : Bool := event.eventType = undecryptedEventType

def isMessageEvent (event : MatrixTimelineEvent) : Bool :=
  event.eventType ∈ [previewEventType, revisionEventType, previewEventTypeV2, revisionEventTypeV2]

structure PendingMessage where
  mutation : MessageProjectionMutation
  signed : Bool

def MessageContent.mutation (content : MessageContent) (roomId : MatrixRoomId) (eventId : MatrixEventId)
    (originServerTimestamp : Option Nat) : MessageProjectionMutation :=
  match content.body with
  | .preview messageId preview reference => .preview {
      eventId
      roomId
      messageId
      originServerTimestamp
      actorSubjectKey := content.actorSubjectKey
      preview
      content := reference }
  | .revision targetMessageId kind preview reference => .revision {
      eventId
      roomId
      targetMessageId
      originServerTimestamp
      actorSubjectKey := content.actorSubjectKey
      kind
      preview
      content := reference }

def envelope (event : MatrixTimelineEvent) : Except MessageSyncIssueReason MatrixEventId :=
  match event.eventId, event.sender, event.stateKey with
  | some eventId, some _, none => .ok eventId
  | _, _, _ => .error .missingEnvelope

def parsePendingMessage (roomId : MatrixRoomId) (event : MatrixTimelineEvent) : Except MessageSyncIssueReason PendingMessage := do
  ensure .untrustedEncryptedSender (event.encryption ≠ .endToEndUntrusted)
  let eventId ← envelope event
  ensure .missingEnvelope (event.originServerTimestamp.any (· ≤ i64Max) = true)
  let content ← event.content
  return { mutation := content.mutation roomId eventId event.originServerTimestamp, signed := content.signed }

def authenticationIssue : MessageAuthenticationDecision → MessageSyncIssueReason
  | .trusted | .trustedHistoricalRevoked => .invalidEnvelope
  | .unknownInstance => .unknownInstance
  | .revokedInstance => .revokedInstance
  | .agentInstanceMismatch => .agentInstanceMismatch
  | .invalidSignature => .invalidSignature
  | .outsideInstanceValidityWindow => .outsideInstanceValidityWindow

def issue (roomId : MatrixRoomId) (event : MatrixTimelineEvent) (reason : MessageSyncIssueReason)
    (mutationsBefore : Nat) : MessageSyncIssue where
  roomId
  eventId := event.eventId
  reason
  mutationsBefore
  session := none

structure Projected where
  mutations : List MessageProjectionMutation
  issues : List MessageSyncIssue

namespace Projected

def nothing : Projected := ⟨[], []⟩

def accept (found : Projected) (mutation : MessageProjectionMutation) : Projected :=
  { found with mutations := found.mutations ++ [mutation] }

def isolate (found : Projected) (issue : MessageSyncIssue) : Projected :=
  { found with issues := found.issues ++ [issue] }

end Projected

def decision (authenticate : MessageEventAuthenticator) (event : MatrixTimelineEvent) (pending : PendingMessage) :
    Except MessageSyncFailure MessageAuthenticationDecision :=
  if pending.signed then (authenticate event).mapError .authentication else .ok .trusted

-- The mark of an instance revoked later is part of the actor's JSON only.
def judge (roomId : MatrixRoomId) (found : Projected) (event : MatrixTimelineEvent) (pending : PendingMessage) :
    MessageAuthenticationDecision → Projected
  | .trusted | .trustedHistoricalRevoked => found.accept pending.mutation
  | refused => found.isolate (issue roomId event (authenticationIssue refused) found.mutations.length)

def projectEvent (authenticate : MessageEventAuthenticator) (roomId : MatrixRoomId) (found : Projected)
    (event : MatrixTimelineEvent) : Except MessageSyncFailure Projected :=
  if isUndecryptable event then
    .ok (found.isolate { issue roomId event .undecryptable found.mutations.length with session := event.session })
  else if isMessageEvent event then
    match parsePendingMessage roomId event with
    | .ok pending => (decision authenticate event pending).map (judge roomId found event pending)
    | .error reason => .ok (found.isolate (issue roomId event reason found.mutations.length))
  else .ok found

def projectRoomEvents (authenticate : MessageEventAuthenticator) (roomId : MatrixRoomId)
    (events : List MatrixTimelineEvent) (found : Projected) : Except MessageSyncFailure Projected :=
  events.foldlM (projectEvent authenticate roomId) found

def roomHasMessages (tables : Tables) (roomId : MatrixRoomId) : Bool := tables.events.any (·.roomId = roomId)

-- A room counts as missing something only once a message of it is in the log.
def roomGap (tables : Tables) (room : MatrixRoomSync) : List MessageTimelineGap :=
  if room.timelineLimited && roomHasMessages tables room.roomId then [⟨room.roomId, room.previousBatch⟩] else []

structure Gathered where
  projected : Projected
  gaps : List MessageTimelineGap

def gatherRoom (tables : Tables) (authenticate : MessageEventAuthenticator) (gathered : Gathered)
    (room : MatrixRoomSync) : Except MessageSyncFailure Gathered :=
  (projectRoomEvents authenticate room.roomId room.timeline gathered.projected).map fun projected =>
    { projected, gaps := gathered.gaps ++ roomGap tables room }

def MatrixSyncBatch.joined (sync : MatrixSyncBatch) : List MatrixRoomSync := sync.rooms.filter (·.kind = .joined)

def gather (tables : Tables) (authenticate : MessageEventAuthenticator) (sync : MatrixSyncBatch) :
    Except MessageSyncFailure Gathered :=
  sync.joined.foldlM (gatherRoom tables authenticate) ⟨.nothing, []⟩

def Gathered.batch (gathered : Gathered) (nextBatch : MatrixSyncToken) : MessageProjectionBatch where
  nextBatch
  mutations := gathered.projected.mutations
  issues := gathered.projected.issues
  gaps := gathered.gaps

structure MessageSyncOutcome where
  acceptedEvents : Nat
  isolatedEvents : Nat
  timelineGaps : Nat
  reconciledSubmissions : Nat

-- The submissions live in a store of their own: here only what reconciling
-- them with the sync came to.
def process (reconciled : Except MessageSyncFailure Nat) (authenticate : MessageEventAuthenticator) (tables : Tables)
    (sync : MatrixSyncBatch) : Except MessageSyncFailure (Tables × MessageSyncOutcome) := do
  let reconciledSubmissions ← reconciled
  let gathered ← gather tables authenticate sync
  let next ← (tables.applyBatch (gathered.batch sync.nextBatch)).mapError .projectionStore
  return (next, {
    acceptedEvents := gathered.projected.mutations.length
    isolatedEvents := gathered.projected.issues.length
    timelineGaps := gathered.gaps.length
    reconciledSubmissions })

open Library

def maxBackfillEvents : Nat := 1000

def pageEvents : Nat := 100

def maxPages : Nat := 5

structure MatrixBackfillRequest where
  start : MatrixBackfillToken
  limit : Nat
  bounded : limit ≤ maxBackfillEvents

def MatrixBackfillRequest.new (start : MatrixBackfillToken) (limit : Nat) : Option MatrixBackfillRequest :=
  if bounded : limit ≤ maxBackfillEvents then some ⟨start, limit, bounded⟩ else none

structure MatrixBackfillPage where
  finish : Option MatrixBackfillToken
  events : List MatrixTimelineEvent

-- The answers of the homeserver to the pages of one walk, the first page first.
abbrev BackfillSource := Nat → MatrixBackfillRequest → Except MatrixFailureKind MatrixBackfillPage

-- SELECT over the log and the issues of the room.
def knownEvent (tables : Tables) (roomId : MatrixRoomId) (eventId : MatrixEventId) : Bool :=
  (tables.events.any fun row => row.roomId = roomId ∧ row.eventId = eventId) ||
    tables.issues.any fun row => row.roomId = roomId ∧ row.eventId = some eventId

def unknownEvent (tables : Tables) (roomId : MatrixRoomId) (event : MatrixTimelineEvent) : Bool :=
  !event.eventId.any (knownEvent tables roomId)

inductive GapCollection where
  | deferred
  | collected (events : List MatrixTimelineEvent) (complete : Bool)

def collected (newestFirst : List MatrixTimelineEvent) (complete : Bool) : GapCollection :=
  .collected newestFirst.reverse complete

def collectFrom (tables : Tables) (source : BackfillSource) (roomId : MatrixRoomId) (page : Nat)
    (start : MatrixBackfillToken) (newestFirst : List MatrixTimelineEvent) : Nat → GapCollection
  | 0 => collected newestFirst false
  | left + 1 =>
    match MatrixBackfillRequest.new start pageEvents with
    | none => collected newestFirst false
    | some request =>
      match source page request with
      | .error failure => if failure.isTransient then .deferred else collected newestFirst false
      | .ok answer =>
        let fresh := answer.events.takeWhile (unknownEvent tables roomId)
        if fresh.length < answer.events.length then collected (newestFirst ++ fresh) true
        else
          match answer.finish with
          | some finish =>
            if answer.events.isEmpty then collected newestFirst true
            else collectFrom tables source roomId (page + 1) finish (newestFirst ++ fresh) left
          | none => collected (newestFirst ++ fresh) true

def collectGap (tables : Tables) (source : BackfillSource) (gap : PendingTimelineGap) : GapCollection :=
  collectFrom tables source gap.roomId 0 gap.previousBatch [] maxPages

-- The events a walk brought, verified like a sync and written with the end of the gap.
def settleGap (authenticate : MessageEventAuthenticator) (tables : Tables) (gap : PendingTimelineGap)
    (events : List MatrixTimelineEvent) (complete : Bool) : Except MessageSyncFailure (Tables × Projected) := do
  let projected ← projectRoomEvents authenticate gap.roomId events .nothing
  let batch : MessageBackfillBatch := { gap, mutations := projected.mutations, issues := projected.issues, complete }
  let next ← (tables.applyBackfillBatch batch).mapError .projectionStore
  return (next, projected)

end AgentRoom.MessageSync
