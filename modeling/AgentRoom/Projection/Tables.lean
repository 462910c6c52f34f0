import AgentRoom.Domain.Basics

namespace AgentRoom

structure MatrixEventId where
  text : String
deriving DecidableEq

structure MatrixRoomId where
  text : String
deriving DecidableEq

structure MatrixSyncToken where
  text : String
deriving DecidableEq

structure MatrixBackfillToken where
  text : String
deriving DecidableEq

inductive MessageRevisionKind where
  | replace
  | redact
  | moderate
deriving DecidableEq

-- A content reference as it is stored: its own column and the rest of it as JSON.
structure EncodedContent where
  contentId : ContentId
  json : String
deriving DecidableEq

structure ProjectedMessagePreview where
  eventId : MatrixEventId
  roomId : MatrixRoomId
  messageId : MessageId
  originServerTimestamp : Option Nat
  actorSubjectKey : String
  preview : String
  content : EncodedContent
deriving DecidableEq

structure ProjectedMessageRevision where
  eventId : MatrixEventId
  roomId : MatrixRoomId
  targetMessageId : MessageId
  originServerTimestamp : Option Nat
  actorSubjectKey : String
  kind : MessageRevisionKind
  preview : Option String
  content : Option EncodedContent
deriving DecidableEq

inductive MessageProjectionMutation where
  | preview (preview : ProjectedMessagePreview)
  | revision (revision : ProjectedMessageRevision)
deriving DecidableEq

namespace MessageProjectionMutation

def eventId : MessageProjectionMutation → MatrixEventId
  | .preview message => message.eventId
  | .revision edit => edit.eventId

def roomId : MessageProjectionMutation → MatrixRoomId
  | .preview message => message.roomId
  | .revision edit => edit.roomId

end MessageProjectionMutation

inductive MessageSyncIssueReason where
  | missingEnvelope
  | invalidEnvelope
  | senderMismatch
  | roomMismatch
  | unknownInstance
  | revokedInstance
  | agentInstanceMismatch
  | invalidSignature
  | outsideInstanceValidityWindow
  | untrustedEncryptedSender
  | undecryptable
deriving DecidableEq

structure UndecryptableSession where
  sender : String
  senderDevice : Option String
  sessionId : String

structure MessageSyncIssue where
  roomId : MatrixRoomId
  eventId : Option MatrixEventId
  reason : MessageSyncIssueReason
  mutationsBefore : Nat
  session : Option UndecryptableSession

structure MessageTimelineGap where
  roomId : MatrixRoomId
  previousBatch : Option MatrixBackfillToken

structure PendingTimelineGap where
  syncToken : MatrixSyncToken
  roomId : MatrixRoomId
  previousBatch : MatrixBackfillToken

structure MessageProjectionBatch where
  nextBatch : MatrixSyncToken
  mutations : List MessageProjectionMutation
  issues : List MessageSyncIssue
  gaps : List MessageTimelineGap

structure MessageBackfillBatch where
  gap : PendingTimelineGap
  mutations : List MessageProjectionMutation
  issues : List MessageSyncIssue
  complete : Bool

structure MessageRecoveryBatch where
  roomId : MatrixRoomId
  recovered : List MessageProjectionMutation
  reclassified : List MessageSyncIssue
  dismissed : List MatrixEventId

inductive MessageProjectionStoreFailureKind where
  | unavailable
  | conflict
  | corrupt
deriving DecidableEq

abbrev StoreResult (α : Type) := Except MessageProjectionStoreFailureKind α

-- The CHECK of message_projection_event on the columns of each kind of event;
-- a preview is the kind with no revision_kind.
def columnsFit (revisionKind : Option MessageRevisionKind) (preview : Option String) (content : Option EncodedContent) : Bool :=
  match revisionKind with
  | none | some .replace => preview.isSome && content.isSome
  | some .redact | some .moderate => preview.isNone && content.isNone

structure EventRow where
  eventId : MatrixEventId
  roomId : MatrixRoomId
  sequence : Nat
  messageId : MessageId
  revisionKind : Option MessageRevisionKind
  actorSubjectKey : String
  preview : Option String
  content : Option EncodedContent
  checked : columnsFit revisionKind preview content = true
deriving DecidableEq

inductive Visibility where
  | active
  | redacted
deriving DecidableEq

structure CurrentRow where
  messageId : MessageId
  roomId : MatrixRoomId
  baseEventId : MatrixEventId
  firstSequence : Nat
  lastSequence : Nat
  originServerTimestamp : Option Nat
  actorSubjectKey : String
  preview : String
  content : Option EncodedContent
  visibility : Visibility
  lastRevisionEventId : Option MatrixEventId
deriving DecidableEq

structure IssueRow where
  syncToken : MatrixSyncToken
  roomId : MatrixRoomId
  eventId : Option MatrixEventId
  reason : MessageSyncIssueReason
  reservedSequence : Option Nat
  session : Option UndecryptableSession

structure GapRow where
  syncToken : MatrixSyncToken
  roomId : MatrixRoomId
  previousBatch : Option MatrixBackfillToken
  afterEventId : Option MatrixEventId
  beforeEventId : Option MatrixEventId

structure LossRow where
  roomId : MatrixRoomId
  beforeEventId : MatrixEventId
  afterEventId : Option MatrixEventId

-- The tables of the projection, each in the order its rows were inserted.
structure Tables where
  events : List EventRow
  current : List CurrentRow
  issues : List IssueRow
  gaps : List GapRow
  losses : List LossRow
  cursor : Option MatrixSyncToken

def Tables.empty : Tables where
  events := []
  current := []
  issues := []
  gaps := []
  losses := []
  cursor := none

end AgentRoom
