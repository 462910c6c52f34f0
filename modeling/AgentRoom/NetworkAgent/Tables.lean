import AgentRoom.Domain.Failures
import AgentRoom.Library.Json
import AgentRoom.Projection.Tables

namespace AgentRoom.NetworkAgents

open Library

inductive NetworkAgentGapReason where
  | tooMany
  | undecryptableBeforeJoin
deriving DecidableEq

structure NetworkAgentTimelineGap where
  afterEventId : Option MatrixEventId
  reason : NetworkAgentGapReason
deriving DecidableEq

structure NetworkAgentMessageActor where
  matrixUserId : String
  nameFolded : String

structure NetworkAgentInboxMessage where
  eventId : MatrixEventId
  roomId : MatrixRoomId
  messageId : MessageId
  actorKey : String
  actor : NetworkAgentMessageActor
  fromMe : Bool
  mentionsMe : Bool
  preview : Json
  sentAt : UtcMillis
  gap : Option NetworkAgentTimelineGap

-- A revision names the message it is for and the author who may revise it.
structure RevisionTarget where
  roomId : MatrixRoomId
  messageId : MessageId
  actorKey : String
deriving DecidableEq

inductive NetworkAgentInboxChange where
  | message (message : NetworkAgentInboxMessage)
  | replace (target : RevisionTarget) (patch : Json)
  | redact (target : RevisionTarget)

structure NetworkAgentBeforeJoinGap where
  roomId : MatrixRoomId
  joinedAt : UtcMillis

structure NetworkAgentInboxAppend where
  expectedSyncToken : Option MatrixSyncToken
  nextSyncToken : MatrixSyncToken
  changes : List NetworkAgentInboxChange
  receivedAt : UtcMillis
  capacity : Nat
  historyCapacity : Nat
  undecryptableBeforeJoin : List NetworkAgentBeforeJoinGap

inductive NetworkAgentInboxAppendOutcome where
  | applied (appended : Nat)
  | stale

inductive NetworkAgentAckOutcome where
  | acknowledged (pending : Nat)
  | notPending (pending : Nat)

structure NetworkAgentMessageRetention where
  defaultDays : Nat
  graceDays : Nat

structure NetworkAgentRoomRecord where
  catalogId : RoomCatalogId
  matrixRoomId : MatrixRoomId
  joinedAt : UtcMillis

structure InboxRow where
  sequence : Nat
  eventId : MatrixEventId
  roomId : MatrixRoomId
  messageId : MessageId
  actorKey : String
  preview : Json
  receivedAt : UtcMillis
  gapReason : Option NetworkAgentGapReason
  gapAfterEventId : Option MatrixEventId
  beforeJoinGap : Bool
  sentAt : Option UtcMillis

structure MessageRow where
  sequence : Nat
  eventId : MatrixEventId
  roomId : MatrixRoomId
  messageId : MessageId
  actorKey : String
  actor : NetworkAgentMessageActor
  mentionsMe : Bool
  preview : Json
  receivedAt : UtcMillis
  sentAt : Option UtcMillis

inductive BeforeJoinGapStatus where
  | pending
  | reported
deriving DecidableEq

-- The two before_join_gap columns of a room are filled together.
structure BeforeJoinGapMark where
  status : BeforeJoinGapStatus
  joinedAtMs : UtcMillis

structure RoomRow where
  room : NetworkAgentRoomRecord
  beforeJoinGap : Option BeforeJoinGapMark

-- One network agent: its own row and the rows of the three tables that refer to
-- it, each table in the order its rows were inserted.
structure NetworkAgent where
  disabled : Bool
  syncToken : Option MatrixSyncToken
  inboxSequence : Nat
  ackedSequence : Nat
  droppedMessages : Nat
  inbox : List InboxRow
  messages : List MessageRow
  rooms : List RoomRow

def NetworkAgent.fresh : NetworkAgent where
  disabled := false
  syncToken := none
  inboxSequence := 0
  ackedSequence := 0
  droppedMessages := 0
  inbox := []
  messages := []
  rooms := []

def InboxRow.target (row : InboxRow) : RevisionTarget := ⟨row.roomId, row.messageId, row.actorKey⟩

def MessageRow.target (row : MessageRow) : RevisionTarget := ⟨row.roomId, row.messageId, row.actorKey⟩

def NetworkAgentInboxMessage.target (message : NetworkAgentInboxMessage) : RevisionTarget :=
  ⟨message.roomId, message.messageId, message.actorKey⟩

structure NetworkAgentInboxEntry where
  sequence : Nat
  eventId : MatrixEventId
  roomId : MatrixRoomId
  preview : Json
  receivedAt : UtcMillis
  gaps : List NetworkAgentTimelineGap

structure NetworkAgentInboxPage where
  syncToken : Option MatrixSyncToken
  entries : List NetworkAgentInboxEntry
  pending : Nat
  dropped : Nat

end AgentRoom.NetworkAgents
