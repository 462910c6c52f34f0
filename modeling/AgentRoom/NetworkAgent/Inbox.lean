import AgentRoom.Library.Relation
import AgentRoom.NetworkAgent.Tables

namespace AgentRoom.NetworkAgents

open Library

def lengthBetween (text : String) (low high : Nat) : Bool := decide (low ≤ text.length ∧ text.length ≤ high)

def roomIdLike (text : String) : Bool :=
  match text.toList with
  | '!' :: rest => rest.contains ':'
  | _ => false

def isObject : Json → Bool
  | .object _ => true
  | _ => false

-- The CHECK constraints that the record of messages and the inbox share.
def messageChecks (message : NetworkAgentInboxMessage) : Bool :=
  lengthBetween message.eventId.text 2 255 && lengthBetween message.actorKey 1 600 &&
    lengthBetween message.roomId.text 4 512 && roomIdLike message.roomId.text && isObject message.preview

def actorChecks (actor : NetworkAgentMessageActor) : Bool :=
  decide (actor.matrixUserId.length ≤ 512 ∧ actor.nameFolded.length ≤ 1024)

-- Only a stretch of too many messages is kept on an entry.
def gapChecks (gap : Option NetworkAgentTimelineGap) : Bool :=
  gap.all fun known =>
    decide (known.reason = .tooMany) && known.afterEventId.all fun event => lengthBetween event.text 2 255

def inboxEntry (row : InboxRow) : NetworkAgentInboxEntry where
  sequence := row.sequence
  eventId := row.eventId
  roomId := row.roomId
  preview := row.preview
  receivedAt := row.receivedAt
  gaps := (if row.beforeJoinGap then [⟨none, .undecryptableBeforeJoin⟩] else []) ++
    (row.gapReason.map fun reason => ⟨row.gapAfterEventId, reason⟩).toList

def inScope (room : Option MatrixRoomId) (row : InboxRow) : Bool := room.all (row.roomId = ·)

def countPending (room : Option MatrixRoomId) (inbox : List InboxRow) : Nat := (inbox.filter (inScope room)).length

-- The first statement of pending reads the counter, the second the entries, the
-- last one how many there are: other calls may come between them.
def pendingCounter (agent : NetworkAgent) : Option MatrixSyncToken × Nat := (agent.syncToken, agent.droppedMessages)

def pendingEntries (room : Option MatrixRoomId) (limit : Nat) (agent : NetworkAgent) : List NetworkAgentInboxEntry :=
  ((agent.inbox.filter (inScope room)).take limit).map inboxEntry

def pending (room : Option MatrixRoomId) (limit : Nat) (agent : NetworkAgent) : NetworkAgentInboxPage where
  syncToken := (pendingCounter agent).1
  entries := pendingEntries room limit agent
  pending := countPending room agent.inbox
  dropped := (pendingCounter agent).2

def recordNetworkAgentRoom (room : NetworkAgentRoomRecord) (agent : NetworkAgent) : NetworkAgent :=
  if agent.rooms.any (·.room.matrixRoomId = room.matrixRoomId) then agent
  else { agent with rooms := agent.rooms ++ [⟨room, none⟩] }

structure BeforeJoinGaps where
  pending : List MatrixRoomId
  reported : List MatrixRoomId

namespace BeforeJoinGaps

-- A join on record, and one seen again, is not marked a second time.
def marks (gap : NetworkAgentBeforeJoinGap) (row : RoomRow) : Bool :=
  decide (row.room.matrixRoomId = gap.roomId) && row.beforeJoinGap.all (·.joinedAtMs < gap.joinedAt)

def mark (rooms : List RoomRow) (gap : NetworkAgentBeforeJoinGap) : List RoomRow :=
  rooms.map fun row => if marks gap row then { row with beforeJoinGap := some ⟨.pending, gap.joinedAt⟩ } else row

def forInbox : NetworkAgentInboxChange → Bool
  | .message message => !message.fromMe
  | _ => false

def isPending (row : RoomRow) : Bool := row.beforeJoinGap.any (·.status = .pending)

def load (append : NetworkAgentInboxAppend) (rooms : List RoomRow) : List RoomRow × BeforeJoinGaps :=
  let marked := append.undecryptableBeforeJoin.foldl mark rooms
  (marked, {
    pending := if append.changes.any forInbox then (marked.filter isPending).map (·.room.matrixRoomId) else []
    reported := [] })

def owes (gaps : BeforeJoinGaps) (roomId : MatrixRoomId) : Bool := decide (roomId ∈ gaps.pending)

def told (gaps : BeforeJoinGaps) (roomId : MatrixRoomId) : BeforeJoinGaps :=
  if gaps.owes roomId then
    { pending := gaps.pending.filter (· ≠ roomId), reported := gaps.reported ++ [roomId] }
  else gaps

def recordReported (gaps : BeforeJoinGaps) (rooms : List RoomRow) : List RoomRow :=
  rooms.map fun row =>
    if row.room.matrixRoomId ∈ gaps.reported then
      { row with beforeJoinGap := row.beforeJoinGap.map fun mark => { mark with status := .reported } }
    else row

end BeforeJoinGaps

-- What an append has written so far, still uncommitted.
structure Writing where
  inbox : List InboxRow
  messages : List MessageRow
  sequence : Nat
  beforeJoin : BeforeJoinGaps

section

variable (append : NetworkAgentInboxAppend)

section

variable (message : NetworkAgentInboxMessage)

def inboxRow (sequence : Nat) (beforeJoin : Bool) : InboxRow where
  sequence := sequence
  eventId := message.eventId
  roomId := message.roomId
  messageId := message.messageId
  actorKey := message.actorKey
  preview := message.preview
  receivedAt := append.receivedAt
  gapReason := message.gap.map (·.reason)
  gapAfterEventId := message.gap.bind (·.afterEventId)
  beforeJoinGap := beforeJoin
  sentAt := some message.sentAt

def messageRow (sequence : Nat) : MessageRow where
  sequence := sequence
  eventId := message.eventId
  roomId := message.roomId
  messageId := message.messageId
  actorKey := message.actorKey
  actor := message.actor
  mentionsMe := message.mentionsMe
  preview := message.preview
  receivedAt := append.receivedAt
  sentAt := some message.sentAt

def appendOperation : String := "network_agent.inbox_append"

def recordedEvent (messages : List MessageRow) (eventId : MatrixEventId) : Bool := messages.any (·.eventId = eventId)

def pendingEvent (inbox : List InboxRow) (eventId : MatrixEventId) : Bool := inbox.any (·.eventId = eventId)

def recordMessage (sequence : Nat) (messages : List MessageRow) : RepositoryResult (List MessageRow × Bool) :=
  if !(messageChecks message && actorChecks message.actor) then .error ⟨appendOperation, .constraint⟩
  else if recordedEvent messages message.eventId then .ok (messages, false)
  else .ok (messages ++ [messageRow append message sequence], true)

def insertInbox (sequence : Nat) (beforeJoin : Bool) (inbox : List InboxRow) : RepositoryResult (List InboxRow × Bool) :=
  if !(messageChecks message && gapChecks message.gap) then .error ⟨appendOperation, .constraint⟩
  else if pendingEvent inbox message.eventId then .ok (inbox, false)
  else .ok (inbox ++ [inboxRow append message sequence beforeJoin], true)

def applyMessage (writing : Writing) : RepositoryResult (Writing × Bool) := do
  if i64Max ≤ writing.sequence then throw ⟨appendOperation, .corruptData⟩
  let next := writing.sequence + 1
  let (messages, recorded) ← recordMessage append message next writing.messages
  if !recorded then return (writing, false)
  let written := { writing with messages := messages, sequence := next }
  if message.fromMe then return (written, false)
  let owed := writing.beforeJoin.owes message.roomId
  let (inbox, inserted) ← insertInbox append message next owed writing.inbox
  let beforeJoin := if inserted && owed then writing.beforeJoin.told message.roomId else writing.beforeJoin
  return ({ written with inbox := inbox, beforeJoin := beforeJoin }, inserted)

end

-- preview || patch: the fields of the patch stand for those of the same name. What
-- is not an object any more fails the CHECK on the column.
def overlay : Json → Json → RepositoryResult Json
  | .object fields, .object patch =>
    .ok (.object (patch ++ fields.filter fun field => !patch.any fun other => other.1 = field.1))
  | _, _ => .error ⟨appendOperation, .constraint⟩

def applyReplace (target : RevisionTarget) (patch : Json) (writing : Writing) : RepositoryResult Writing := do
  let inbox ← updateWhere (fun row => row.target = target)
    (fun row => (fun preview => { row with preview := preview }) <$> overlay row.preview patch) writing.inbox
  let messages ← updateWhere (fun row => row.target = target)
    (fun row => (fun preview => { row with preview := preview }) <$> overlay row.preview patch) writing.messages
  return { writing with inbox := inbox, messages := messages }

def applyRedact (target : RevisionTarget) (writing : Writing) : Writing :=
  { writing with
    inbox := writing.inbox.filter fun row => row.target ≠ target
    messages := writing.messages.filter fun row => row.target ≠ target }

def applyChange (change : NetworkAgentInboxChange) (writing : Writing) : RepositoryResult (Writing × Bool) :=
  match change with
  | .message message => applyMessage append message writing
  | .replace target patch => (·, false) <$> applyReplace target patch writing
  | .redact target => .ok (applyRedact target writing, false)

-- row_number() OVER (PARTITION BY matrix_room_id ORDER BY sequence DESC)
def newer {ρ : Type} (room : ρ → MatrixRoomId) (sequence : ρ → Nat) (rows : List ρ) (row : ρ) : Nat :=
  (rows.filter fun other => room other = room row ∧ sequence row ≤ sequence other).length

def overCapacity (inbox : List InboxRow) (row : InboxRow) : Bool :=
  decide (append.capacity < newer InboxRow.roomId InboxRow.sequence inbox row)

def trimToCapacity (inbox : List InboxRow) : List InboxRow × Nat :=
  (inbox.filter fun row => !overCapacity append inbox row, (inbox.filter (overCapacity append inbox)).length)

def messageRoom : NetworkAgentInboxChange → Option MatrixRoomId
  | .message message => some message.roomId
  | _ => none

def trimHistory (messages : List MessageRow) : List MessageRow :=
  let rooms := append.changes.filterMap messageRoom
  let ranked := messages.filter fun row => row.roomId ∈ rooms
  messages.filter fun row =>
    !(decide (row.roomId ∈ rooms) && decide (append.historyCapacity < newer MessageRow.roomId MessageRow.sequence ranked row))

def u32Max : Nat := 4294967295

def applyCounted (state : Writing × Nat) (change : NetworkAgentInboxChange) : RepositoryResult (Writing × Nat) := do
  let (writing, inserted) ← applyChange append change state.1
  return (writing, if inserted then min (state.2 + 1) u32Max else state.2)

def startWriting (agent : NetworkAgent) : Writing where
  inbox := agent.inbox
  messages := agent.messages
  sequence := agent.inboxSequence
  beforeJoin := (BeforeJoinGaps.load append agent.rooms).2

def commitWriting (agent : NetworkAgent) (writing : Writing) : NetworkAgent :=
  { agent with
    syncToken := some append.nextSyncToken
    inboxSequence := writing.sequence
    droppedMessages := agent.droppedMessages + (trimToCapacity append writing.inbox).2
    inbox := (trimToCapacity append writing.inbox).1
    messages := trimHistory append writing.messages
    rooms := writing.beforeJoin.recordReported (BeforeJoinGaps.load append agent.rooms).1 }

end

def append (batch : NetworkAgentInboxAppend) (agent : NetworkAgent) :
    RepositoryResult (NetworkAgent × NetworkAgentInboxAppendOutcome) :=
  if agent.disabled ∨ agent.syncToken ≠ batch.expectedSyncToken then .ok (agent, .stale)
  else do
    let (writing, appended) ← batch.changes.foldlM (applyCounted batch) (startWriting batch agent, 0)
    return (commitWriting batch agent writing, .applied appended)

def settles (room : Option MatrixRoomId) (sequence : Nat) (row : InboxRow) : Bool :=
  decide (row.sequence ≤ sequence) && inScope room row

def acknowledgedRow (eventId : MatrixEventId) (room : Option MatrixRoomId) (inbox : List InboxRow) : Option InboxRow :=
  inbox.find? fun row => decide (row.eventId = eventId) && inScope room row

def acknowledge (eventId : MatrixEventId) (room : Option MatrixRoomId) (agent : NetworkAgent) :
    NetworkAgent × NetworkAgentAckOutcome :=
  match acknowledgedRow eventId room agent.inbox with
  | none => (agent, .notPending (countPending room agent.inbox))
  | some row =>
    let inbox := agent.inbox.filter fun other => !settles room row.sequence other
    ({ agent with
        inbox := inbox
        ackedSequence := if room.isNone then max agent.ackedSequence row.sequence else agent.ackedSequence
        droppedMessages := 0 },
      .acknowledged (countPending room inbox))

def dayMillis : Nat := 24 * 60 * 60 * 1000

-- The retention of a room is the longest one in the catalogue, if there is any.
def expiredCopy (now : UtcMillis) (retention : NetworkAgentMessageRetention) (catalog : MatrixRoomId → Option Nat)
    (room : MatrixRoomId) (receivedAt : UtcMillis) (sentAt : Option UtcMillis) : Bool :=
  decide ((sentAt.getD receivedAt).value +
    (retention.graceDays + (catalog room).getD retention.defaultDays) * dayMillis < now.value)

section

variable (now : UtcMillis) (retention : NetworkAgentMessageRetention) (catalog : MatrixRoomId → Option Nat)

def expiredEntry (row : InboxRow) : Bool := expiredCopy now retention catalog row.roomId row.receivedAt row.sentAt

def expiredMessage (row : MessageRow) : Bool := expiredCopy now retention catalog row.roomId row.receivedAt row.sentAt

def pruneAgentCopies (agent : NetworkAgent) : NetworkAgent × Nat :=
  let inbox := (agent.inbox.filter (expiredEntry now retention catalog)).length
  let messages := (agent.messages.filter (expiredMessage now retention catalog)).length
  ({ agent with
      inbox := agent.inbox.filter fun row => !expiredEntry now retention catalog row
      messages := agent.messages.filter fun row => !expiredMessage now retention catalog row
      droppedMessages := agent.droppedMessages + inbox },
    inbox + messages)

end

end AgentRoom.NetworkAgents
