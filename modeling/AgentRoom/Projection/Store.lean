import AgentRoom.Library.Fallible
import AgentRoom.Projection.Tables
import Mathlib.Data.List.Sort

namespace AgentRoom

structure EncodedMutation where
  eventId : MatrixEventId
  roomId : MatrixRoomId
  messageId : MessageId
  revisionKind : Option MessageRevisionKind
  originServerTimestamp : Option Nat
  actorSubjectKey : String
  preview : Option String
  content : Option EncodedContent

def encodeServerTimestamp (value : Option Nat) : StoreResult (Option Nat) :=
  if value.any fun timestamp => i64Max < timestamp then .error .corrupt else .ok value

def EncodedMutation.fromMutation : MessageProjectionMutation → StoreResult EncodedMutation
  | .preview message => do
    let originServerTimestamp ← encodeServerTimestamp message.originServerTimestamp
    return {
      eventId := message.eventId
      roomId := message.roomId
      messageId := message.messageId
      revisionKind := none
      originServerTimestamp
      actorSubjectKey := message.actorSubjectKey
      preview := some message.preview
      content := some message.content }
  | .revision edit => do
    let originServerTimestamp ← encodeServerTimestamp edit.originServerTimestamp
    return {
      eventId := edit.eventId
      roomId := edit.roomId
      messageId := edit.targetMessageId
      revisionKind := some edit.kind
      originServerTimestamp
      actorSubjectKey := edit.actorSubjectKey
      preview := edit.preview
      content := edit.content }

namespace Tables

-- COALESCE(MAX(..), 0) over a column.
def maximum (values : List Nat) : Nat := values.foldr max 0

variable (tables : Tables)

def eventSequences (roomId : MatrixRoomId) : List Nat :=
  (tables.events.filter (·.roomId = roomId)).map EventRow.sequence

def reservedSequences (roomId : MatrixRoomId) : List Nat :=
  (tables.issues.filter (·.roomId = roomId)).filterMap IssueRow.reservedSequence

-- Past i64 the sum is no integer any more and does not decode.
def nextSequence (roomId : MatrixRoomId) : StoreResult Nat :=
  let next := max (maximum (tables.eventSequences roomId)) (maximum (tables.reservedSequences roomId)) + 1
  if next ≤ i64Max then .ok next else .error .corrupt

-- ON CONFLICT(event_id) DO NOTHING; the other constraints still refuse the row.
def insertEvent (event : EncodedMutation) (sequence : Nat) : StoreResult (Tables × Nat) :=
  if checked : columnsFit event.revisionKind event.preview event.content = true then
    if tables.events.any (·.eventId = event.eventId) then .ok (tables, 0)
    else if tables.events.any fun row => row.roomId = event.roomId ∧ row.sequence = sequence then .error .conflict
    else
      let row : EventRow := {
        eventId := event.eventId
        roomId := event.roomId
        sequence
        messageId := event.messageId
        revisionKind := event.revisionKind
        actorSubjectKey := event.actorSubjectKey
        preview := event.preview
        content := event.content
        checked }
      .ok ({ tables with events := tables.events ++ [row] }, 1)
  else .error .unavailable

-- The unique index on (room_id, content_id) of the active rows, seen from one message.
def contentTaken (roomId : MatrixRoomId) (messageId : MessageId) (contentId : ContentId) : Bool :=
  tables.current.any fun row =>
    row.visibility = .active ∧ row.roomId = roomId ∧ row.messageId ≠ messageId ∧
      row.content.map EncodedContent.contentId = some contentId

def insertCurrent (event : EncodedMutation) (sequence : Nat) : StoreResult (Tables × Nat) :=
  match event.preview, event.content with
  | some preview, some content =>
    if tables.current.any (·.messageId = event.messageId) then .ok (tables, 0)
    else if tables.current.any (·.baseEventId = event.eventId) then .error .conflict
    else if tables.contentTaken event.roomId event.messageId content.contentId then .error .conflict
    else
      let row : CurrentRow := {
        messageId := event.messageId
        roomId := event.roomId
        baseEventId := event.eventId
        firstSequence := sequence
        lastSequence := sequence
        originServerTimestamp := event.originServerTimestamp
        actorSubjectKey := event.actorSubjectKey
        preview
        content := some content
        visibility := .active
        lastRevisionEventId := none }
      .ok ({ tables with current := tables.current ++ [row] }, 1)
  | _, _ => .error .corrupt

structure RevisionFields where
  eventId : MatrixEventId
  roomId : MatrixRoomId
  messageId : MessageId
  sequence : Nat
  revisionKind : MessageRevisionKind
  actorSubjectKey : String
  preview : Option String
  content : Option EncodedContent

variable (revision : RevisionFields)

def ownActive (row : CurrentRow) : Bool :=
  row.roomId = revision.roomId ∧ row.messageId = revision.messageId ∧
    row.actorSubjectKey = revision.actorSubjectKey ∧ row.visibility = .active

def appliedLater (row : CurrentRow) : Bool :=
  tables.events.any fun applied =>
    some applied.eventId = row.lastRevisionEventId ∧ revision.sequence < applied.sequence

def replaceRow (preview : String) (content : EncodedContent) (row : CurrentRow) : CurrentRow :=
  { row with
    preview
    content := some content
    lastRevisionEventId := some revision.eventId
    lastSequence := max row.lastSequence revision.sequence }

def applyReplacement : StoreResult Tables :=
  match revision.preview, revision.content with
  | some preview, some content =>
    let hit (row : CurrentRow) : Bool := ownActive revision row && !tables.appliedLater revision row
    if tables.current.any hit && tables.contentTaken revision.roomId revision.messageId content.contentId then
      .error .conflict
    else .ok { tables with
      current := tables.current.map fun row => if hit row then replaceRow revision preview content row else row }
  | _, _ => .error .corrupt

def redactRow (row : CurrentRow) : CurrentRow :=
  { row with
    content := none
    visibility := .redacted
    lastRevisionEventId := some revision.eventId
    lastSequence := max row.lastSequence revision.sequence }

def applyRedaction : StoreResult Tables :=
  .ok { tables with
    current := tables.current.map fun row => if ownActive revision row then redactRow revision row else row }

def applyRevisionFields : StoreResult Tables :=
  match revision.revisionKind with
  | .replace => tables.applyReplacement revision
  | .redact => tables.applyRedaction revision
  | .moderate => .ok tables

def pendingFields (row : EventRow) : Option RevisionFields :=
  match row.revisionKind with
  | none | some .moderate => none
  | some revisionKind => some {
      eventId := row.eventId
      roomId := row.roomId
      messageId := row.messageId
      sequence := row.sequence
      revisionKind
      actorSubjectKey := row.actorSubjectKey
      preview := row.preview
      content := row.content }

-- ORDER BY sequence ASC over the revisions the log already has for a message.
def pendingRevisions (roomId : MatrixRoomId) (messageId : MessageId) : List RevisionFields :=
  ((tables.events.filter fun row => row.roomId = roomId ∧ row.messageId = messageId).insertionSort
    fun first second => first.sequence ≤ second.sequence).filterMap pendingFields

def applyPendingRevisions (roomId : MatrixRoomId) (messageId : MessageId) : StoreResult Tables :=
  (tables.pendingRevisions roomId messageId).foldlM applyRevisionFields tables

def applyRevision (event : EncodedMutation) (sequence : Nat) : StoreResult Tables :=
  match event.revisionKind with
  | none => .error .corrupt
  | some revisionKind => tables.applyRevisionFields {
      eventId := event.eventId
      roomId := event.roomId
      messageId := event.messageId
      sequence
      revisionKind
      actorSubjectKey := event.actorSubjectKey
      preview := event.preview
      content := event.content }

def writeMutation (mutation : MessageProjectionMutation) (encoded : EncodedMutation) (sequence : Nat) : StoreResult Tables := do
  let (logged, inserted) ← tables.insertEvent encoded sequence
  if inserted = 0 then return logged
  else
    match mutation with
    | .preview _ =>
      let (shown, inserted) ← logged.insertCurrent encoded sequence
      if inserted = 1 then shown.applyPendingRevisions encoded.roomId encoded.messageId
      else return shown
    | .revision _ => logged.applyRevision encoded sequence

def applyMutation (mutation : MessageProjectionMutation) : StoreResult Tables := do
  let encoded ← EncodedMutation.fromMutation mutation
  let sequence ← tables.nextSequence encoded.roomId
  tables.writeMutation mutation encoded sequence

-- An event that is already in the log, or already has a place, takes no other.
def reserveSequence (roomId : MatrixRoomId) (eventId : MatrixEventId) : StoreResult (Option Nat) :=
  let known := (tables.events.any (·.eventId = eventId)) ||
    tables.issues.any fun row =>
      row.roomId = roomId ∧ row.eventId = some eventId ∧ row.reservedSequence.isSome
  if known then .ok none else (tables.nextSequence roomId).map some

def sameIssue (first second : IssueRow) : Bool :=
  first.syncToken = second.syncToken ∧ first.roomId = second.roomId ∧ first.eventId = second.eventId ∧
    first.reason = second.reason

-- Only an undecryptable event that is named and has its session is given a place.
def issueSession (issue : MessageSyncIssue) : Option UndecryptableSession :=
  if issue.reason = .undecryptable ∧ issue.eventId.isSome then issue.session else none

def placeFor (issue : MessageSyncIssue) : StoreResult (Option Nat) :=
  match issueSession issue, issue.eventId with
  | some _, some eventId => tables.reserveSequence issue.roomId eventId
  | _, _ => .ok none

-- INSERT OR IGNORE under the key of an issue.
def recordIssue (row : IssueRow) : Tables :=
  if tables.issues.any (sameIssue row) then tables else { tables with issues := tables.issues ++ [row] }

def persistIssue (syncToken : MatrixSyncToken) (tables : Tables) (issue : MessageSyncIssue) : StoreResult Tables := do
  let reserved ← tables.placeFor issue
  return tables.recordIssue {
    syncToken
    roomId := issue.roomId
    eventId := issue.eventId
    reason := issue.reason
    reservedSequence := reserved
    session := issueSession issue }

-- Issues go in before the mutation they were observed in front of.
def applyTimelineFrom (syncToken : MatrixSyncToken) (index : Nat) (tables : Tables) :
    List MessageProjectionMutation → List MessageSyncIssue → StoreResult Tables
  | [], issues => issues.foldlM (persistIssue syncToken) tables
  | mutation :: rest, issues => do
    let due (issue : MessageSyncIssue) : Bool := issue.mutationsBefore ≤ index
    let isolated ← (issues.takeWhile due).foldlM (persistIssue syncToken) tables
    let written ← isolated.applyMutation mutation
    applyTimelineFrom syncToken (index + 1) written rest (issues.dropWhile due)

def applyTimeline (syncToken : MatrixSyncToken) (tables : Tables) (mutations : List MessageProjectionMutation)
    (issues : List MessageSyncIssue) : StoreResult Tables :=
  applyTimelineFrom syncToken 0 tables mutations issues

-- ORDER BY origin_server_timestamp DESC, first_sequence DESC; NULL comes last.
def newer (first second : CurrentRow) : Bool :=
  match first.originServerTimestamp, second.originServerTimestamp with
  | some one, some other => other < one ∨ (one = other ∧ second.firstSequence < first.firstSequence)
  | some _, none => true
  | none, some _ => false
  | none, none => second.firstSequence < first.firstSequence

def latestEvent (tables : Tables) (roomId : MatrixRoomId) : Option MatrixEventId :=
  let pick (best : Option CurrentRow) (row : CurrentRow) : Option CurrentRow :=
    match best with
    | none => some row
    | some held => if newer row held then some row else some held
  ((tables.current.filter (·.roomId = roomId)).foldl pick none).map CurrentRow.baseEventId

def firstNewMessage (mutations : List MessageProjectionMutation) (roomId : MatrixRoomId) : Option MatrixEventId :=
  mutations.findSome? fun
    | .preview message => if message.roomId = roomId then some message.eventId else none
    | .revision _ => none

def recordLoss (tables : Tables) (roomId : MatrixRoomId) (afterEventId : Option MatrixEventId)
    (beforeEventId : MatrixEventId) : Tables :=
  if tables.losses.any fun row => row.roomId = roomId ∧ row.beforeEventId = beforeEventId then tables
  else { tables with losses := tables.losses ++ [{ roomId, beforeEventId, afterEventId }] }

-- INSERT OR IGNORE under the key of a gap.
def recordGap (tables : Tables) (row : GapRow) : Tables :=
  if tables.gaps.any fun old =>
      old.syncToken = row.syncToken ∧ old.roomId = row.roomId ∧ old.previousBatch = row.previousBatch then tables
  else { tables with gaps := tables.gaps ++ [row] }

def persistGap (batch : MessageProjectionBatch) (tables : Tables) (gap : MessageTimelineGap) : Tables :=
  let afterEventId := tables.latestEvent gap.roomId
  let beforeEventId := firstNewMessage batch.mutations gap.roomId
  let recorded := tables.recordGap {
    syncToken := batch.nextBatch
    roomId := gap.roomId
    previousBatch := gap.previousBatch
    afterEventId
    beforeEventId }
  match gap.previousBatch, beforeEventId with
  | none, some before => recorded.recordLoss gap.roomId afterEventId before
  | _, _ => recorded

def persistGaps (tables : Tables) (batch : MessageProjectionBatch) : Tables :=
  batch.gaps.foldl (persistGap batch) tables

def sameGap (gap : PendingTimelineGap) (row : GapRow) : Bool :=
  row.syncToken = gap.syncToken ∧ row.roomId = gap.roomId ∧ row.previousBatch = some gap.previousBatch

def recordTruncatedBackfill (tables : Tables) (batch : MessageBackfillBatch) : Tables :=
  if batch.complete then tables
  else
    let recorded := tables.gaps.find? (sameGap batch.gap)
    let before := (firstNewMessage batch.mutations batch.gap.roomId).or (recorded.bind GapRow.beforeEventId)
    match before with
    | none => tables
    | some before => tables.recordLoss batch.gap.roomId (recorded.bind GapRow.afterEventId) before

-- A transaction: an error leaves the tables the caller still has.
def applyBatch (tables : Tables) (batch : MessageProjectionBatch) : StoreResult Tables := do
  let gapped := tables.persistGaps batch
  let written ← gapped.applyTimeline batch.nextBatch batch.mutations batch.issues
  return { written with cursor := some batch.nextBatch }

def applyBackfillBatch (tables : Tables) (batch : MessageBackfillBatch) : StoreResult Tables := do
  let written ← tables.applyTimeline batch.gap.syncToken batch.mutations batch.issues
  let recorded := written.recordTruncatedBackfill batch
  return { recorded with gaps := recorded.gaps.filter fun row => !sameGap batch.gap row }

def undecryptable (roomId : MatrixRoomId) (eventId : MatrixEventId) (row : IssueRow) : Bool :=
  row.roomId = roomId ∧ row.eventId = some eventId ∧ row.reason = .undecryptable

def reservedSequence (tables : Tables) (roomId : MatrixRoomId) (eventId : MatrixEventId) : Option Nat :=
  ((tables.issues.filter (undecryptable roomId eventId)).filterMap IssueRow.reservedSequence).min?

def forgetUndecryptable (tables : Tables) (roomId : MatrixRoomId) (eventId : MatrixEventId) : Tables :=
  { tables with issues := tables.issues.filter fun row => !undecryptable roomId eventId row }

def recoverMutation (roomId : MatrixRoomId) (tables : Tables) (mutation : MessageProjectionMutation) : StoreResult Tables :=
  if mutation.roomId ≠ roomId then .error .corrupt
  else
    match tables.reservedSequence roomId mutation.eventId with
    | none => .ok tables
    | some sequence => do
      let encoded ← EncodedMutation.fromMutation mutation
      let written ← tables.writeMutation mutation encoded sequence
      return written.forgetUndecryptable roomId mutation.eventId

-- UPDATE OR REPLACE: a rewritten row drops whichever row holds its new key.
def reclassifyIssue (roomId : MatrixRoomId) (tables : Tables) (issue : MessageSyncIssue) : Tables :=
  match issue.eventId with
  | none => tables
  | some eventId =>
    let rewrite (row : IssueRow) : IssueRow :=
      { row with reason := issue.reason, reservedSequence := none, session := none }
    let rewritten := (tables.issues.filter (undecryptable roomId eventId)).map rewrite
    let keep (row : IssueRow) : Option IssueRow :=
      if undecryptable roomId eventId row then some (rewrite row)
      else if rewritten.any (sameIssue row) then none
      else some row
    { tables with issues := tables.issues.filterMap keep }

def applyRecoveryBatch (tables : Tables) (batch : MessageRecoveryBatch) : StoreResult Tables := do
  let recovered ← batch.recovered.foldlM (recoverMutation batch.roomId) tables
  let reclassified := batch.reclassified.foldl (reclassifyIssue batch.roomId) recovered
  return batch.dismissed.foldl (fun tables eventId => tables.forgetUndecryptable batch.roomId eventId) reclassified

end Tables

inductive StoreCall where
  | apply (batch : MessageProjectionBatch)
  | applyBackfill (batch : MessageBackfillBatch)
  | applyRecovery (batch : MessageRecoveryBatch)

def StoreCall.perform (tables : Tables) : StoreCall → StoreResult Tables
  | .apply batch => tables.applyBatch batch
  | .applyBackfill batch => tables.applyBackfillBatch batch
  | .applyRecovery batch => tables.applyRecoveryBatch batch

end AgentRoom
