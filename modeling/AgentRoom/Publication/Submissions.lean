import AgentRoom.Publication.Wire

namespace AgentRoom.Publication

open Library

inductive MessageSubmissionKind where
  | preview
  | replace
  | redact
deriving DecidableEq

inductive MessageSubmissionState where
  | claimed
  | submitUnknown
  | accepted
  | bound
deriving DecidableEq

inductive MessageStoreFailureKind where
  | conflict
  | notFound
  | unavailable
  | corrupt
deriving DecidableEq

structure MessageSubmissionClaim where
  submissionId : MessageSubmissionId
  kind : MessageSubmissionKind
  fingerprint : MessageSubmissionFingerprint
  transactionId : MatrixTransactionId

structure MessageSubmissionRecord where
  submissionId : MessageSubmissionId
  kind : MessageSubmissionKind
  fingerprint : MessageSubmissionFingerprint
  transactionId : MatrixTransactionId
  state : MessageSubmissionState
  eventId : Option MatrixEventId
deriving DecidableEq

inductive MessageSubmissionClaimOutcome where
  | created (record : MessageSubmissionRecord)
  | existing (record : MessageSubmissionRecord)

def MessageSubmissionClaimOutcome.record : MessageSubmissionClaimOutcome → MessageSubmissionRecord
  | .created record | .existing record => record

abbrev Submissions := List MessageSubmissionRecord

abbrev StoreResult (α : Type) := Except MessageStoreFailureKind α

def expectsEvent : MessageSubmissionState → Bool
  | .accepted | .bound => true
  | .claimed | .submitUnknown => false

def decodeSubmissionId (submissionId : MessageSubmissionId) : StoreResult Unit :=
  ensure .corrupt (Presence.isVersion7 submissionId.uuid = true)

-- The table's CHECK, and what decoding a row makes sure of once more.
def ensureRecordInvariant (record : MessageSubmissionRecord) : StoreResult Unit :=
  ensure .corrupt (expectsEvent record.state = record.eventId.isSome)

def decodeRecord (record : MessageSubmissionRecord) : StoreResult MessageSubmissionRecord := do
  decodeSubmissionId record.submissionId
  ensureRecordInvariant record
  return record

variable (rows : Submissions)

def loadBySubmission (submissionId : MessageSubmissionId) : StoreResult MessageSubmissionRecord :=
  match rows.find? (·.submissionId = submissionId) with
  | none => .error .notFound
  | some record => decodeRecord record

def loadByTransaction (transactionId : MatrixTransactionId) : StoreResult (Option MessageSubmissionRecord) :=
  match rows.find? (·.transactionId = transactionId) with
  | none => .ok none
  | some record => some <$> decodeRecord record

def writeState (submissionId : MessageSubmissionId) (state : MessageSubmissionState)
    (eventId : Option MatrixEventId) : StoreResult Submissions :=
  if rows.any (·.submissionId = submissionId) then
    .ok (rows.map fun row => if row.submissionId = submissionId then { row with state, eventId } else row)
  else .error .notFound

def ensureSameIntent (record : MessageSubmissionRecord) (claim : MessageSubmissionClaim) : StoreResult Unit :=
  ensure .conflict (record.kind = claim.kind ∧ record.fingerprint = claim.fingerprint ∧
    record.transactionId = claim.transactionId)

def ensureCompatibleEventId (record : MessageSubmissionRecord) (eventId : MatrixEventId) : StoreResult Unit :=
  ensure .conflict (record.eventId.all (· = eventId) = true)

-- INSERT .. ON CONFLICT(submission_id) DO NOTHING; the transaction is UNIQUE on its own.
def insertClaim (claim : MessageSubmissionClaim) : StoreResult (Submissions × Bool) :=
  if rows.any (·.submissionId = claim.submissionId) then .ok (rows, false)
  else if rows.any (·.transactionId = claim.transactionId) then .error .conflict
  else .ok (rows ++ [{
    submissionId := claim.submissionId
    kind := claim.kind
    fingerprint := claim.fingerprint
    transactionId := claim.transactionId
    state := .claimed
    eventId := none }], true)

def claimRecord (claim : MessageSubmissionClaim) : StoreResult (Submissions × MessageSubmissionClaimOutcome) := do
  let (rows, inserted) ← insertClaim rows claim
  let record ← loadBySubmission rows claim.submissionId
  if inserted then return (rows, .created record)
  else do
    ensureSameIntent record claim
    return (rows, .existing record)

def markUnknownRecord (submissionId : MessageSubmissionId) : StoreResult (Submissions × MessageSubmissionRecord) := do
  let record ← loadBySubmission rows submissionId
  if record.state = .claimed then do
    let rows ← writeState rows submissionId .submitUnknown none
    return (rows, { record with state := .submitUnknown })
  else return (rows, record)

def acceptEvent (record : MessageSubmissionRecord) (eventId : MatrixEventId) :
    StoreResult (Submissions × MessageSubmissionRecord) := do
  ensureCompatibleEventId record eventId
  if record.state ≠ .bound then do
    let rows ← writeState rows record.submissionId .accepted (some eventId)
    return (rows, { record with state := .accepted, eventId := some eventId })
  else return (rows, record)

def markAcceptedRecord (submissionId : MessageSubmissionId) (eventId : MatrixEventId) :
    StoreResult (Submissions × MessageSubmissionRecord) := do
  let record ← loadBySubmission rows submissionId
  acceptEvent rows record eventId

def markBoundRecord (submissionId : MessageSubmissionId) : StoreResult (Submissions × MessageSubmissionRecord) := do
  let record ← loadBySubmission rows submissionId
  match record.eventId, record.state with
  | none, _ => .error .corrupt
  | some eventId, .accepted => do
    let rows ← writeState rows submissionId .bound (some eventId)
    return (rows, { record with state := .bound })
  | some _, .bound => return (rows, record)
  | some _, .claimed | some _, .submitUnknown => .error .corrupt

def observeRecord (transactionId : MatrixTransactionId) (eventId : MatrixEventId) :
    StoreResult (Submissions × Option MessageSubmissionRecord) := do
  match ← loadByTransaction rows transactionId with
  | none => return (rows, none)
  | some record => do
    let (rows, record) ← acceptEvent rows record eventId
    return (rows, some record)

end AgentRoom.Publication
