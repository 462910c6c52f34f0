import AgentRoom.Domain.Failures
import AgentRoom.Publication.Records
import Mathlib.Data.String.Basic

namespace AgentRoom.Publication

open Library

inductive NetworkAgentSubmissionKind where
  | preview
  | replace
  | redact
deriving DecidableEq

inductive NetworkAgentSubmissionState where
  | claimed
  | submitUnknown
  | accepted
  | bound
deriving DecidableEq

structure NetworkAgentSubmissionClaim where
  submissionId : MessageSubmissionId
  kind : NetworkAgentSubmissionKind
  fingerprint : MessageSubmissionFingerprint
  transactionId : MatrixTransactionId

structure NetworkAgentSubmissionRecord where
  submissionId : MessageSubmissionId
  kind : NetworkAgentSubmissionKind
  fingerprint : MessageSubmissionFingerprint
  transactionId : MatrixTransactionId
  state : NetworkAgentSubmissionState
  eventId : Option MatrixEventId

abbrev NetworkSubmissions := List NetworkAgentSubmissionRecord

inductive SubmissionAnswer (ρ : Type) where
  | created (record : ρ)
  | existing (record : ρ)
  | marked (record : ρ)

def SubmissionAnswer.map {ρ τ : Type} (change : ρ → τ) : SubmissionAnswer ρ → SubmissionAnswer τ
  | .created record => .created (change record)
  | .existing record => .existing (change record)
  | .marked record => .marked (change record)

namespace Network

abbrev Result (α : Type) := Except RepositoryErrorKind α

def lengthBetween (least most : Nat) (text : String) : Bool := least ≤ text.toList.length && text.toList.length ≤ most

def checks (record : NetworkAgentSubmissionRecord) : Bool :=
  Presence.isVersion7 record.submissionId.uuid && lengthBetween 1 255 record.transactionId.text &&
    decide ((record.state = .accepted ∨ record.state = .bound) ↔ record.eventId.isSome = true) &&
    record.eventId.all (fun eventId => lengthBetween 2 255 eventId.text)

def load (rows : NetworkSubmissions) (submissionId : MessageSubmissionId) : Result NetworkAgentSubmissionRecord :=
  match rows.find? (·.submissionId = submissionId) with
  | none => .error .notFound
  | some record => .ok record

def writeState (rows : NetworkSubmissions) (submissionId : MessageSubmissionId) (state : NetworkAgentSubmissionState)
    (eventId : Option MatrixEventId) : Result NetworkSubmissions := do
  ensure .constraint (∀ row ∈ rows, row.submissionId = submissionId → checks { row with state, eventId } = true)
  return rows.map fun row => if row.submissionId = submissionId then { row with state, eventId } else row

-- INSERT .. ON CONFLICT DO NOTHING: the CHECKs come before the unique indexes.
def insertClaim (rows : NetworkSubmissions) (record : NetworkAgentSubmissionRecord) : Result (NetworkSubmissions × Bool) := do
  ensure .constraint (checks record = true)
  if rows.any (·.submissionId = record.submissionId) then return (rows, false)
  else do
    ensure .conflict (¬ rows.any (·.transactionId = record.transactionId) = true)
    return (rows ++ [record], true)

def claim (rows : NetworkSubmissions) (claim : NetworkAgentSubmissionClaim) :
    Result (NetworkSubmissions × SubmissionAnswer NetworkAgentSubmissionRecord) := do
  let (rows, inserted) ← insertClaim rows {
    submissionId := claim.submissionId
    kind := claim.kind
    fingerprint := claim.fingerprint
    transactionId := claim.transactionId
    state := .claimed
    eventId := none }
  let record ← load rows claim.submissionId
  if inserted then return (rows, .created record)
  else do
    ensure .conflict (record.kind = claim.kind ∧ record.fingerprint = claim.fingerprint ∧
      record.transactionId = claim.transactionId)
    return (rows, .existing record)

def markSubmitUnknown (rows : NetworkSubmissions) (submissionId : MessageSubmissionId) :
    Result (NetworkSubmissions × SubmissionAnswer NetworkAgentSubmissionRecord) := do
  let record ← load rows submissionId
  if record.state = .claimed then do
    let rows ← writeState rows submissionId .submitUnknown none
    return (rows, .marked { record with state := .submitUnknown })
  else return (rows, .marked record)

def accept (rows : NetworkSubmissions) (record : NetworkAgentSubmissionRecord) (eventId : MatrixEventId) :
    Result (NetworkSubmissions × NetworkAgentSubmissionRecord) := do
  ensure .conflict (record.eventId.all (· = eventId) = true)
  if record.state ≠ .bound then do
    let rows ← writeState rows record.submissionId .accepted (some eventId)
    return (rows, { record with state := .accepted, eventId := some eventId })
  else return (rows, record)

def markAccepted (rows : NetworkSubmissions) (submissionId : MessageSubmissionId) (eventId : MatrixEventId) :
    Result (NetworkSubmissions × SubmissionAnswer NetworkAgentSubmissionRecord) := do
  let record ← load rows submissionId
  let (rows, record) ← accept rows record eventId
  return (rows, .marked record)

def markBound (rows : NetworkSubmissions) (submissionId : MessageSubmissionId) :
    Result (NetworkSubmissions × SubmissionAnswer NetworkAgentSubmissionRecord) := do
  let record ← load rows submissionId
  match record.state with
  | .accepted => do
    let eventId ← record.eventId.elim (.error .corruptData) .ok
    let rows ← writeState rows submissionId .bound (some eventId)
    return (rows, .marked { record with state := .bound })
  | .bound => return (rows, .marked record)
  | .claimed | .submitUnknown => .error .corruptData

end Network

def maxMatrixIdLength : Nat := 512

def validEventId (value : String) : Bool :=
  4 ≤ value.utf8ByteSize && value.utf8ByteSize ≤ maxMatrixIdLength && value.toList.head? = some '$' &&
    !value.toList.any isControlChar

inductive SubmissionCall where
  | claim (claim : MessageSubmissionClaim)
  | markSubmitUnknown (submissionId : MessageSubmissionId)
  | markAccepted (submissionId : MessageSubmissionId) (eventId : MatrixEventId) (valid : validEventId eventId.text = true)
  | markBound (submissionId : MessageSubmissionId)

def MessageSubmissionKind.asNetwork : MessageSubmissionKind → NetworkAgentSubmissionKind
  | .preview => .preview
  | .replace => .replace
  | .redact => .redact

def MessageSubmissionState.asNetwork : MessageSubmissionState → NetworkAgentSubmissionState
  | .claimed => .claimed
  | .submitUnknown => .submitUnknown
  | .accepted => .accepted
  | .bound => .bound

def MessageSubmissionClaim.asNetwork (claim : MessageSubmissionClaim) : NetworkAgentSubmissionClaim where
  submissionId := claim.submissionId
  kind := claim.kind.asNetwork
  fingerprint := claim.fingerprint
  transactionId := claim.transactionId

def MessageSubmissionRecord.asNetwork (record : MessageSubmissionRecord) : NetworkAgentSubmissionRecord where
  submissionId := record.submissionId
  kind := record.kind.asNetwork
  fingerprint := record.fingerprint
  transactionId := record.transactionId
  state := record.state.asNetwork
  eventId := record.eventId

def MessageStoreFailureKind.asRepository : MessageStoreFailureKind → RepositoryErrorKind
  | .conflict => .conflict
  | .notFound => .notFound
  | .unavailable => .unavailable
  | .corrupt => .corruptData

def asNetworkAnswer {α β : Type} (change : α → β) : StoreResult α → Network.Result β
  | .ok value => .ok (change value)
  | .error kind => .error kind.asRepository

def MessageSubmissionClaimOutcome.answer : MessageSubmissionClaimOutcome → SubmissionAnswer MessageSubmissionRecord
  | .created record => .created record
  | .existing record => .existing record

def sqlite (rows : Submissions) : SubmissionCall → StoreResult (Submissions × SubmissionAnswer MessageSubmissionRecord)
  | .claim claim => (claimRecord rows claim).map fun done => (done.1, done.2.answer)
  | .markSubmitUnknown submissionId => (markUnknownRecord rows submissionId).map fun done => (done.1, .marked done.2)
  | .markAccepted submissionId eventId _ =>
    (markAcceptedRecord rows submissionId eventId).map fun done => (done.1, .marked done.2)
  | .markBound submissionId => (markBoundRecord rows submissionId).map fun done => (done.1, .marked done.2)

def postgres (rows : NetworkSubmissions) :
    SubmissionCall → Network.Result (NetworkSubmissions × SubmissionAnswer NetworkAgentSubmissionRecord)
  | .claim claim => Network.claim rows claim.asNetwork
  | .markSubmitUnknown submissionId => Network.markSubmitUnknown rows submissionId
  | .markAccepted submissionId eventId _ => Network.markAccepted rows submissionId eventId
  | .markBound submissionId => Network.markBound rows submissionId

def left {ε ρ τ : Type} (rows : ρ) : Except ε (ρ × τ) → ρ
  | .ok (next, _) => next
  | .error _ => rows

def answers {ε ρ τ : Type} (store : ρ → SubmissionCall → Except ε (ρ × τ)) : ρ → List SubmissionCall → ρ × List (Except ε τ)
  | rows, [] => (rows, [])
  | rows, call :: rest =>
    let result := store rows call
    let (final, later) := answers store (left rows result) rest
    (final, result.map Prod.snd :: later)

end AgentRoom.Publication
