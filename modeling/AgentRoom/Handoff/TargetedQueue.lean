import AgentRoom.Domain.Failures
import AgentRoom.Handoff.Row
import AgentRoom.Handoff.Targeted
import AgentRoom.Library.Relation

namespace AgentRoom

open Library

structure TargetedDetails where
  sourceRoomId : MatrixRoomReference
  sourceEventId : HandoffSourceEventId
  digest : Sha256Digest
  byteLength : ContentByteLength
  mediaType : ContentMediaType
  permissions : HandoffPermissions
  purpose : HandoffPurpose

structure DetailedTargeted where
  handoff : TargetedHandoff
  details : TargetedDetails

-- One row of context_handoff. A timestamp column keeps its millisecond.
structure TargetedRow where
  id : HandoffId
  principalId : PrincipalId
  targetInstanceId : AgentInstanceId
  sourceRoomId : String
  sourceEventId : String
  sourceMessageId : Option MessageId
  contentId : ContentId
  allowedPurpose : String
  permissions : List String
  state : String
  approvedAt : Option UtcMillis
  createdAt : Option UtcMillis
  queuedAt : Option UtcMillis
  deliveredAt : Option UtcMillis
  consumedAt : Option UtcMillis
  resolvedAt : Option UtcMillis
  expiresAt : UtcMillis
  failureCode : Option (List UInt8)
  requestFingerprint : Option (BitVec 256)
  version : Int

-- What the tables joined for reading hold for good: the agent of an instance,
-- and the digest, length and media type of a content object.
structure TargetCatalog where
  agentOf : AgentInstanceId → Option AgentId
  contentOf : ContentId → Option (BitVec 256 × Int × String)

structure TargetAccess where
  instanceLive : AgentInstanceId → Bool
  agentActive : AgentId → Bool
  bindingCapable : AgentInstanceId → Bool
  deviceOf : AgentInstanceId → Option DeviceId
  deviceTrusted : DeviceId → Bool
  ownerOf : DeviceId → Option PrincipalId
  principalActive : PrincipalId → Bool
  operates : PrincipalId → AgentId → Bool
  contentReadable : ContentId → UtcMillis → Bool
  contentShared : ContentId → String → String → Bool

namespace TargetedRow

def isOpenState (state : String) : Bool := state = "queued" || state = "delivered"

def isActiveState (state : String) : Bool := ["proposed", "approved", "queued", "delivered"].contains state

def codeChecked (code : List UInt8) : Bool := 1 ≤ code.length && code.length ≤ 128

def timestampsChecked (row : TargetedRow) : Bool :=
  row.createdAt.all (· < row.expiresAt) && row.queuedAt.all (fun queuedAt => row.createdAt.any (· ≤ queuedAt)) &&
    row.resolvedAt.all (fun resolvedAt => ((row.deliveredAt.or row.queuedAt).or row.approvedAt).all (· ≤ resolvedAt)) &&
    (row.sourceMessageId.isNone || row.resolvedAt.isNone || row.state = "expired" || row.resolvedAt.all (· < row.expiresAt))

def checked (row : TargetedRow) : Bool :=
  HandoffRow.versionSeven row.id.uuid && 4 ≤ row.sourceRoomId.length && row.sourceRoomId.length ≤ 512 &&
    4 ≤ row.sourceEventId.length && row.sourceEventId.length ≤ 512 &&
    row.sourceMessageId.all (fun id => HandoffRow.versionSeven id.uuid) &&
    ["inspect", "summarize", "reply_draft"].contains row.allowedPurpose &&
    ["proposed", "approved", "queued", "delivered", "consumed", "declined", "revoked", "expired", "failed"].contains row.state &&
    row.failureCode.all codeChecked && 0 ≤ row.version && 1 ≤ row.permissions.length && row.permissions.length ≤ 3 &&
    row.permissions.all ["read_text", "read_attachments", "include_metadata"].contains && row.timestampsChecked

def write (operation : String) (row : TargetedRow) : RepositoryResult TargetedRow :=
  if row.checked then .ok row else .error (constraint operation)

theorem write_checked {row written : TargetedRow} (done : row.write operation = .ok written) : written.checked = true := by
  unfold write at done
  split at done
  · rename_i fits
    cases done
    exact fits
  · cases done

def activeKey (row : TargetedRow) : PrincipalId × AgentInstanceId × String × ContentId × String :=
  (row.principalId, row.targetInstanceId, row.sourceEventId, row.contentId, row.allowedPurpose)

def decodeStatus : String → Option TargetedHandoffStatus
  | "approved" | "queued" => some .queued
  | "delivered" => some .delivered
  | "consumed" => some .consumed
  | "declined" => some .declined
  | "revoked" => some .revoked
  | "expired" => some .expired
  | "failed" => some .failed
  | _ => none

def found {α : Type} (operation : String) : Option α → RepositoryResult α
  | some value => .ok value
  | none => .error (corruptData operation)

def decodeVersion (operation : String) (version : Int) : RepositoryResult Nat :=
  if 0 ≤ version then .ok version.toNat else .error (corruptData operation)

def decodeFailure (operation : String) : Option (List UInt8) → RepositoryResult (Option HandoffFailureCode)
  | some code => do return some (← orCorrupt operation (HandoffFailureCode.new code))
  | none => .ok none

def decodeDetails (catalog : TargetCatalog) (operation : String) (row : TargetedRow) : RepositoryResult TargetedDetails := do
  let (digest, byteLength, mediaType) ← found operation (catalog.contentOf row.contentId)
  let byteLength ← decodeVersion operation byteLength
  let permissions ← row.permissions.mapM fun permission => orCorrupt operation (HandoffPermission.tryFrom permission)
  let sourceRoomId ← orCorrupt operation (MatrixRoomReference.new row.sourceRoomId)
  let sourceEventId ← orCorrupt operation (HandoffSourceEventId.new row.sourceEventId)
  let byteLength ← orCorrupt operation (ContentByteLength.new byteLength)
  let mediaType ← orCorrupt operation (ContentMediaType.new mediaType)
  let permissions ← orCorrupt operation (HandoffPermissions.new permissions)
  let purpose ← orCorrupt operation (HandoffPurpose.tryFrom row.allowedPurpose)
  return { sourceRoomId, sourceEventId, digest := ⟨digest⟩, byteLength, mediaType, permissions, purpose }

def decodeHandoff (catalog : TargetCatalog) (operation : String) (row : TargetedRow) : RepositoryResult DetailedTargeted := do
  let status ← found operation (decodeStatus row.state)
  let version ← decodeVersion operation row.version
  let sourceMessageId ← found operation row.sourceMessageId
  let targetAgentId ← found operation (catalog.agentOf row.targetInstanceId)
  let details ← decodeDetails catalog operation row
  let createdAt ← found operation (row.createdAt.or row.approvedAt)
  let queuedAt ← found operation (row.queuedAt.or row.approvedAt)
  let failureCode ← decodeFailure operation row.failureCode
  let fields : TargetedHandoffFields := {
    id := row.id
    principalId := row.principalId
    sourceMessageId
    targetAgentId
    targetInstanceId := row.targetInstanceId
    contentId := row.contentId
    createdAt
    expiresAt := row.expiresAt }
  let handoff ← orCorrupt operation <| TargetedHandoff.restore fields status queuedAt row.deliveredAt row.consumedAt
    row.resolvedAt failureCode version
  return { handoff, details }

end TargetedRow

abbrev TargetedRows := List TargetedRow

structure QueueTargetedHandoff where
  handoff : DetailedTargeted
  requestFingerprint : BitVec 256

structure ClaimTargetedHandoff where
  principalId : PrincipalId
  deviceId : DeviceId
  targetInstanceId : AgentInstanceId
  claimedAt : UtcMillis

inductive TargetedHandoffReceiptOutcome where
  | consumed
  | declined (code : HandoffFailureCode)
  | failed (code : HandoffFailureCode)

structure RecordTargetedHandoffReceipt where
  principalId : PrincipalId
  deviceId : DeviceId
  targetInstanceId : AgentInstanceId
  handoffId : HandoffId
  outcome : TargetedHandoffReceiptOutcome
  recordedAt : UtcMillis

inductive QueueTargetedHandoffOutcome where
  | created (handoff : DetailedTargeted)
  | existing (handoff : DetailedTargeted)

namespace TargetedRows

def asciiBytes (text : String) : List UInt8 := text.toList.map fun character => UInt8.ofNat character.toNat

def targetRevoked : HandoffFailureCode := ⟨asciiBytes "handoff.target_revoked", by decide⟩

def targetDeviceRevoked : HandoffFailureCode := ⟨asciiBytes "handoff.target_device_revoked", by decide⟩

def loadHandoff (catalog : TargetCatalog) (operation : String) (rows : TargetedRows) (id : HandoffId) :
    RepositoryResult (Option DetailedTargeted) :=
  match rows.find? fun row => row.id = id && row.sourceMessageId.isSome &&
      (catalog.agentOf row.targetInstanceId).isSome && (catalog.contentOf row.contentId).isSome with
  | none => .ok none
  | some row => do return some (← row.decodeHandoff catalog operation)

def isDue (time : UtcMillis) (row : TargetedRow) : Bool := TargetedRow.isOpenState row.state && row.expiresAt ≤ time

def expired (time : UtcMillis) (row : TargetedRow) : TargetedRow :=
  { row with state := "expired", resolvedAt := some time, failureCode := none, version := row.version + 1 }

def expireHandoff (operation : String) (id : HandoffId) (time : UtcMillis) (rows : TargetedRows) : RepositoryResult TargetedRows :=
  updateWhere (fun row => row.id = id && isDue time row) (fun row => (expired time row).write operation) rows

def expireHandoffsForInstance (operation : String) (instanceId : AgentInstanceId) (time : UtcMillis) (rows : TargetedRows) :
    RepositoryResult TargetedRows :=
  updateWhere (fun row => row.targetInstanceId = instanceId && isDue time row)
    (fun row => (expired time row).write operation) rows

section

variable (catalog : TargetCatalog) (access : TargetAccess)

def deviceUsable (instanceId : AgentInstanceId) : Bool :=
  (access.deviceOf instanceId).any fun device => access.deviceTrusted device && (access.ownerOf device).any access.principalActive

-- The row the SELECT of the insert yields, when its joins find one.
def admits (request : DetailedTargeted) : Bool :=
  let fields := request.handoff.fields
  let details := request.details
  catalog.agentOf fields.targetInstanceId = some fields.targetAgentId && access.instanceLive fields.targetInstanceId &&
    access.agentActive fields.targetAgentId && access.bindingCapable fields.targetInstanceId &&
    deviceUsable access fields.targetInstanceId && access.operates fields.principalId fields.targetAgentId &&
    catalog.contentOf fields.contentId = some (details.digest.bytes, (details.byteLength.value : Int), details.mediaType.value) &&
    access.contentReadable fields.contentId fields.expiresAt &&
    access.contentShared fields.contentId details.sourceRoomId.value details.sourceEventId.value

def queuedRow (request : QueueTargetedHandoff) : TargetedRow :=
  let fields := request.handoff.handoff.fields
  let details := request.handoff.details
  { id := fields.id
    principalId := fields.principalId
    targetInstanceId := fields.targetInstanceId
    sourceRoomId := details.sourceRoomId.value
    sourceEventId := details.sourceEventId.value
    sourceMessageId := some fields.sourceMessageId
    contentId := fields.contentId
    allowedPurpose := details.purpose.asStr
    permissions := details.permissions.members.map HandoffPermission.asStr
    state := "queued"
    approvedAt := some fields.createdAt
    createdAt := some fields.createdAt
    queuedAt := some fields.createdAt
    deliveredAt := none
    consumedAt := none
    resolvedAt := none
    expiresAt := fields.expiresAt
    failureCode := none
    requestFingerprint := some request.requestFingerprint
    version := 0 }

-- ON CONFLICT (id) DO NOTHING: nothing is answered where no row was written.
def insertTargetedHandoff (operation : String) (rows : TargetedRows) (request : QueueTargetedHandoff) :
    RepositoryResult (Option TargetedRows) :=
  if admits catalog access request.handoff = false then .ok none
  else do
    let row ← (queuedRow request).write operation
    if rows.any (·.id = row.id) then .ok none
    else if rows.any fun other => TargetedRow.isActiveState other.state && other.activeKey = row.activeKey then
      .error (conflicting operation)
    else .ok (some (rows ++ [row]))

def sameFingerprint (operation : String) (rows : TargetedRows) (request : QueueTargetedHandoff) : RepositoryResult Unit := do
  let row ← TargetedRow.found operation (rows.find? (·.id = request.handoff.handoff.fields.id))
  let fingerprint ← TargetedRow.found operation row.requestFingerprint
  ensure (conflicting operation) (fingerprint = request.requestFingerprint)

def orForbidden {α : Type} (operation : String) : Option α → RepositoryResult α
  | some value => .ok value
  | none => .error ⟨operation, .forbidden⟩

def queueTargetedHandoff (rows : TargetedRows) (request : QueueTargetedHandoff) :
    RepositoryResult (TargetedRows × QueueTargetedHandoffOutcome) := do
  let operation := "handoff.queue"
  let id := request.handoff.handoff.fields.id
  match ← insertTargetedHandoff catalog access operation rows request with
  | some inserted =>
    let stored ← orForbidden operation (← loadHandoff catalog operation inserted id)
    return (inserted, .created stored)
  | none =>
    let stored ← orForbidden operation (← loadHandoff catalog operation rows id)
    sameFingerprint operation rows request
    return (rows, .existing stored)

end

variable (catalog : TargetCatalog)

def findForPrincipal (rows : TargetedRows) (id : HandoffId) (principalId : PrincipalId)
    (observedAt : UtcMillis) : RepositoryResult (TargetedRows × Option DetailedTargeted) := do
  let operation := "handoff.find"
  let rows ← expireHandoff operation id observedAt rows
  let handoff ← loadHandoff catalog operation rows id
  return (rows, handoff.filter fun handoff => handoff.handoff.fields.principalId = principalId)

def revoked (revokedAt : UtcMillis) (row : TargetedRow) : TargetedRow :=
  { row with state := "revoked", resolvedAt := some revokedAt, failureCode := none, version := row.version + 1 }

def revocable (id : HandoffId) (principalId : PrincipalId) (row : TargetedRow) : Bool :=
  row.id = id && row.principalId = principalId && TargetedRow.isOpenState row.state

def revocation (operation : String) (changed : Bool) : Option DetailedTargeted → RepositoryResult (Option DetailedTargeted)
  | none => .ok none
  | some handoff =>
    if changed || handoff.handoff.status = .revoked then .ok (some handoff) else .error (conflicting operation)

def revokeTargetedHandoff (rows : TargetedRows) (id : HandoffId) (principalId : PrincipalId)
    (revokedAt : UtcMillis) : RepositoryResult (TargetedRows × Option DetailedTargeted) := do
  let operation := "handoff.revoke"
  let rows ← expireHandoff operation id revokedAt rows
  let next ← updateWhere (revocable id principalId) (fun row => (revoked revokedAt row).write operation) rows
  let handoff ← loadHandoff catalog operation next id
  let answer ← revocation operation (rows.any (revocable id principalId))
    (handoff.filter fun handoff => handoff.handoff.fields.principalId = principalId)
  return (next, answer)

def claimOrder (row : TargetedRow) : Nat × Nat × Nat :=
  (if row.state = "delivered" then 0 else 1, ((row.deliveredAt.or row.queuedAt).map UtcMillis.value).getD 0, row.id.uuid)

def precedes (left right : Nat × Nat × Nat) : Bool :=
  left.1 < right.1 || (left.1 = right.1 && (left.2.1 < right.2.1 || (left.2.1 = right.2.1 && left.2.2 < right.2.2)))

def firstOf : TargetedRows → Option TargetedRow
  | [] => none
  | row :: rest =>
    match firstOf rest with
    | none => some row
    | some other => if precedes (claimOrder other) (claimOrder row) then some other else some row

def claimable (access : TargetAccess) (request : ClaimTargetedHandoff) (row : TargetedRow) : Bool :=
  row.targetInstanceId = request.targetInstanceId && access.deviceOf row.targetInstanceId = some request.deviceId &&
    access.ownerOf request.deviceId = some request.principalId && TargetedRow.isOpenState row.state &&
    request.claimedAt < row.expiresAt && access.instanceLive row.targetInstanceId &&
    (catalog.agentOf row.targetInstanceId).any (fun agent => access.agentActive agent && access.operates row.principalId agent) &&
    access.bindingCapable row.targetInstanceId && deviceUsable access row.targetInstanceId

def delivered (claimedAt : UtcMillis) (row : TargetedRow) : TargetedRow :=
  { row with
    state := "delivered"
    deliveredAt := if row.state = "queued" then some claimedAt else row.deliveredAt
    version := if row.state = "queued" then row.version + 1 else row.version }

-- FOR UPDATE SKIP LOCKED: the rows other transactions hold are passed by.
def claimTargetedHandoff (access : TargetAccess) (locked : List HandoffId) (rows : TargetedRows)
    (request : ClaimTargetedHandoff) : RepositoryResult (TargetedRows × Option DetailedTargeted) := do
  let operation := "handoff.claim"
  let rows ← expireHandoffsForInstance operation request.targetInstanceId request.claimedAt rows
  match firstOf (rows.filter fun row => claimable catalog access request row && !locked.contains row.id) with
  | none => return (rows, none)
  | some candidate =>
    let next ← updateWhere (·.id = candidate.id) (fun row => (delivered request.claimedAt row).write operation) rows
    return (next, ← loadHandoff catalog operation next candidate.id)

def receiptState : TargetedHandoffReceiptOutcome → String × Option HandoffFailureCode
  | .consumed => ("consumed", none)
  | .declined code => ("declined", some code)
  | .failed code => ("failed", some code)

def receivable (access : TargetAccess) (request : RecordTargetedHandoffReceipt) (row : TargetedRow) : Bool :=
  row.id = request.handoffId && row.targetInstanceId = request.targetInstanceId &&
    access.deviceOf row.targetInstanceId = some request.deviceId &&
    access.ownerOf request.deviceId = some request.principalId && access.instanceLive row.targetInstanceId &&
    (catalog.agentOf row.targetInstanceId).any (access.operates row.principalId) && deviceUsable access row.targetInstanceId

def received (outcome : TargetedHandoffReceiptOutcome) (recordedAt : UtcMillis) (row : TargetedRow) : TargetedRow :=
  { row with
    state := (receiptState outcome).1
    consumedAt := if (receiptState outcome).1 = "consumed" then some recordedAt else none
    resolvedAt := some recordedAt
    failureCode := (receiptState outcome).2.map HandoffFailureCode.bytes
    version := row.version + 1 }

def recordTargetedHandoffReceipt (access : TargetAccess) (rows : TargetedRows)
    (request : RecordTargetedHandoffReceipt) : RepositoryResult (TargetedRows × Option DetailedTargeted) := do
  let operation := "handoff.receipt"
  let rows ← expireHandoff operation request.handoffId request.recordedAt rows
  match rows.find? (receivable catalog access request) with
  | none => return (rows, none)
  | some current =>
    let (targetState, failureCode) := receiptState request.outcome
    if current.state = targetState ∧ current.failureCode = failureCode.map HandoffFailureCode.bytes then
      return (rows, ← loadHandoff catalog operation rows request.handoffId)
    else if current.state ≠ "delivered" then throw (conflicting operation)
    else
      let next ← updateWhere (·.id = request.handoffId)
        (fun row => (received request.outcome request.recordedAt row).write operation) rows
      return (next, ← loadHandoff catalog operation next request.handoffId)

def failed (code : HandoffFailureCode) (failedAt : UtcMillis) (row : TargetedRow) : TargetedRow :=
  { row with
    state := if row.expiresAt ≤ failedAt then "expired" else "failed"
    resolvedAt := some failedAt
    failureCode := if row.expiresAt ≤ failedAt then none else some code.bytes
    version := row.version + 1 }

def failable (row : TargetedRow) : Bool := row.sourceMessageId.isSome && TargetedRow.isOpenState row.state

def failTargetedHandoffsForInstance (operation : String) (rows : TargetedRows) (instanceId : AgentInstanceId)
    (failedAt : UtcMillis) : RepositoryResult TargetedRows :=
  updateWhere (fun row => row.targetInstanceId = instanceId && failable row)
    (fun row => (failed targetRevoked failedAt row).write operation) rows

def failTargetedHandoffsForDevice (operation : String) (deviceOf : AgentInstanceId → Option DeviceId) (rows : TargetedRows)
    (deviceId : DeviceId) (failedAt : UtcMillis) : RepositoryResult TargetedRows :=
  updateWhere (fun row => deviceOf row.targetInstanceId = some deviceId && failable row)
    (fun row => (failed targetDeviceRevoked failedAt row).write operation) rows

end TargetedRows

-- A call of the queue. Failing the handoffs of an instance or a device is one
-- statement of the transaction that revokes it.
inductive TargetedRequest where
  | queue (request : QueueTargetedHandoff)
  | find (id : HandoffId) (principalId : PrincipalId) (observedAt : UtcMillis)
  | revoke (id : HandoffId) (principalId : PrincipalId) (revokedAt : UtcMillis)
  | claim (request : ClaimTargetedHandoff) (locked : List HandoffId)
  | receipt (request : RecordTargetedHandoffReceipt)
  | failForInstance (operation : String) (instanceId : AgentInstanceId) (failedAt : UtcMillis)
  | failForDevice (operation : String) (deviceId : DeviceId) (failedAt : UtcMillis)

namespace TargetedRequest

def time : TargetedRequest → UtcMillis
  | .queue request => request.handoff.handoff.fields.createdAt
  | .find _ _ observedAt => observedAt
  | .revoke _ _ revokedAt => revokedAt
  | .claim request _ => request.claimedAt
  | .receipt request => request.recordedAt
  | .failForInstance _ _ failedAt => failedAt
  | .failForDevice _ _ failedAt => failedAt

def attempt (catalog : TargetCatalog) (access : TargetAccess) (rows : TargetedRows) :
    TargetedRequest → RepositoryResult TargetedRows
  | .queue request => Prod.fst <$> TargetedRows.queueTargetedHandoff catalog access rows request
  | .find id principalId observedAt => Prod.fst <$> TargetedRows.findForPrincipal catalog rows id principalId observedAt
  | .revoke id principalId revokedAt =>
    Prod.fst <$> TargetedRows.revokeTargetedHandoff catalog rows id principalId revokedAt
  | .claim request locked => Prod.fst <$> TargetedRows.claimTargetedHandoff catalog access locked rows request
  | .receipt request => Prod.fst <$> TargetedRows.recordTargetedHandoffReceipt catalog access rows request
  | .failForInstance operation instanceId failedAt =>
    TargetedRows.failTargetedHandoffsForInstance operation rows instanceId failedAt
  | .failForDevice operation deviceId failedAt =>
    TargetedRows.failTargetedHandoffsForDevice operation access.deviceOf rows deviceId failedAt

end TargetedRequest

-- One call, with what the joins find then and whether its transaction commits. A
-- transaction keeps the rows it writes locked, so calls follow one another on a row.
structure TargetedCall where
  request : TargetedRequest
  access : TargetAccess
  commits : Bool

def TargetedCall.perform (catalog : TargetCatalog) (rows : TargetedRows) (call : TargetedCall) : TargetedRows :=
  match call.request.attempt catalog call.access rows with
  | .ok next => if call.commits then next else rows
  | .error _ => rows

end AgentRoom
