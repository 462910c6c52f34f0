import AgentRoom.Automation.Grant
import AgentRoom.Library.Relation
import AgentRoom.Projection.Tables
import AgentRoom.Reception.Records
import Mathlib.Data.List.Sort

namespace AgentRoom.Automation

open Library

structure AutomationConsumption where
  submissionId : MessageSubmissionId
  grantId : AutomationGrantId
  agentId : AgentId
  agentInstanceId : AgentInstanceId
  roomCatalogId : RoomCatalogId
  matrixRoomId : MatrixRoomId
  messageKind : AutomationMessageKind
  containsUnknownRecipients : Bool
  riskScan : AutomationRiskScanOutcome
  minuteWindowStart : UtcMillis
  consumedAt : UtcMillis

structure AutomationDecisionRecord where
  grantId : AutomationGrantId
  submissionId : MessageSubmissionId
  principalId : PrincipalId
  agentId : AgentId
  agentInstanceId : AgentInstanceId
  roomCatalogId : RoomCatalogId
  matrixRoomId : MatrixRoomId
  decisionCode : String
  decidedAt : UtcMillis
deriving DecidableEq

structure AutomationTables where
  grants : List AutomationGrant
  consumptions : List AutomationConsumption
  denials : List AutomationDecisionRecord

def AutomationTables.empty : AutomationTables := ⟨[], [], []⟩

structure AutomationGrantRecord where
  grant : AutomationGrant
  usage : AutomationUsageSnapshot

structure AutomationConsumptionRequest where
  receptionRunId : Option ReceptionRunId
  grantId : AutomationGrantId
  submissionId : MessageSubmissionId
  matrixRoomId : MatrixRoomId
  attempt : AutomationGrantAttempt

inductive AutomationConsumptionOutcome where
  | consumed (record : AutomationGrantRecord) (reused : Bool)
  | denied (reason : AutomationGrantDenial)
  | notFound

inductive AutomationGrantRevocationOutcome where
  | revoked (record : AutomationGrantRecord)
  | alreadyRevoked (record : AutomationGrantRecord)
  | alreadyInactive (record : AutomationGrantRecord)
  | notFound

abbrev Result (α : Type) := Except RepositoryErrorKind α

def u32Max : Nat := 2 ^ 32 - 1

def minuteWindowStart (now : UtcMillis) : UtcMillis := ⟨now.value - now.value % 60000, Nat.le_trans (Nat.sub_le ..) now.fits⟩

section

variable (tables : AutomationTables)

def AutomationTables.ofGrant (grantId : AutomationGrantId) : List AutomationConsumption :=
  tables.consumptions.filter (·.grantId = grantId)

def AutomationTables.usage (grantId : AutomationGrantId) (now : UtcMillis) : AutomationUsageSnapshot where
  totalMessages := (tables.ofGrant grantId).length
  messagesInCurrentMinute := (tables.ofGrant grantId).countP (·.minuteWindowStart = minuteWindowStart now)

def decodeGrantRecord (now : UtcMillis) (row : AutomationGrant) : Result AutomationGrantRecord := do
  let grant ← mapError .corruptData row.restore
  let usage := tables.usage row.id now
  ensure .corruptData (usage.totalMessages ≤ u32Max ∧ usage.messagesInCurrentMinute ≤ u32Max)
  return { grant, usage }

def findGrant (grantId : AutomationGrantId) (now : UtcMillis) : Result (Option AutomationGrantRecord) :=
  match tables.grants.find? (·.id = grantId) with
  | none => .ok none
  | some row => some <$> decodeGrantRecord tables now row

def listGrants (principalId : PrincipalId) (now : UtcMillis) : Result (List AutomationGrantRecord) :=
  ((tables.grants.filter (·.grantorId = principalId)).insertionSort fun first second =>
    second.createdAt < first.createdAt ∨ (first.createdAt = second.createdAt ∧ first.id.uuid ≤ second.id.uuid)).mapM
    (decodeGrantRecord tables now)

def advance (state : AutomationGrantStatus) (row : AutomationGrant) : Result AutomationGrant := do
  let version ← mapError .unavailable row.version.next
  return { row with state, version }

def expireGrants (principalId : Option PrincipalId) (grantId : Option AutomationGrantId) (now : UtcMillis) :
    Result AutomationTables := do
  let grants ← updateWhere (fun row => row.state = .active ∧ row.limits.expiresAt ≤ now ∧
    principalId.all (fun principalId => row.grantorId = principalId) = true ∧
    grantId.all (fun grantId => row.id = grantId) = true) (advance .expired) tables.grants
  return { tables with grants }

end

section

variable (tables : AutomationTables)

def matrixRoomIdFormat (text : String) : Bool :=
  4 ≤ text.toList.length && text.toList.length ≤ 512 && text.toList.head? = some '!' && ':' ∈ text.toList.tail

def sameCreation (existing proposed : AutomationGrant) : Bool :=
  existing.id = proposed.id && existing.grantorId = proposed.grantorId && existing.scope = proposed.scope &&
    existing.limits = proposed.limits && existing.createdAt = proposed.createdAt

-- The table's CHECKs that a grant handed in may fail, and its references to other tables.
def insertGrant (grant : AutomationGrant) (references : Bool) : Result AutomationTables := do
  ensure .constraint (Presence.isVersion7 grant.id.uuid = true ∧ grant.state ≠ .revoked ∧ grant.createdAt ≤ grant.limits.startsAt)
  if tables.grants.any (·.id = grant.id) then return tables
  else do
    ensure .constraint (references = true)
    return { tables with grants := tables.grants ++ [{ grant with revokedAt := none }] }

def insertDenial (record : AutomationDecisionRecord) (references : Bool) : Result AutomationTables := do
  ensure .constraint (Presence.isVersion7 record.submissionId.uuid = true ∧ matrixRoomIdFormat record.matrixRoomId.text = true ∧
    1 ≤ record.decisionCode.toList.length ∧ record.decisionCode.toList.length ≤ 128)
  if tables.denials.any (fun row => row.grantId = record.grantId ∧ row.submissionId = record.submissionId ∧
      row.decisionCode = record.decisionCode) then return tables
  else do
    ensure .constraint (references = true)
    return { tables with denials := tables.denials ++ [record] }

def insertConsumption (row : AutomationConsumption) (references : Bool) : Result AutomationTables := do
  ensure .constraint (Presence.isVersion7 row.submissionId.uuid = true ∧ matrixRoomIdFormat row.matrixRoomId.text = true)
  ensure .conflict (¬ tables.consumptions.any (·.submissionId = row.submissionId) = true)
  ensure .constraint (references = true)
  return { tables with consumptions := tables.consumptions ++ [row] }

end

section

variable (tables : AutomationTables)

def createAutomationGrant (grant : AutomationGrant) (references : Bool) : AutomationTables × Result AutomationGrantRecord :=
  match insertGrant tables grant references with
  | .error kind => (tables, .error kind)
  | .ok tables => (tables, do
      match ← findGrant tables grant.id grant.createdAt with
      | none => .error .unavailable
      | some record => do
        ensure .conflict (sameCreation record.grant grant = true)
        return record)

def revokeAutomationGrant (principalId : PrincipalId) (grantId : AutomationGrantId)
    (revokedAt : UtcMillis) : Result (AutomationTables × AutomationGrantRevocationOutcome) := do
  let tables ← expireGrants tables none (some grantId) revokedAt
  match ← findGrant tables grantId revokedAt with
  | none => return (tables, .notFound)
  | some record =>
    if record.grant.grantorId ≠ principalId then return (tables, .notFound)
    else match record.grant.state with
    | .revoked => return (tables, .alreadyRevoked record)
    | .exhausted | .expired => return (tables, .alreadyInactive record)
    | .active => do
      let grant ← mapError .constraint (record.grant.revoke revokedAt)
      ensure .conflict (tables.grants.any (fun row => row.id = grantId ∧ row.grantorId = principalId ∧
        row.version = record.grant.version) = true)
      let grants := tables.grants.map fun row =>
        if row.id = grantId ∧ row.grantorId = principalId ∧ row.version = record.grant.version then
          { row with state := .revoked, revokedAt := some revokedAt, version := grant.version }
        else row
      let tables := { tables with grants }
      match ← findGrant tables grantId revokedAt with
      | none => .error .unavailable
      | some record => return (tables, .revoked record)

-- Where a room has an execution, only its active run may answer, and only what it is answering.
def ownsReception (executions : Reception.ReceptionTable) (request : AutomationConsumptionRequest) : Bool :=
  match executions (request.attempt.agentId, request.attempt.roomCatalogId) with
  | none => request.receptionRunId.isNone
  | some row => some row.instanceId = request.attempt.agentInstanceId && some row.runId = request.receptionRunId &&
      row.status = .active && (row.progress.pending.any (·.submissionId = request.submissionId.uuid) ||
        row.progress.retry.any (·.submissionId = request.submissionId.uuid))

def requireReceptionOwner (executions : Reception.ReceptionTable) (request : AutomationConsumptionRequest) : Result Unit :=
  ensure .forbidden (ownsReception executions request = true)

def consumptionMatches (existing : AutomationConsumption) (request : AutomationConsumptionRequest) : Bool :=
  (request.receptionRunId.isSome || existing.grantId = request.grantId) && existing.agentId = request.attempt.agentId &&
    (request.receptionRunId.isSome || some existing.agentInstanceId = request.attempt.agentInstanceId) &&
    existing.roomCatalogId = request.attempt.roomCatalogId &&
    existing.matrixRoomId = request.matrixRoomId &&
    existing.messageKind = request.attempt.messageKind &&
    existing.containsUnknownRecipients = request.attempt.containsUnknownRecipients &&
    existing.riskScan = request.attempt.riskScan

variable (request : AutomationConsumptionRequest)

def insertConsumptionDenial (record : AutomationGrantRecord)
    (decisionCode : String) (references : Bool) : Result AutomationTables :=
  match request.attempt.agentInstanceId with
  | none => .error .constraint
  | some agentInstanceId => insertDenial tables {
      grantId := request.grantId
      submissionId := request.submissionId
      principalId := record.grant.grantorId
      agentId := request.attempt.agentId
      agentInstanceId
      roomCatalogId := request.attempt.roomCatalogId
      matrixRoomId := request.matrixRoomId
      decisionCode
      decidedAt := request.attempt.now } references

def exhaustGrant (record : AutomationGrantRecord) (grantId : AutomationGrantId) : Result AutomationTables :=
  if record.grant.limits.maxTotalMessages.any (fun maximum => maximum ≤ record.usage.totalMessages + 1) = true then do
    let grants ← updateWhere (fun row => row.id = grantId ∧ row.state = .active) (advance .exhausted) tables.grants
    return { tables with grants }
  else .ok tables

def consumeNewSubmission (record : AutomationGrantRecord)
    (references : Bool) : Result (AutomationTables × AutomationConsumptionOutcome) :=
  match record.grant.evaluate request.attempt record.usage with
  | .denied reason => do
    let tables ← insertConsumptionDenial tables request record reason.asStr references
    return (tables, .denied reason)
  | .allowed => do
    let agentInstanceId ← request.attempt.agentInstanceId.elim (.error .constraint) .ok
    let tables ← insertConsumption tables {
      submissionId := request.submissionId
      grantId := request.grantId
      agentId := request.attempt.agentId
      agentInstanceId
      roomCatalogId := request.attempt.roomCatalogId
      matrixRoomId := request.matrixRoomId
      messageKind := request.attempt.messageKind
      containsUnknownRecipients := request.attempt.containsUnknownRecipients
      riskScan := request.attempt.riskScan
      minuteWindowStart := minuteWindowStart request.attempt.now
      consumedAt := request.attempt.now } references
    let tables ← exhaustGrant tables record request.grantId
    match ← findGrant tables request.grantId request.attempt.now with
    | none => .error .corruptData
    | some record => return (tables, .consumed record false)

-- A transferred execution may retry the original submission under its current grant,
-- when both grants are one principal's.
def requireSameGrantor (record : AutomationGrantRecord) (existing : AutomationConsumption) : Result Unit :=
  if existing.grantId = request.grantId then .ok ()
  else do
    match ← findGrant tables existing.grantId request.attempt.now with
    | none => .error .corruptData
    | some original => ensure .forbidden (original.grant.grantorId = record.grant.grantorId)

def reuseSubmission (record : AutomationGrantRecord)
    (existing : AutomationConsumption) (references : Bool) : Result (AutomationTables × AutomationConsumptionOutcome) := do
  ensure .conflict (consumptionMatches existing request = true)
  requireSameGrantor tables request record existing
  match record.grant.evaluatePolicy request.attempt with
  | .denied reason => do
    let tables ← insertConsumptionDenial tables request record reason.asStr references
    return (tables, .denied reason)
  | .allowed => return (tables, .consumed record true)

end

def consumeInTransaction (executions : Reception.ReceptionTable) (tables : AutomationTables)
    (request : AutomationConsumptionRequest) (references : Bool) : Result (AutomationTables × AutomationConsumptionOutcome) := do
  requireReceptionOwner executions request
  let tables ← expireGrants tables none (some request.grantId) request.attempt.now
  match ← findGrant tables request.grantId request.attempt.now with
  | none => return (tables, .notFound)
  | some record =>
    match tables.consumptions.find? (·.submissionId = request.submissionId) with
    | some existing => reuseSubmission tables request record existing references
    | none => consumeNewSubmission tables request record references

def recordDenial (tables : AutomationTables) (record : AutomationDecisionRecord) (references : Bool) : Result AutomationTables := do
  let next ← insertDenial tables record references
  ensure .conflict (record ∈ next.denials)
  return next

-- The references to other tables' rows, and the executions, are as they stand at the call.
inductive AutomationCall where
  | create (grant : AutomationGrant) (references : Bool)
  | listForPrincipal (principalId : PrincipalId) (now : UtcMillis)
  | find (grantId : AutomationGrantId) (now : UtcMillis)
  | revoke (principalId : PrincipalId) (grantId : AutomationGrantId) (revokedAt : UtcMillis)
  | consume (executions : Reception.ReceptionTable) (request : AutomationConsumptionRequest) (references : Bool)
  | recordDecision (record : AutomationDecisionRecord) (references : Bool)

inductive AutomationAnswer where
  | created (record : Result AutomationGrantRecord)
  | listed (records : Result (List AutomationGrantRecord))
  | found (record : Result (Option AutomationGrantRecord))
  | revoked (outcome : Result AutomationGrantRevocationOutcome)
  | consumed (outcome : Result AutomationConsumptionOutcome)
  | decided (done : Result Unit)

def settled {α : Type} (tables : AutomationTables) : Result (AutomationTables × α) → AutomationTables × Result α
  | .ok (next, value) => (next, .ok value)
  | .error kind => (tables, .error kind)

def expiredFirst {α : Type} (tables : AutomationTables) (expired : Result AutomationTables) (read : AutomationTables → Result α) :
    AutomationTables × Result α :=
  match expired with
  | .ok next => (next, read next)
  | .error kind => (tables, .error kind)

def perform (tables : AutomationTables) : AutomationCall → AutomationTables × AutomationAnswer
  | .create grant references => (createAutomationGrant tables grant references).map id .created
  | .listForPrincipal principalId now =>
    (expiredFirst tables (expireGrants tables (some principalId) none now) (listGrants · principalId now)).map id .listed
  | .find grantId now =>
    (expiredFirst tables (expireGrants tables none (some grantId) now) (findGrant · grantId now)).map id .found
  | .revoke principalId grantId revokedAt =>
    (settled tables (revokeAutomationGrant tables principalId grantId revokedAt)).map id .revoked
  | .consume executions request references =>
    (settled tables (consumeInTransaction executions tables request references)).map id .consumed
  | .recordDecision record references =>
    (settled tables ((recordDenial tables record references).map (·, ()))).map id .decided

end AgentRoom.Automation
