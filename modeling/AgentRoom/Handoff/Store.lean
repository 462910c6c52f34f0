import Mathlib.Logic.Function.Basic
import AgentRoom.Handoff.Row

namespace AgentRoom

open Library

inductive RemoteHandoffReceiptStatus where
  | delivered
  | consumed
  | declined
  | revoked
  | expired
  | failed
deriving DecidableEq

structure HandoffReceiptRecord where
  handoffId : HandoffId
  targetAgentId : AgentId
  targetInstanceId : AgentInstanceId
  requesterInstanceId : AgentInstanceId
  status : RemoteHandoffReceiptStatus
  failureCode : Option HandoffFailureCode
  occurredAt : UtcMillis

namespace HandoffReceiptRecord

def addresses (receipt : HandoffReceiptRecord) (fields : ContextHandoffFields) : Bool :=
  fields.id = receipt.handoffId && fields.targetAgentId = receipt.targetAgentId &&
    fields.targetInstanceId = receipt.targetInstanceId && fields.requesterInstanceId = receipt.requesterInstanceId

def calls (receipt : HandoffReceiptRecord) (handoff : ContextHandoff) : DomainResult (List ContextOp) :=
  match receipt.status with
  | .delivered => .ok [.markDelivered receipt.occurredAt]
  | .consumed =>
    if handoff.status = .approved then .ok [.markDelivered receipt.occurredAt, .consume receipt.occurredAt]
    else .ok [.consume receipt.occurredAt]
  | .declined => .ok [.decline receipt.occurredAt]
  | .revoked => .ok [.revoke receipt.occurredAt]
  | .expired => .ok [.expire receipt.occurredAt]
  | .failed =>
    match receipt.failureCode with
    | some failureCode => .ok [.fail failureCode receipt.occurredAt]
    | none => .error (.invariantViolation "handoff_receipt" "失败回执必须携带失败码")

def makeCalls : List ContextOp → ContextHandoff.ContextMethod
  | [] => return ()
  | op :: rest => do
    op.perform
    makeCalls rest

def applyTo (receipt : HandoffReceiptRecord) : ContextHandoff.ContextMethod := do
  let handoff ← get
  if receipt.addresses handoff.fields = false then throw (.forbidden "把回执应用到其他上下文交付")
  else if decide (receipt.status = .failed) ≠ receipt.failureCode.isSome then
    throw (.invariantViolation "handoff_receipt" "只有失败回执能够携带且必须携带失败码")
  else
    let calls ← lift (receipt.calls handoff)
    makeCalls calls

end HandoffReceiptRecord

structure OneShotHandoffPackage where
  handoffId : HandoffId
  body : List UInt8

inductive HandoffStoreCommand where
  | markDelivered (occurredAt : UtcMillis)
  | consume (targetInstanceId : AgentInstanceId) (occurredAt : UtcMillis)
  | decline (targetInstanceId : AgentInstanceId) (occurredAt : UtcMillis)
  | revoke (targetInstanceId : AgentInstanceId) (occurredAt : UtcMillis)
  | expire (targetInstanceId : AgentInstanceId) (occurredAt : UtcMillis)
  | fail (code : HandoffFailureCode) (occurredAt : UtcMillis)

inductive HandoffRecordOutcome where
  | created (detailed : DetailedHandoff)
  | existing (detailed : DetailedHandoff)
deriving DecidableEq

inductive HandoffStoreAnswer where
  | recorded (outcome : HandoffRecordOutcome)
  | updated (detailed : DetailedHandoff)
  | consumed (detailed : DetailedHandoff) (body : List UInt8)
  | received (detailed : DetailedHandoff)
deriving DecidableEq

def nonceBytes : Nat := 24

def keyVersion : Int := 1

structure HandoffCryptography where
  encrypt : (nonce associatedData plaintext : List UInt8) → Option (List UInt8)
  decrypt : (nonce associatedData ciphertext : List UInt8) → Option (List UInt8)
  sha256 : List UInt8 → BitVec 256

def HandoffCryptography.RoundTrips (cryptography : HandoffCryptography) : Prop :=
  ∀ nonce associatedData plaintext ciphertext, cryptography.encrypt nonce associatedData plaintext = some ciphertext →
    cryptography.decrypt nonce associatedData ciphertext = some plaintext

structure EncryptedPackage where
  keyVersion : Int
  nonce : List UInt8
  ciphertext : List UInt8

def EncryptedPackage.checked (package : EncryptedPackage) : Bool :=
  package.keyVersion = AgentRoom.keyVersion && package.nonce.length = nonceBytes && 16 ≤ package.ciphertext.length

namespace HandoffPackageCipher

def bigEndian (width value : Nat) : List UInt8 :=
  (List.range width).reverse.map fun place => UInt8.ofNat (value / 256 ^ place)

def associatedDataDomain : List UInt8 := "agent-room:handoff-package:v1".toUTF8.toList ++ [0]

def associatedData (detailed : DetailedHandoff) : List UInt8 :=
  let fields := detailed.handoff.fields
  let mediaType := detailed.details.mediaType.value.toUTF8.toList
  associatedDataDomain ++ bigEndian 16 fields.id.uuid ++ bigEndian 16 fields.targetInstanceId.uuid ++
    bigEndian 16 fields.contentId.uuid ++ bigEndian 32 detailed.details.digest.bytes.toNat ++
    bigEndian 8 detailed.details.byteLength.value ++ bigEndian 8 mediaType.length ++ mediaType

variable (cryptography : HandoffCryptography)

def validatePlaintext (detailed : DetailedHandoff) (package : OneShotHandoffPackage) : HandoffStoreResult Unit :=
  if package.handoffId ≠ detailed.handoff.fields.id then .error .corrupt
  else if package.body.length ≠ detailed.details.byteLength.value then .error .corrupt
  else if cryptography.sha256 package.body ≠ detailed.details.digest.bytes then .error .corrupt
  else .ok ()

def encrypt (nonce : Option (List UInt8)) (detailed : DetailedHandoff) (plaintext : List UInt8) :
    HandoffStoreResult EncryptedPackage :=
  match nonce with
  | none => .error .unavailable
  | some nonce =>
    match cryptography.encrypt nonce (associatedData detailed) plaintext with
    | none => .error .unavailable
    | some ciphertext => .ok { keyVersion, nonce, ciphertext }

def decrypt (detailed : DetailedHandoff) (stored : EncryptedPackage) : HandoffStoreResult (List UInt8) :=
  if stored.keyVersion ≠ keyVersion ∨ stored.nonce.length ≠ nonceBytes then .error .corrupt
  else
    match cryptography.decrypt stored.nonce (associatedData detailed) stored.ciphertext with
    | none => .error .corrupt
    | some plaintext => do
      validatePlaintext cryptography detailed ⟨detailed.handoff.fields.id, plaintext⟩
      return plaintext

end HandoffPackageCipher

structure HandoffTables where
  handoffs : HandoffId → Option HandoffRow
  packages : HandoffId → Option EncryptedPackage

namespace HandoffTables

def empty : HandoffTables := ⟨fun _ => none, fun _ => none⟩

variable (tables : HandoffTables)

def load (id : HandoffId) : HandoffStoreResult (Option LoadedHandoff) :=
  match tables.handoffs id with
  | none => .ok none
  | some row => do return some (← decodeHandoff row)

def find (id : HandoffId) : HandoffStoreResult (Option DetailedHandoff) := do
  return (← tables.load id).map LoadedHandoff.detailed

def loadOr (id : HandoffId) (absent : HandoffStoreFailure) : HandoffStoreResult LoadedHandoff :=
  match tables.handoffs id with
  | none => .error absent
  | some row => decodeHandoff row

def writeRow (id : HandoffId) (row : HandoffRow) : HandoffStoreResult HandoffTables :=
  if row.checked then .ok { tables with handoffs := Function.update tables.handoffs id (some row) }
  else .error .unavailable

def insertHandoff (detailed : DetailedHandoff) : HandoffStoreResult (Option HandoffTables) :=
  match tables.handoffs detailed.handoff.fields.id with
  | some _ => .ok none
  | none => do return some (← tables.writeRow detailed.handoff.fields.id (HandoffRow.ofHandoff detailed 1))

def updateHandoffState (loaded : LoadedHandoff) : HandoffStoreResult HandoffTables :=
  let handoff := loaded.detailed.handoff
  match tables.handoffs handoff.fields.id with
  | none => .error .conflict
  | some row =>
    if row.version = loaded.version then
      tables.writeRow handoff.fields.id { row.writeState handoff.state with version := row.version + 1 }
    else .error .conflict

def insertPackage (id : HandoffId) (package : EncryptedPackage) : HandoffStoreResult HandoffTables :=
  if package.checked = false then .error .unavailable
  else if (tables.packages id).isSome then .error .conflict
  else .ok { tables with packages := Function.update tables.packages id (some package) }

def deletePackage (id : HandoffId) : HandoffTables :=
  { tables with packages := Function.update tables.packages id none }

end HandoffTables

namespace SqliteHandoffStore

def sameIntent (left right : DetailedHandoff) : Bool :=
  left.handoff.fields = right.handoff.fields && left.details = right.details &&
    left.handoff.approvedByPrincipalId = right.handoff.approvedByPrincipalId &&
    left.handoff.approvedAt = right.handoff.approvedAt

def ensureTarget (handoff : ContextHandoff) (targetInstanceId : AgentInstanceId) : HandoffStoreResult Unit :=
  ensure .conflict (handoff.fields.targetInstanceId = targetInstanceId)

variable (cryptography : HandoffCryptography) (tables : HandoffTables)

def ensureExistingIncomingIsConsistent (existing : ContextHandoff) : HandoffStoreResult Unit :=
  let packageExists := (tables.packages existing.fields.id).isSome
  match existing.status with
  | .delivered => ensure .corrupt (packageExists = true)
  | .proposed | .approved => .error .conflict
  | .consumed | .declined | .revoked | .expired | .failed => ensure .corrupt (packageExists = false)

def ensureExistingIsConsistent (existing : ContextHandoff) (incoming : Bool) : HandoffStoreResult Unit :=
  if incoming then ensureExistingIncomingIsConsistent tables existing else .ok ()

-- What a transaction that commits leaves, and what its call then answers: a
-- consumption of an expired handoff commits and still answers an error.
abbrev Committed := HandoffTables × HandoffStoreResult HandoffStoreAnswer

def record (detailed : DetailedHandoff) (package : Option EncryptedPackage) : HandoffStoreResult Committed := do
  match ← tables.insertHandoff detailed with
  | some inserted =>
    match package with
    | some package =>
      let stored ← inserted.insertPackage detailed.handoff.fields.id package
      return (stored, .ok (.recorded (.created detailed)))
    | none => return (inserted, .ok (.recorded (.created detailed)))
  | none =>
    let existing ← tables.loadOr detailed.handoff.fields.id .corrupt
    ensure .conflict (sameIntent existing.detailed detailed = true)
    ensureExistingIsConsistent tables existing.detailed.handoff package.isSome
    return (tables, .ok (.recorded (.existing existing.detailed)))

def acceptIncoming (nonce : Option (List UInt8))
    (detailed : DetailedHandoff) (package : OneShotHandoffPackage) : HandoffStoreResult Committed := do
  ensure .conflict (detailed.handoff.status = .delivered)
  HandoffPackageCipher.validatePlaintext cryptography detailed package
  let encrypted ← HandoffPackageCipher.encrypt cryptography nonce detailed package.body
  record tables detailed (some encrypted)

def writeChanged (loaded : LoadedHandoff) (next : ContextHandoff) : HandoffStoreResult HandoffTables :=
  if next = loaded.detailed.handoff then .ok tables
  else tables.updateHandoffState ⟨⟨next, loaded.detailed.details⟩, loaded.version⟩

-- The end of the transactions that move a handoff on: the row is written when
-- the handoff changed, and a handoff at its end keeps no package.
def settle (loaded : LoadedHandoff) (next : ContextHandoff) : HandoffStoreResult HandoffTables := do
  let written ← writeChanged tables loaded next
  return if next.status.closed then written.deletePackage next.fields.id else written

def consume (loaded : LoadedHandoff)
    (targetInstanceId : AgentInstanceId) (occurredAt : UtcMillis) : HandoffStoreResult Committed := do
  let handoff := loaded.detailed.handoff
  ensureTarget handoff targetInstanceId
  match handoff.status with
  | .expired => throw .expired
  | .delivered =>
    if handoff.fields.expiresAt ≤ occurredAt then
      let next ← transit .alreadyResolved (ContextHandoff.expire occurredAt) handoff
      let written ← tables.updateHandoffState ⟨⟨next, loaded.detailed.details⟩, loaded.version⟩
      return (written.deletePackage next.fields.id, .error .expired)
    else
      let next ← transit .alreadyResolved (ContextHandoff.consume occurredAt) handoff
      let stored ← HandoffReplay.required (tables.packages next.fields.id)
      let body ← HandoffPackageCipher.decrypt cryptography ⟨next, loaded.detailed.details⟩ stored
      let written ← tables.updateHandoffState ⟨⟨next, loaded.detailed.details⟩, loaded.version⟩
      return (written.deletePackage next.fields.id, .ok (.consumed ⟨next, loaded.detailed.details⟩ body))
  | _ => throw .alreadyResolved

def applyNonConsumingCommand (loaded : LoadedHandoff) (target : Option AgentInstanceId)
    (op : ContextOp) : HandoffStoreResult Committed := do
  let handoff := loaded.detailed.handoff
  ensure .conflict (∀ targetInstanceId, target = some targetInstanceId → handoff.fields.targetInstanceId = targetInstanceId)
  let next ← transit .alreadyResolved op.perform handoff
  let written ← settle tables loaded next
  return (written, .ok (.updated ⟨next, loaded.detailed.details⟩))

def applyCommand (id : HandoffId) (command : HandoffStoreCommand) : HandoffStoreResult Committed := do
  let loaded ← tables.loadOr id .notFound
  match command with
  | .consume targetInstanceId occurredAt => consume cryptography tables loaded targetInstanceId occurredAt
  | .markDelivered occurredAt => applyNonConsumingCommand tables loaded none (.markDelivered occurredAt)
  | .decline targetInstanceId occurredAt =>
    applyNonConsumingCommand tables loaded (some targetInstanceId) (.decline occurredAt)
  | .revoke targetInstanceId occurredAt =>
    applyNonConsumingCommand tables loaded (some targetInstanceId) (.revoke occurredAt)
  | .expire targetInstanceId occurredAt =>
    applyNonConsumingCommand tables loaded (some targetInstanceId) (.expire occurredAt)
  | .fail code occurredAt => applyNonConsumingCommand tables loaded none (.fail code occurredAt)

def applyReceiptRecord (receipt : HandoffReceiptRecord) : HandoffStoreResult Committed := do
  let loaded ← tables.loadOr receipt.handoffId .notFound
  let next ← transit .conflict receipt.applyTo loaded.detailed.handoff
  let written ← settle tables loaded next
  return (written, .ok (.received ⟨next, loaded.detailed.details⟩))

end SqliteHandoffStore

structure BuiltHandoff where
  detailed : DetailedHandoff
  built : detailed.handoff.Built

inductive HandoffStoreRequest where
  | recordOutgoing (handoff : BuiltHandoff)
  | acceptIncoming (handoff : BuiltHandoff) (package : OneShotHandoffPackage)
  | apply (id : HandoffId) (command : HandoffStoreCommand)
  | applyReceipt (receipt : HandoffReceiptRecord)

-- One call, with the nonce the random source gives it, if any, and the failure
-- of the database that stops its transaction, if one does.
structure HandoffStoreCall where
  request : HandoffStoreRequest
  nonce : Option (List UInt8)
  outage : Option HandoffStoreFailure

namespace SqliteHandoffStore

def attempt (cryptography : HandoffCryptography) (tables : HandoffTables) (call : HandoffStoreCall) :
    HandoffStoreResult Committed :=
  match call.request with
  | .recordOutgoing handoff => record tables handoff.detailed none
  | .acceptIncoming handoff package => acceptIncoming cryptography tables call.nonce handoff.detailed package
  | .apply id command => applyCommand cryptography tables id command
  | .applyReceipt receipt => applyReceiptRecord tables receipt

def perform (cryptography : HandoffCryptography) (tables : HandoffTables) (call : HandoffStoreCall) : Committed :=
  match call.outage, attempt cryptography tables call with
  | none, .ok committed => committed
  | some failure, .ok _ => (tables, .error failure)
  | _, .error failure => (tables, .error failure)

end SqliteHandoffStore

end AgentRoom
