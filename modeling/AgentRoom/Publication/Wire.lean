import AgentRoom.Handoff.Details
import AgentRoom.Presence.Publication
import AgentRoom.Projection.Tables

namespace AgentRoom.Publication

inductive MessageSensitivity where
  | normal
  | sensitive
  | restricted
deriving DecidableEq

def MessageSensitivity.asStr : MessageSensitivity → String
  | .normal => "normal"
  | .sensitive => "sensitive"
  | .restricted => "restricted"

structure ConversationMessage where
  text : String
  mentions : List String
  attachmentName : Option String
  mentionsEveryone : Bool
deriving DecidableEq

structure MessagePreview where
  title : String
  summary : String
  contentType : ContentMediaType
  language : Option String
  sensitivity : MessageSensitivity
  riskFlags : MessageRiskFlags
  conversation : Option ConversationMessage
deriving DecidableEq

inductive MessageRelation where
  | replyTo (messageId : MessageId)
deriving DecidableEq

inductive ClientContentEncryptionAlgorithm where
  | aes256GcmV1

def ClientContentEncryptionAlgorithm.asStr : ClientContentEncryptionAlgorithm → String
  | .aes256GcmV1 => "io.github.rainyflash.agentroom.content.aes-256-gcm.v1"

structure ClientContentEncryption where
  algorithm : ClientContentEncryptionAlgorithm
  contextId : ContentEncryptionContextId
  key : List UInt8
  nonce : List UInt8
  plaintextSizeBytes : Nat

-- A body is encrypted by the client exactly when it says so, and it says how long it is.
structure MessageBody where
  bytes : List UInt8
  digest : Sha256Digest
  byteLength : ContentByteLength
  mediaType : ContentMediaType
  encryptionMode : ContentEncryptionMode
  clientEncryption : Option ClientContentEncryption
  expiresAt : Option UtcMillis
  measured : byteLength.value = bytes.length
  sealed : encryptionMode = .clientE2ee ↔ clientEncryption.isSome = true

structure SendMessageRequest where
  submissionId : MessageSubmissionId
  roomId : MatrixRoomId
  preview : MessagePreview
  body : MessageBody
  provenance : MessageProvenance
  relation : Option MessageRelation
  automationGrantId : Option AutomationGrantId
  receptionRunId : Option Nat
  ordered : Presence.isVersion7 submissionId.uuid = true
  typed : preview.contentType = body.mediaType
  granted : provenance = .autonomousAgent ↔ automationGrantId.isSome = true

-- An edit carries no grant.
structure EditMessageRequest where
  submissionId : MessageSubmissionId
  roomId : MatrixRoomId
  targetMessageId : MessageId
  preview : MessagePreview
  body : MessageBody
  provenance : MessageProvenance
  ordered : Presence.isVersion7 submissionId.uuid = true
  typed : preview.contentType = body.mediaType

structure RedactMessageRequest where
  submissionId : MessageSubmissionId
  roomId : MatrixRoomId
  targetMessageId : MessageId
  targetContentId : ContentId
  provenance : MessageProvenance
  ordered : Presence.isVersion7 submissionId.uuid = true

open Library Presence

def previewEventType : String := "io.github.rainyflash.agentroom.message.preview.v1"

def revisionEventType : String := "io.github.rainyflash.agentroom.message.revision.v1"

inductive MessageWireFailure where
  | invalidIdentifier
  | serialization
  | signing
deriving DecidableEq

def maxTransactionIdLength : Nat := 255

def validTransactionId (value : String) : Bool :=
  1 ≤ value.utf8ByteSize && value.utf8ByteSize ≤ maxTransactionIdLength &&
    value.toList.all fun char => char.isAlphanum || char ∈ ['.', '_', '-', '~']

structure MatrixTransactionId where
  text : String
  valid : validTransactionId text = true
deriving DecidableEq

def MatrixTransactionId.new (text : String) : Except MessageWireFailure MatrixTransactionId :=
  if valid : validTransactionId text = true then .ok ⟨text, valid⟩ else .error .invalidIdentifier

structure MessageSubmissionFingerprint where
  bytes : BitVec 256
deriving DecidableEq

structure MatrixEvent where
  eventType : String
  transactionId : MatrixTransactionId
  content : Json

-- What other crates make of a value.
structure WireEncodings where
  formatUuid : Nat → String
  formatTime : UtcMillis → Option String
  canonicalize : Json → Option (List UInt8)
  sha256 : List UInt8 → BitVec 256
  encodeBase64 : List UInt8 → String
  serializedLength : Json → Option Nat

def orWire {α : Type} (failure : MessageWireFailure) : Option α → Except MessageWireFailure α
  | some value => .ok value
  | none => .error failure

def skipNone (key : String) : Option Json → List (String × Json)
  | none => []
  | some value => [(key, value)]

def orNull : Option Json → Json
  | none => .null
  | some value => value

def count (value : Nat) : Json := .number (.integer value)

def hex (digest : Sha256Digest) : String :=
  String.ofList ((List.range 64).map fun place => Nat.digitChar (digest.bytes.toNat / 16 ^ (63 - place) % 16))

def ContentEncryptionMode.asStr : ContentEncryptionMode → String
  | .serverSide => "server_side"
  | .clientE2ee => "client_e2ee"

section

variable (encodings : WireEncodings) (identity : BridgeAgentIdentity)

def wireId {kind : IdKind} (id : Id kind) : Json := .string (encodings.formatUuid id.uuid)

def previewTransactionId (submissionId : MessageSubmissionId) : Except MessageWireFailure MatrixTransactionId :=
  MatrixTransactionId.new ("agent-room-message-" ++ encodings.formatUuid submissionId.uuid)

def revisionTransactionId (submissionId : MessageSubmissionId) : Except MessageWireFailure MatrixTransactionId :=
  MatrixTransactionId.new ("agent-room-revision-" ++ encodings.formatUuid submissionId.uuid)

def actor (provenance : MessageProvenance) : Json :=
  .object [
    ("agent", .object ([
      ("agentId", wireId encodings identity.agentId),
      ("displayName", .string identity.displayName),
      ("matrixUserId", .string identity.matrixUserId.value)] ++
      skipNone "avatarUrl" (identity.avatarUrl.map Json.string))),
    ("instanceId", wireId encodings identity.agentInstanceId),
    ("provenance", .string provenance.asStr)]

def conversation (chat : ConversationMessage) : Json :=
  .object (skipNone "attachmentName" (chat.attachmentName.map Json.string) ++ [
    ("text", .string chat.text),
    ("mentions", .array (chat.mentions.map Json.string))])

def preview (value : MessagePreview) : Json :=
  .object (
    skipNone "conversation" (value.conversation.map conversation) ++
    (if value.conversation.any (·.mentionsEveryone) then [("mentionsEveryone", .bool true)] else []) ++ [
      ("title", .string value.title),
      ("summary", .string value.summary),
      ("contentType", .string value.contentType.value)] ++
    skipNone "language" (value.language.map Json.string) ++ [
      ("sensitivity", .string value.sensitivity.asStr),
      ("riskFlags", .array (value.riskFlags.members.map fun flag => .string flag.value))])

def clientEncryption (value : ClientContentEncryption) : Json :=
  .object [
    ("algorithm", .string value.algorithm.asStr),
    ("contextId", wireId encodings value.contextId),
    ("keyBase64Url", .string (encodings.encodeBase64 value.key)),
    ("nonceBase64Url", .string (encodings.encodeBase64 value.nonce)),
    ("plaintextSizeBytes", count value.plaintextSizeBytes)]

def bodyFingerprint (value : MessageBody) : Json :=
  .object ([
    ("digestSha256", .string (hex value.digest)),
    ("sizeBytes", count value.byteLength.value),
    ("mediaType", .string value.mediaType.value),
    ("encryptionMode", .string (ContentEncryptionMode.asStr value.encryptionMode))] ++
    skipNone "encryption" (value.clientEncryption.map (clientEncryption encodings)) ++ [
      ("expiresAtUnixMs", orNull (value.expiresAt.map fun time => count time.value))])

structure MessageContentRecord where
  contentId : ContentId
  digest : Sha256Digest
  byteLength : ContentByteLength
  mediaType : ContentMediaType

def contentRef (value : MessageContentRecord) (body : MessageBody) : Json :=
  .object ([
    ("contentId", wireId encodings value.contentId),
    ("digestSha256", .string (hex value.digest)),
    ("sizeBytes", count value.byteLength.value),
    ("mediaType", .string value.mediaType.value),
    ("fetchMode", .string "on_demand")] ++
    skipNone "encryption" (body.clientEncryption.map (clientEncryption encodings)))

def relation : MessageRelation → Json
  | .replyTo messageId => .object [("kind", .string "reply"), ("targetMessageId", wireId encodings messageId)]

def fingerprint (value : Json) : Except MessageWireFailure MessageSubmissionFingerprint := do
  let canonical ← orWire .serialization (encodings.canonicalize value)
  return ⟨encodings.sha256 canonical⟩

def previewFingerprint (request : SendMessageRequest) : Except MessageWireFailure MessageSubmissionFingerprint :=
  fingerprint encodings (.object [
    ("kind", .string "preview"),
    ("roomId", .string request.roomId.text),
    ("actor", actor encodings identity request.provenance),
    ("preview", preview request.preview),
    ("body", bodyFingerprint encodings request.body),
    ("relation", orNull (request.relation.map (relation encodings)))])

def editFingerprint (request : EditMessageRequest) : Except MessageWireFailure MessageSubmissionFingerprint :=
  fingerprint encodings (.object [
    ("kind", .string "replace"),
    ("roomId", .string request.roomId.text),
    ("actor", actor encodings identity request.provenance),
    ("targetMessageId", wireId encodings request.targetMessageId),
    ("preview", preview request.preview),
    ("body", bodyFingerprint encodings request.body)])

def redactFingerprint (request : RedactMessageRequest) : Except MessageWireFailure MessageSubmissionFingerprint :=
  fingerprint encodings (.object [
    ("kind", .string "redact"),
    ("roomId", .string request.roomId.text),
    ("actor", actor encodings identity request.provenance),
    ("targetMessageId", wireId encodings request.targetMessageId),
    ("targetContentId", wireId encodings request.targetContentId)])

-- The time a UUID of version 7 was made at stands in its first 48 bits.
def submissionTime (submissionId : MessageSubmissionId) : Except MessageWireFailure String :=
  if fits : isVersion7 submissionId.uuid = true ∧ submissionId.uuid / 2 ^ 80 ≤ i64Max then
    orWire .serialization (encodings.formatTime ⟨submissionId.uuid / 2 ^ 80, fits.2⟩)
  else .error .invalidIdentifier

def eventHead (eventType : String) (submissionId : MessageSubmissionId) (createdAt : String)
    (provenance : MessageProvenance) (roomId : MatrixRoomId) : List (String × Json) := [
  ("schemaVersion", .string "1.0"),
  ("eventType", .string eventType),
  ("id", wireId encodings submissionId),
  ("createdAt", .string createdAt),
  ("actor", actor encodings identity provenance),
  ("correlationId", wireId encodings submissionId),
  ("roomId", .string roomId.text)]

def unsignedPreview (request : SendMessageRequest) (content : MessageContentRecord) :
    Except MessageWireFailure (List (String × Json)) := do
  let createdAt ← submissionTime encodings request.submissionId
  return eventHead encodings identity previewEventType request.submissionId createdAt request.provenance request.roomId ++ [
      ("preview", preview request.preview),
      ("content", contentRef encodings content request.body)] ++
    skipNone "relation" (request.relation.map (relation encodings))

def unsignedEdit (request : EditMessageRequest) (content : MessageContentRecord) :
    Except MessageWireFailure (List (String × Json)) := do
  let createdAt ← submissionTime encodings request.submissionId
  return eventHead encodings identity revisionEventType request.submissionId createdAt request.provenance request.roomId ++ [
      ("targetMessageId", wireId encodings request.targetMessageId),
      ("kind", .string "replace"),
      ("preview", preview request.preview),
      ("content", contentRef encodings content request.body)]

def unsignedRedaction (request : RedactMessageRequest) : Except MessageWireFailure (List (String × Json)) := do
  let createdAt ← submissionTime encodings request.submissionId
  return eventHead encodings identity revisionEventType request.submissionId createdAt request.provenance request.roomId ++ [
      ("targetMessageId", wireId encodings request.targetMessageId),
      ("kind", .string "redact")]

def insertSignature (content : List (String × Json)) (signature : DeviceSignature) : List (String × Json) :=
  content ++ [("signature", .string (encodings.encodeBase64 signature.bytes))]

def MatrixEvent.new (eventType : String) (transactionId : MatrixTransactionId) (content : Json) :
    Except MessageWireFailure MatrixEvent := do
  let size ← orWire .serialization (encodings.serializedLength content)
  ensure .serialization (size ≤ maxEventPayloadBytes)
  return ⟨eventType, transactionId, content⟩

end

-- Whose words an event says it carries, and the submission it was made for.
def MatrixEvent.provenance (event : MatrixEvent) : Option String :=
  ((event.content.get "actor").bind (·.get "provenance")).bind Json.asStr

def MatrixEvent.submission (event : MatrixEvent) : Option String := (event.content.get "id").bind Json.asStr

end AgentRoom.Publication
