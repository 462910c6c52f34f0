import AgentRoom.Domain.Failures
import AgentRoom.Library.Calls
import AgentRoom.Publication.Submissions

namespace AgentRoom.Publication

open Library Presence

inductive MessageContentFailureKind where
  | invalidRequest
  | denied
  | conflict
  | unavailable
  | unknownCommit
  | internal
deriving DecidableEq

inductive AutomationAuthorizationFailureKind where
  | denied
  | unavailable
  | invalidResponse
  | internal
deriving DecidableEq

def automationMaxTextBytes : Nat := 48 * 1024

structure AutomationMessageText where
  text : String
  bounded : text ≠ "" ∧ text.utf8ByteSize ≤ automationMaxTextBytes
deriving DecidableEq

def AutomationMessageText.new (text : String) : Option AutomationMessageText :=
  if bounded : text ≠ "" ∧ text.utf8ByteSize ≤ automationMaxTextBytes then some ⟨text, bounded⟩ else none

structure AutomationAuthorizationRequest where
  receptionRunId : Option Nat
  grantId : AutomationGrantId
  submissionId : MessageSubmissionId
  agentId : AgentId
  agentInstanceId : AgentInstanceId
  roomCatalogId : RoomCatalogId
  matrixRoomId : MatrixRoomId
  isReply : Bool
  messageText : Option AutomationMessageText

structure MessageContentUploadRequest where
  requestId : ContentUploadRequestId
  roomId : MatrixRoomId
  digest : Sha256Digest
  byteLength : ContentByteLength
  mediaType : ContentMediaType
  encryptionMode : ContentEncryptionMode
  expiresAt : Option UtcMillis
  body : List UInt8

structure MessageContentBindRequest where
  contentId : ContentId
  roomId : MatrixRoomId
  eventId : MatrixEventId

structure MessageContentRedactRequest where
  contentId : ContentId

-- The calls a publication makes of the other services and of its own store.
inductive PublicationOp where
  | authorize (request : AutomationAuthorizationRequest)
  | claim (claim : MessageSubmissionClaim)
  | markSubmitUnknown (submissionId : MessageSubmissionId)
  | markAccepted (submissionId : MessageSubmissionId) (eventId : MatrixEventId)
  | markBound (submissionId : MessageSubmissionId)
  | upload (request : MessageContentUploadRequest)
  | bind (request : MessageContentBindRequest)
  | redact (request : MessageContentRedactRequest)
  | sign (message : List UInt8)
  | publish (roomId : MatrixRoomId) (event : MatrixEvent)

def PublicationOp.Answer : PublicationOp → Type
  | .authorize _ => Except AutomationAuthorizationFailureKind Unit
  | .claim _ => StoreResult MessageSubmissionClaimOutcome
  | .markSubmitUnknown _ => StoreResult MessageSubmissionRecord
  | .markAccepted _ _ => StoreResult MessageSubmissionRecord
  | .markBound _ => StoreResult MessageSubmissionRecord
  | .upload _ => Except MessageContentFailureKind MessageContentRecord
  | .bind _ => Except MessageContentFailureKind Unit
  | .redact _ => Except MessageContentFailureKind Unit
  | .sign _ => Option DeviceSignature
  | .publish _ _ => Except MatrixFailureKind MatrixEventId

inductive MessagePublicationFailure where
  | invalidIntent
  | automationAuthorization (kind : AutomationAuthorizationFailureKind)
  | signingUnavailable
  | serialization
  | store (kind : MessageStoreFailureKind)
  | content (kind : MessageContentFailureKind)
  | matrix (kind : MatrixFailureKind)
deriving DecidableEq

inductive MessagePublicationOutcome where
  | published (submissionId : MessageSubmissionId) (eventId : MatrixEventId) (reused : Bool)
  | pendingReconciliation (submissionId : MessageSubmissionId) (transactionId : MatrixTransactionId)
  | acceptedBindingPending (submissionId : MessageSubmissionId) (eventId : MatrixEventId)

abbrev Wiring (α : Type) := ExceptT MessageWireFailure (Program PublicationOp PublicationOp.Answer) α

abbrev Publishing (α : Type) := ExceptT MessagePublicationFailure (Program PublicationOp PublicationOp.Answer) α

def ask (op : PublicationOp) : Publishing op.Answer := consult op .ok

def mapWireFailure : MessageWireFailure → MessagePublicationFailure
  | .invalidIdentifier => .invalidIntent
  | .serialization => .serialization
  | .signing => .signingUnavailable

-- The service as it is when a call is made: the rooms whose catalog entry is known.
structure MessagePublicationService where
  identity : BridgeAgentIdentity
  roomCatalogId : RoomCatalogId
  rooms : MatrixRoomId → Option RoomCatalogId

def MessagePublicationService.roomCatalogIdFor (service : MessagePublicationService) (roomId : MatrixRoomId) : RoomCatalogId :=
  (service.rooms roomId).getD service.roomCatalogId

def completedOutcome (record : MessageSubmissionRecord) : Option MessagePublicationOutcome :=
  if record.state ≠ .bound then none
  else record.eventId.map fun eventId => .published record.submissionId eventId true

-- The bytes of a body as a text, which a client's ciphertext is never read as.
def scannedText (body : MessageBody) : Except MessagePublicationFailure (Option AutomationMessageText) :=
  if body.encryptionMode = .serverSide then
    match (String.fromUTF8? ⟨body.bytes.toArray⟩).bind AutomationMessageText.new with
    | some text => .ok (some text)
    | none => .error .invalidIntent
  else .ok none

section

variable (encodings : WireEncodings) (service : MessagePublicationService)

def authorizeAutomation (request : SendMessageRequest) : Publishing Unit :=
  if request.provenance ≠ .autonomousAgent then settled (.ok ())
  else do
    let grantId ← settled (request.automationGrantId.elim (.error .invalidIntent) .ok)
    let messageText ← settled (scannedText request.body)
    consult (.authorize {
      receptionRunId := request.receptionRunId
      grantId
      submissionId := request.submissionId
      agentId := service.identity.agentId
      agentInstanceId := service.identity.agentInstanceId
      roomCatalogId := service.roomCatalogIdFor request.roomId
      matrixRoomId := request.roomId
      isReply := request.relation.isSome
      messageText }) (Except.mapError .automationAuthorization)

variable (submissionId : MessageSubmissionId)

def claim (kind : MessageSubmissionKind) (fingerprint : MessageSubmissionFingerprint)
    (transactionId : MatrixTransactionId) : Publishing MessageSubmissionRecord :=
  consult (.claim { submissionId, kind, fingerprint, transactionId }) fun answer =>
    (answer.map MessageSubmissionClaimOutcome.record).mapError .store

def upload (roomId : MatrixRoomId) (body : MessageBody) : Publishing MessageContentRecord := do
  let content ← consult (.upload {
    requestId := ⟨submissionId.uuid⟩
    roomId
    digest := body.digest
    byteLength := body.byteLength
    mediaType := body.mediaType
    encryptionMode := body.encryptionMode
    expiresAt := body.expiresAt
    body := body.bytes }) (Except.mapError .content)
  settled (ensure (.content .internal) (content.digest = body.digest ∧ content.byteLength = body.byteLength ∧
    content.mediaType = body.mediaType))
  return content

def signedEvent (eventType : String) (transactionId : MatrixTransactionId) (content : List (String × Json)) :
    Wiring MatrixEvent := do
  let canonical ← settled (orWire .serialization (encodings.canonicalize (.object content)))
  let signature ← consult (.sign canonical) (orWire .signing)
  settled (MatrixEvent.new encodings eventType transactionId (.object (insertSignature encodings content signature)))

def previewEvent (request : SendMessageRequest) (transactionId : MatrixTransactionId) (content : MessageContentRecord) :
    Wiring MatrixEvent := do
  let unsigned ← settled (unsignedPreview encodings service.identity request content)
  signedEvent encodings previewEventType transactionId unsigned

def editEvent (request : EditMessageRequest) (transactionId : MatrixTransactionId) (content : MessageContentRecord) :
    Wiring MatrixEvent := do
  let unsigned ← settled (unsignedEdit encodings service.identity request content)
  signedEvent encodings revisionEventType transactionId unsigned

def redactEvent (request : RedactMessageRequest) (transactionId : MatrixTransactionId) : Wiring MatrixEvent := do
  let unsigned ← settled (unsignedRedaction encodings service.identity request)
  signedEvent encodings revisionEventType transactionId unsigned

def publish (roomId : MatrixRoomId) (event : MatrixEvent) : Publishing (Option MatrixEventId) := do
  match ← ask (.publish roomId event) with
  | .ok eventId => do
    let _ ← consult (.markAccepted submissionId eventId) (Except.mapError .store)
    return some eventId
  | .error .unknownCommit => do
    let _ ← consult (.markSubmitUnknown submissionId) (Except.mapError .store)
    return none
  | .error failure => settled (.error (.matrix failure))

def markBound (outcome : MessagePublicationOutcome) : Publishing MessagePublicationOutcome := do
  let _ ← consult (.markBound submissionId) (Except.mapError .store)
  return outcome

def bind (contentId : ContentId) (roomId : MatrixRoomId) (eventId : MatrixEventId)
    (reused : Bool) : Publishing MessagePublicationOutcome := do
  match ← ask (.bind { contentId, roomId, eventId }) with
  | .ok () => markBound submissionId (.published submissionId eventId reused)
  | .error .unavailable | .error .unknownCommit => return .acceptedBindingPending submissionId eventId
  | .error failure => settled (.error (.content failure))

def bindAccepted (record : MessageSubmissionRecord) (content : MessageContentRecord) (roomId : MatrixRoomId) :
    Publishing MessagePublicationOutcome := do
  let eventId ← settled (record.eventId.elim (.error .invalidIntent) .ok)
  bind record.submissionId content.contentId roomId eventId true

def completeRedaction (record : MessageSubmissionRecord) : Publishing MessagePublicationOutcome := do
  let eventId ← settled (record.eventId.elim (.error .invalidIntent) .ok)
  markBound record.submissionId (.published record.submissionId eventId true)

def publishWithContent (roomId : MatrixRoomId) (event : MatrixEvent)
    (content : MessageContentRecord) : Publishing MessagePublicationOutcome := do
  match ← publish submissionId roomId event with
  | none => return .pendingReconciliation submissionId event.transactionId
  | some eventId => bind submissionId content.contentId roomId eventId false

def publishBody (roomId : MatrixRoomId) (body : MessageBody)
    (record : MessageSubmissionRecord) (event : MessageContentRecord → Wiring MatrixEvent) :
    Publishing MessagePublicationOutcome :=
  match completedOutcome record with
  | some outcome => settled (.ok outcome)
  | none => do
    let content ← upload submissionId roomId body
    if record.state = .accepted then bindAccepted record content roomId
    else do
      let event ← failAs mapWireFailure (event content)
      publishWithContent submissionId roomId event content

def send (request : SendMessageRequest) : Publishing MessagePublicationOutcome := do
  authorizeAutomation service request
  let fingerprint ← settled ((previewFingerprint encodings service.identity request).mapError mapWireFailure)
  let transactionId ← settled ((previewTransactionId encodings request.submissionId).mapError mapWireFailure)
  let record ← claim request.submissionId .preview fingerprint transactionId
  publishBody request.submissionId request.roomId request.body record (previewEvent encodings service request transactionId)

def edit (request : EditMessageRequest) : Publishing MessagePublicationOutcome := do
  let fingerprint ← settled ((editFingerprint encodings service.identity request).mapError mapWireFailure)
  let transactionId ← settled ((revisionTransactionId encodings request.submissionId).mapError mapWireFailure)
  let record ← claim request.submissionId .replace fingerprint transactionId
  publishBody request.submissionId request.roomId request.body record (editEvent encodings service request transactionId)

def redact (request : RedactMessageRequest) : Publishing MessagePublicationOutcome := do
  let fingerprint ← settled ((redactFingerprint encodings service.identity request).mapError mapWireFailure)
  let transactionId ← settled ((revisionTransactionId encodings request.submissionId).mapError mapWireFailure)
  let record ← claim request.submissionId .redact fingerprint transactionId
  match completedOutcome record with
  | some outcome => return outcome
  | none => do
    consult (.redact ⟨request.targetContentId⟩) (Except.mapError .content)
    if record.state = .accepted then completeRedaction record
    else do
      let event ← failAs mapWireFailure (redactEvent encodings service request transactionId)
      match ← publish request.submissionId request.roomId event with
      | none => return .pendingReconciliation request.submissionId record.transactionId
      | some eventId => markBound request.submissionId (.published request.submissionId eventId false)

end

open Library Presence

inductive PublicationRequest where
  | send (request : SendMessageRequest)
  | edit (request : EditMessageRequest)
  | redact (request : RedactMessageRequest)

structure PublicationCall where
  service : MessagePublicationService
  request : PublicationRequest

namespace PublicationCall

def submissionId (call : PublicationCall) : MessageSubmissionId :=
  match call.request with
  | .send request => request.submissionId
  | .edit request => request.submissionId
  | .redact request => request.submissionId

def provenance (call : PublicationCall) : MessageProvenance :=
  match call.request with
  | .send request => request.provenance
  | .edit request => request.provenance
  | .redact request => request.provenance

def kind (call : PublicationCall) : MessageSubmissionKind :=
  match call.request with
  | .send _ => .preview
  | .edit _ => .replace
  | .redact _ => .redact

def fingerprint (encodings : WireEncodings) (call : PublicationCall) : Except MessageWireFailure MessageSubmissionFingerprint :=
  match call.request with
  | .send request => previewFingerprint encodings call.service.identity request
  | .edit request => editFingerprint encodings call.service.identity request
  | .redact request => redactFingerprint encodings call.service.identity request

def transactionId (encodings : WireEncodings) (call : PublicationCall) : Except MessageWireFailure MatrixTransactionId :=
  match call.request with
  | .send request => previewTransactionId encodings request.submissionId
  | .edit request => revisionTransactionId encodings request.submissionId
  | .redact request => revisionTransactionId encodings request.submissionId

def perform (encodings : WireEncodings) (call : PublicationCall) :
    Program PublicationOp PublicationOp.Answer (Except MessagePublicationFailure MessagePublicationOutcome) :=
  match call.request with
  | .send request => (send encodings call.service request).run
  | .edit request => (edit encodings call.service request).run
  | .redact request => (redact encodings call.service request).run

end PublicationCall

structure SubmittedEvent where
  roomId : MatrixRoomId
  event : MatrixEvent

structure CreatedEvent extends SubmittedEvent where
  eventId : MatrixEventId

structure World where
  rows : Submissions
  authorized : List AutomationAuthorizationRequest
  uploads : List (MessageContentUploadRequest × MessageContentRecord)
  bound : List MessageContentBindRequest
  revoked : List ContentId
  submitted : List SubmittedEvent
  events : List CreatedEvent

namespace World

def empty : World := ⟨[], [], [], [], [], [], []⟩

-- The homeserver makes one event of a transaction and answers every repetition with it.
def Accepts (world : World) (submitted : SubmittedEvent) (eventId : MatrixEventId) (next : World) : Prop :=
  (next = world ∧ ∃ created ∈ world.events, created.event.transactionId = submitted.event.transactionId ∧
    created.eventId = eventId) ∨
  ((∀ created ∈ world.events, created.event.transactionId ≠ submitted.event.transactionId) ∧
    next = { world with events := world.events ++ [⟨submitted, eventId⟩] })

def receive (world : World) (submitted : SubmittedEvent) : World :=
  { world with submitted := world.submitted ++ [submitted] }

def Uploads (world : World) (request : MessageContentUploadRequest) (record : MessageContentRecord) (next : World) : Prop :=
  (next = world ∧ ∃ earlier, (earlier, record) ∈ world.uploads ∧ earlier.requestId = request.requestId) ∨
  ((∀ earlier ∈ world.uploads, earlier.1.requestId ≠ request.requestId) ∧
    next = { world with uploads := world.uploads ++ [(request, record)] })

-- A service did what it was asked and says so, or it fails and may have done it all the same.
def Served {α ε : Type} (does : α → World → Prop) (world : World) (answer : Except ε α) (next : World) : Prop :=
  match answer with
  | .ok value => does value next
  | .error _ => next = world ∨ ∃ value, does value next

-- A transaction of the table, or a database that is not available and may have
-- committed what it was not able to confirm.
def Stored {α : Type} (world : World) (result : StoreResult (Submissions × α)) (answer : StoreResult α) (next : World) : Prop :=
  (∃ rows value, result = .ok (rows, value) ∧ next = { world with rows } ∧ (answer = .ok value ∨ answer = .error .unavailable)) ∨
  (∃ kind, result = .error kind ∧ answer = .error kind ∧ next = world) ∨
  (answer = .error .unavailable ∧ next = world)

def Answers (world : World) : (op : PublicationOp) → op.Answer → World → Prop
  | .authorize request, answer, next =>
    (answer = .ok () ∧ next = { world with authorized := world.authorized ++ [request] }) ∨
      ((∃ kind, answer = .error kind) ∧ next = world)
  | .claim claim, answer, next => Stored world (claimRecord world.rows claim) answer next
  | .markSubmitUnknown submissionId, answer, next => Stored world (markUnknownRecord world.rows submissionId) answer next
  | .markAccepted submissionId eventId, answer, next =>
    Stored world (markAcceptedRecord world.rows submissionId eventId) answer next
  | .markBound submissionId, answer, next => Stored world (markBoundRecord world.rows submissionId) answer next
  | .upload request, answer, next => Served (Uploads world request) world answer next
  | .bind request, answer, next =>
    Served (fun _ after => after = { world with bound := world.bound ++ [request] }) world answer next
  | .redact request, answer, next =>
    Served (fun _ after => after = { world with revoked := world.revoked ++ [request.contentId] }) world answer next
  | .sign _, _, next => next = world
  | .publish roomId event, answer, next =>
    match answer with
    | .ok eventId => Accepts (world.receive ⟨roomId, event⟩) ⟨roomId, event⟩ eventId next
    | .error _ => next = world ∨ next = world.receive ⟨roomId, event⟩

-- A request that was given up on is carried out later, or a sync shows an event
-- of this device with its transaction.
def Moves (world next : World) : Prop :=
  (∃ submitted ∈ world.submitted, ∃ eventId, Accepts world submitted eventId next) ∨
  (∃ created ∈ world.events, ∃ answer,
    Stored world (observeRecord world.rows created.event.transactionId created.eventId) answer next)

end World

def environment : Environment World PublicationOp PublicationOp.Answer := ⟨World.Answers, World.Moves⟩

abbrev PublicationScene :=
  Scene World PublicationCall PublicationOp PublicationOp.Answer (Except MessagePublicationFailure MessagePublicationOutcome)

-- A run of calls, each of them cut off wherever it stands or left to go on, in
-- any order with the others.
def PublicationRun (encodings : WireEncodings) (start : PublicationScene) (turns : List (Turn PublicationCall))
    (final : PublicationScene) : Prop :=
  Runs (Turns environment (PublicationCall.perform encodings)) start turns final

end AgentRoom.Publication
