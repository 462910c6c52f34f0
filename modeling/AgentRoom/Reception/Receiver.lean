import AgentRoom.Reception.Records

namespace AgentRoom.Reception

open Library

structure ReceptionFailure where
  code : String
  retryable : Bool
deriving DecidableEq

def ReceptionFailure.local (code : String) : ReceptionFailure := ⟨code, false⟩

abbrev ReceiverResult (α : Type) := Except ReceptionFailure α

inductive CheckpointFailure where
  | pendingReviewRequired
  | eventMismatch

inductive ReceptionCheckpoint where
  | ready (afterEventId : Option String)
  | pending (afterEventId : Option String) (eventId : String)
deriving DecidableEq

namespace ReceptionCheckpoint

def cursor : ReceptionCheckpoint → Option String
  | .ready afterEventId => afterEventId
  | .pending afterEventId _ => afterEventId

def isPending : ReceptionCheckpoint → Bool
  | .ready _ => false
  | .pending _ _ => true

def begin (checkpoint : ReceptionCheckpoint) (anchorEventId : String) : Except CheckpointFailure ReceptionCheckpoint :=
  match checkpoint with
  | .ready afterEventId => .ok (.pending afterEventId anchorEventId)
  | .pending _ _ => .error .pendingReviewRequired

def complete (checkpoint : ReceptionCheckpoint) (completedEventId : String) : Except CheckpointFailure ReceptionCheckpoint :=
  match checkpoint with
  | .pending _ eventId => if eventId = completedEventId then .ok (.ready (some eventId)) else .error .eventMismatch
  | .ready _ => .error .eventMismatch

end ReceptionCheckpoint

inductive DeliveryStage where
  | received
  | running
  | verifying
  | replied
  | needsReview
  | skipped
  | noReply
deriving DecidableEq

def DeliveryStage.ending : DeliveryStage → Bool
  | .replied | .skipped | .noReply => true
  | _ => false

structure DeliveryRecord where
  eventId : String
  messageId : Nat
  submissionId : Nat
  stage : DeliveryStage
  replyEventId : Option String
  failure : Option ReceptionFailure
deriving DecidableEq

def DeliveryRecord.pending (record : DeliveryRecord) : ReceptionPending :=
  ⟨record.eventId, record.messageId, record.submissionId⟩

inductive ReceiverStart where
  | now
  | beginning
  | after (eventId : String)
deriving DecidableEq

structure ReceiverBinding where
  sessionKey : Nat
  displayName : String
  roomId : String
  start : ReceiverStart
deriving DecidableEq

structure ReceiverExecution where
  runId : ReceptionRunId
  revision : Int
  releasing : Bool
deriving DecidableEq

structure ReceiverState where
  execution : Option ReceiverExecution
  binding : ReceiverBinding
  bridgeService : String
  agentId : Option AgentId
  roomCatalogId : Option RoomCatalogId
  instanceId : Option AgentInstanceId
  checkpoint : ReceptionCheckpoint
  enabled : Bool
  lastDelivery : Option DeliveryRecord
deriving DecidableEq

def configured (binding : ReceiverBinding) (service : String) : ReceiverState where
  execution := none
  binding := binding
  bridgeService := service
  agentId := none
  roomCatalogId := none
  instanceId := none
  checkpoint := .ready none
  enabled := false
  lastDelivery := none

inductive Resolution where
  | retry
  | skip
deriving DecidableEq

def Resolution.stage : Resolution → DeliveryStage
  | .retry => .received
  | .skip => .skipped

def required {α : Type} (code : String) : Option α → ReceiverResult α
  | some value => .ok value
  | none => .error (.local code)

theorem required_ok (code : String) (found : Option α) (value : α) : required code found = .ok value ↔ found = some value := by
  cases found with
  | none => simp [required]
  | some other => simp [required]

namespace ReceiverState

variable (state : ReceiverState)

def lastReceived : Option DeliveryRecord :=
  state.lastDelivery.filter fun record => record.stage = .received

def progress : ReceiverResult ReceptionProgress :=
  let afterEventId := state.checkpoint.cursor
  if state.checkpoint.isPending then do
    let record ← required "receiver.legacy_pending_review_required" state.lastDelivery
    return ⟨afterEventId, some record.pending, none⟩
  else .ok ⟨afterEventId, none, state.lastReceived.map (·.pending)⟩

def request (command : ReceptionCommand) : ReceiverResult ReceptionRequest := do
  let agentId ← required "reception.identity_unavailable" state.agentId
  let instanceId ← required "reception.identity_unavailable" state.instanceId
  let catalogId ← required "reception.identity_unavailable" state.roomCatalogId
  let execution ← required "reception.execution_missing" state.execution
  return ⟨agentId, instanceId, catalogId, state.binding.roomId, execution.runId, command⟩

def withRevision (revision : Int) : ReceiverState :=
  { state with execution := state.execution.map fun execution => { execution with revision } }

-- The owner's answer to a batch the server still has pending.
def explicitResolution (progress : ReceptionProgress) : Bool :=
  progress.pending.any (fun pending => state.lastDelivery.any fun delivery =>
    delivery.eventId = pending.eventId && (delivery.stage = .received || delivery.stage = .skipped)) &&
    !state.checkpoint.isPending

def restoredRecord (pending : ReceptionPending) (stage : DeliveryStage) : DeliveryRecord :=
  ⟨pending.eventId, pending.messageId, pending.submissionId, stage, none, none⟩

def restoredDelivery (progress : ReceptionProgress) (known : Option DeliveryRecord) : Option DeliveryRecord :=
  match progress.pending with
  | some pending => some (restoredRecord pending .needsReview)
  | none =>
    match progress.retry with
    | some retry => some (restoredRecord retry .received)
    | none => known.filter fun record => record.stage.ending

def restore (progress : ReceptionProgress) : ReceiverState :=
  { state with
    checkpoint :=
      match progress.pending with
      | some pending => .pending progress.afterEventId pending.eventId
      | none => .ready progress.afterEventId
    lastDelivery := restoredDelivery progress state.lastDelivery }

-- The store takes the owner's answer only while no receiver runs.
def resolve (event : String) (action : Resolution) : ReceiverResult ReceiverState :=
  match state.checkpoint with
  | .ready _ => .error (.local "receiver.no_pending_delivery")
  | .pending afterEventId eventId => do
    ensure (.local "receiver.event_mismatch") (event = eventId)
    ensure (.local "receiver.legacy_pending_review_required") (¬ (action = .retry ∧ state.lastDelivery = none))
    return { state with
      checkpoint := .ready (if action = .retry then afterEventId else some event)
      lastDelivery := state.lastDelivery.map fun record => { record with stage := action.stage, failure := none } }

-- A batch is about to be given to the host: it is pending as a whole, under the
-- submission and the reply target of one that is being retried.
def beginBatch (fresh : Nat) (anchor : String) (target : Nat) : ReceiverResult ReceiverState :=
  match state.checkpoint.begin anchor with
  | .error _ => .error (.local "receiver.pending_review_required")
  | .ok checkpoint =>
    let previous := state.lastReceived
    .ok { state with
      checkpoint
      lastDelivery := some {
        eventId := anchor
        messageId := previous.elim target (·.messageId)
        submissionId := previous.elim fresh (·.submissionId)
        stage := .received
        replyEventId := none
        failure := none } }

def complete (eventId : String) : ReceiverResult ReceiverState :=
  match state.checkpoint.complete eventId with
  | .ok checkpoint => .ok { state with checkpoint }
  | .error _ => .error (.local "receiver.checkpoint_mismatch")

end ReceiverState

end AgentRoom.Reception
