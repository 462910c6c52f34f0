import AgentRoom.Library.Scripted
import AgentRoom.Reception.Receiver

namespace AgentRoom.Reception

open Library

inductive ReceiverMode where
  | listen
  | verifyReceipt
deriving DecidableEq

structure HostSession where
  sessionId : String
  ended : Bool
  errorCode : Option String

structure SelfSummary where
  agentId : AgentId
  roomCatalogId : Option RoomCatalogId
  instanceId : AgentInstanceId

structure BatchMessage where
  eventId : String
  messageId : Nat
  human : Bool

structure WokenBatch where
  previews : List BatchMessage
  wakeEventIds : List String
  cursor : Option String

structure HostDelivery where
  submissionId : Nat
  messages : List BatchMessage
  wakeEventIds : List String
  replyTo : Nat

inductive HostReply where
  | silent
  | body (text : String)
deriving DecidableEq

inductive ReceiverEvent where
  | ready
  | delivery (record : DeliveryRecord)
  | reconnecting (failure : ReceptionFailure) (retryInSeconds : Nat)
  | stopped

inductive ReceiverOp where
  | load
  | store (state : ReceiverState)
  | mint
  | openHostSession (sessionKey : Nat) (displayName : String)
  | waitUntilReady (session : String)
  | initialCursor (session : String) (start : ReceiverStart)
  | control (session : Option String) (request : ReceptionRequest)
  | verify (session : String) (record : DeliveryRecord) (agentId : AgentId) (seconds : Nat)
  | listRooms
  | nextBatch (session : String) (cursor : Option String) (privateRoom : Bool)
  | fullText (session : String) (messages : List BatchMessage)
  | resume (session : String) (delivery : HostDelivery) (batch : WokenBatch)
  | send (session : String) (runId : ReceptionRunId) (record : DeliveryRecord) (body : String)
  | acknowledge (session : String) (anchor : String)
  | closeHostSession (session : String)
  | sleep (seconds : Nat)
  | emit (event : ReceiverEvent)

-- A routine is left by a failure it may handle, by the end of its supervision
-- (the branch of a select that finished first), or by a request to stop.
inductive Halt where
  | failure (failure : ReceptionFailure)
  | cancelled (failure : ReceptionFailure)
  | stopped

def ReceiverOp.Answer : ReceiverOp → Type
  | .load => ReceiverResult (Option ReceiverState)
  | .store _ => ReceiverResult Unit
  | .mint => Nat
  | .openHostSession _ _ => Except Halt HostSession
  | .waitUntilReady _ => Except Halt SelfSummary
  | .initialCursor _ _ => Except Halt (Option String)
  | .control _ _ => Except Halt ReceptionRecord
  | .verify _ _ _ _ => Except Halt String
  | .listRooms => Except Halt Bool
  | .nextBatch _ _ _ => Except Halt WokenBatch
  | .fullText _ _ => Except Halt Unit
  | .resume _ _ _ => Except Halt HostReply
  | .send _ _ _ _ => Except Halt Nat
  | .acknowledge _ _ => Except Halt Unit
  | .closeHostSession _ => Except Halt Unit
  | .sleep _ => Except Halt Unit
  | .emit _ => ReceiverResult Unit

structure ReceiverProcess where
  state : ReceiverState
  session : Option String

abbrev Receiver (α : Type) := Routine Halt ReceiverProcess ReceiverOp ReceiverOp.Answer α

def handled : Halt → Option ReceptionFailure
  | .failure failure => some failure
  | .cancelled _ | .stopped => none

section

variable {α : Type}

def settle (known : ReceiverResult α) : Receiver α := Routine.result (known.mapError .failure)

def failed (failure : ReceptionFailure) : Receiver α := Routine.result (.error (.failure failure))

def getState : Receiver ReceiverState := do
  let receiver ← Routine.current
  return receiver.state

def setState (state : ReceiverState) : Receiver Unit := Routine.remember fun receiver => { receiver with state }

def saveState : Receiver Unit := do
  let state ← getState
  Routine.ask (.store state) fun answer => answer.mapError .failure

def emit (event : ReceiverEvent) : Receiver Unit := Routine.ask (.emit event) fun answer => answer.mapError .failure

def emitDelivery : Receiver Unit := do
  let state ← getState
  let record ← settle (required "receiver.delivery_missing" state.lastDelivery)
  emit (.delivery record)

def changeRecord (change : DeliveryRecord → DeliveryRecord) : Receiver Unit := do
  let state ← getState
  let record ← settle (required "receiver.delivery_missing" state.lastDelivery)
  setState { state with lastDelivery := some (change record) }
  saveState

def changeStage (stage : DeliveryStage) : Receiver Unit := changeRecord fun record => { record with stage }

def markFailure (failure : ReceptionFailure) : Receiver Unit :=
  changeRecord fun record => { record with stage := .needsReview, failure := some failure }

def control (session : Option String) (request : ReceptionRequest) : Receiver ReceptionRecord :=
  Routine.ask (.control session request) id

def verify (session : String) (record : DeliveryRecord) (agentId : AgentId) (seconds : Nat) : Receiver String :=
  Routine.ask (.verify session record agentId seconds) id

end

def saveProgress (session : Option String) : Receiver Unit := do
  let state ← getState
  let execution ← settle (required "reception.execution_missing" state.execution)
  let progress ← settle state.progress
  let request ← settle (state.request (.save execution.revision progress))
  let record ← control session request
  setState (state.withRevision record.revision)
  saveState

def openExecution : Receiver Unit := do
  let state ← getState
  if state.execution = none then
    let runId ← Routine.ask .mint fun id => .ok id
    setState { state with execution := some ⟨⟨runId⟩, 0, false⟩ }
    saveState

def refused (failure : ReceptionFailure) : Receiver Unit := do
  if failure.code = "reception.execution_conflict" ∨ failure.code = "reception.forbidden" then
    let state ← getState
    setState { state with execution := none }
    saveState
  failed failure

section

variable (session : String)

-- What the server has counts, unless it still has a batch pending that the owner answered for here.
def adopt (record : ReceptionRecord) : Receiver Unit := do
  settle (ensure (.local "reception.execution_conflict") (record.status = .active))
  let state ← getState
  let known := state.withRevision record.revision
  let explicitResolution := known.explicitResolution record.progress
  setState (if explicitResolution then known else known.restore record.progress)
  saveState
  if explicitResolution then
    saveProgress (some session)

def claim : Receiver Unit := do
  openExecution
  let state ← getState
  let initial ← settle state.progress
  let request ← settle (state.request (.claim state.binding.sessionKey state.binding.displayName initial))
  match ← Routine.attempt handled (control (some session) request) with
  | .error failure => refused failure
  | .ok record => adopt session record

def releaseExecution (execution : ReceiverExecution) : Receiver Unit := do
  let state ← getState
  setState { state with execution := some { execution with releasing := true } }
  saveState
  let state ← getState
  let request ← settle (state.request .release)
  let record ← control none request
  settle (ensure (.local "reception.stop_unconfirmed") (record.status = .idle))
  setState { state with execution := none }
  saveState

def release : Receiver Unit := do
  let state ← getState
  match state.execution with
  | none => return ()
  | some execution => releaseExecution execution

def acknowledgeInBridge (anchor : String) : Receiver Unit := do
  let _ ← Routine.attempt handled (Routine.ask (.acknowledge session anchor) id)
  return ()

def completeBatch (eventId : String) : Receiver Unit := do
  let state ← getState
  let done ← settle (state.complete eventId)
  setState done
  acknowledgeInBridge session eventId

def finishReplied (record : DeliveryRecord) (replyEventId : String) : Receiver Unit := do
  completeBatch session record.eventId
  changeRecord fun record => { record with stage := .replied, replyEventId := some replyEventId, failure := none }
  saveProgress (some session)
  emitDelivery

def finishSilently (anchor : String) : Receiver Unit := do
  completeBatch session anchor
  changeStage .noReply
  saveProgress (some session)
  emitDelivery

-- Network errors may reconnect and verify, but never run the host again.
def unconfirmed (failure : ReceptionFailure) : Receiver Unit := do
  let told := if failure.retryable then failure else { failure with code := "receiver.reply_unconfirmed" }
  markFailure told
  emitDelivery
  failed told

def reconcile (agentId : AgentId) : Receiver Unit := do
  let state ← getState
  let record ← settle (required "receiver.legacy_pending_review_required" state.lastDelivery)
  match ← Routine.attempt handled (verify session record agentId 20) with
  | .ok replyEventId => finishReplied session record replyEventId
  | .error failure => unconfirmed failure

def recoverReply (agentId : AgentId) (previous : DeliveryRecord) : Receiver Bool := do
  match ← Routine.attempt handled (verify session previous agentId 2) with
  | .ok _ =>
    let state ← getState
    setState { state with checkpoint := .pending state.checkpoint.cursor previous.eventId }
    reconcile session agentId
    return true
  | .error failure =>
    settle (ensure failure (failure.code = "receiver.reply_unconfirmed"))
    return false

def recoverPrevious (agentId : AgentId) : Receiver Bool := do
  let state ← getState
  match state.lastReceived with
  | none => return false
  | some previous => recoverReply session agentId previous

def replyTarget (batch : WokenBatch) : Option Nat :=
  let woke := batch.wakeEventIds.reverse.findSome? fun eventId => batch.previews.find? fun message => message.eventId = eventId
  let spoken := batch.previews.reverse.find? fun message => message.human
  ((woke.or spoken).or batch.previews.getLast?).map (·.messageId)

def beginBatch (anchor : String) (target : Nat) : Receiver Unit := do
  let state ← getState
  let fresh ← Routine.ask .mint fun id => .ok id
  let begun ← settle (state.beginBatch fresh anchor target)
  setState begun
  saveState

def sendReply (record : DeliveryRecord) (body : String) : Receiver Unit := do
  let state ← getState
  let execution ← settle (required "reception.execution_missing" state.execution)
  let submissionId ← Routine.ask (.send session execution.runId record body) id
  settle (ensure (.local "receiver.response_invalid") (submissionId = record.submissionId))

-- A host that failed is told of before a receipt that did not come.
def tellFailure (sent : ReceiverResult Unit) (receipt : ReceptionFailure) : Receiver Unit := do
  let failure := match sent with
    | .error hostFailure => hostFailure
    | .ok _ => receipt
  markFailure failure
  emitDelivery
  failed failure

def awaitReceipt (agentId : AgentId) (sent : ReceiverResult Unit) : Receiver Unit := do
  changeStage .verifying
  emitDelivery
  match ← Routine.attempt handled (reconcile session agentId) with
  | .ok _ => return ()
  | .error receipt => tellFailure sent receipt

def hostTurn (agentId : AgentId) (batch : WokenBatch) (anchor : String) (record : DeliveryRecord) : Receiver Unit := do
  let _ ← Routine.attempt handled (Routine.ask (.fullText session batch.previews) id)
  let delivery : HostDelivery := ⟨record.submissionId, batch.previews, batch.wakeEventIds, record.messageId⟩
  match ← Routine.attempt handled (Routine.ask (.resume session delivery batch) id) with
  | .ok .silent => finishSilently session anchor
  | .ok (.body body) => do
    let sent ← Routine.attempt handled (sendReply session record body)
    awaitReceipt session agentId sent
  | .error failure => awaitReceipt session agentId (.error failure)

def handOver (agentId : AgentId) (batch : WokenBatch) (anchor : String) (target : Nat) : Receiver Unit := do
  beginBatch anchor target
  -- The server has the submission before a model can run.
  saveProgress (some session)
  emitDelivery
  let state ← getState
  let record ← settle (required "receiver.delivery_missing" state.lastDelivery)
  changeStage .running
  emitDelivery
  hostTurn session agentId batch anchor record

def deliver (agentId : AgentId) (batch : WokenBatch) : Receiver Unit := do
  let anchor ← settle (required "receiver.batch_invalid" batch.cursor)
  let target ← settle (required "receiver.batch_invalid" (replyTarget batch))
  let recovered ← recoverPrevious session agentId
  if recovered = true then
    return ()
  handOver session agentId batch anchor target

end

-- A session that is gone or closed only has to be opened again.
def sessionFailure (failure : ReceptionFailure) : ReceptionFailure :=
  if failure.code = "bridge.host_session.not_found" ∨ failure.code = "bridge.host_session.closed" then
    { failure with retryable := true }
  else failure

def sessionHalt : Halt → Halt
  | .failure failure => .failure (sessionFailure failure)
  | other => other

-- A loop that is cut short is one that was asked to stop there.
def pollBatches (session : String) (agentId : AgentId) (privateRoom : Bool) : Nat → Receiver Unit
  | 0 => Routine.result (.error .stopped)
  | rounds + 1 => do
    let state ← getState
    let batch ← Routine.ask (.nextBatch session state.checkpoint.cursor privateRoom) fun answer => answer.mapError sessionHalt
    deliver session agentId batch
    pollBatches session agentId privateRoom rounds

def pollInbox (session : String) (agentId : AgentId) (rounds : Nat) : Receiver Unit := do
  match ← Routine.attempt handled (Routine.ask .listRooms id) with
  | .ok privateRoom => pollBatches session agentId privateRoom rounds
  | .error _ => pollBatches session agentId false rounds

def openSession : Receiver HostSession := do
  let state ← getState
  let session ← Routine.ask (.openHostSession state.binding.sessionKey state.binding.displayName) id
  Routine.remember fun receiver => { receiver with session := some session.sessionId }
  settle (ensure (.local (session.errorCode.getD "receiver.session_failed")) (session.ended = false))
  return session

def identify (session : String) (summary : SelfSummary) : Receiver Unit := do
  let state ← getState
  let state := { state with roomCatalogId := summary.roomCatalogId, instanceId := some summary.instanceId }
  setState state
  match state.agentId with
  | some agentId => settle (ensure (.local "receiver.identity_changed") (agentId = summary.agentId))
  | none => do
    let afterEventId ← Routine.ask (.initialCursor session state.binding.start) id
    setState { state with checkpoint := .ready afterEventId, agentId := some summary.agentId }

def settlePending (mode : ReceiverMode) (session : String) (agentId : AgentId) : Receiver Unit := do
  let state ← getState
  if state.checkpoint.isPending = true then
    reconcile session agentId
  else
    settle (ensure (.local "receiver.no_pending_delivery") (mode ≠ .verifyReceipt))

def listenOn (session : String) (agentId : AgentId) (rounds : Nat) : Receiver Unit := do
  emit .ready
  let state ← getState
  let _ ← settle (state.request .heartbeat)
  pollInbox session agentId rounds

def receiveConnected (mode : ReceiverMode) (rounds : Nat) : Receiver Unit := do
  let session ← openSession
  let summary ← Routine.ask (.waitUntilReady session.sessionId) id
  identify session.sessionId summary
  saveState
  claim session.sessionId
  settlePending mode session.sessionId summary.agentId
  if mode = .verifyReceipt then
    return ()
  listenOn session.sessionId summary.agentId rounds

def closeSession : Receiver Unit := do
  let receiver ← Routine.current
  match receiver.session with
  | none => return ()
  | some session => Routine.ask (.closeHostSession session) id

-- What ends a connection, as the loop around it sees it; a request to stop ends the loop too.
def connectionFailure : Halt → Option ReceptionFailure
  | .failure failure => some failure
  | .cancelled failure => some failure
  | .stopped => none

def disable : Receiver Unit := do
  let state ← getState
  setState { state with enabled := false }
  saveState

def reconnect (failure : ReceptionFailure) (delay : Nat) : Receiver Unit := do
  closeSession
  Routine.remember fun receiver => { receiver with session := none }
  emit (.reconnecting failure delay)
  Routine.ask (.sleep delay) id

def receiveLoop (mode : ReceiverMode) (rounds : Nat) : Nat → Nat → Receiver Unit
  | 0, _ => Routine.result (.error .stopped)
  | attempts + 1, delay => do
    match ← Routine.attempt connectionFailure (receiveConnected mode rounds) with
    | .ok _ => return ()
    | .error failure =>
      if failure.code = "reception.handoff_requested" then
        disable
      else do
        settle (ensure failure (failure.retryable = true))
        reconnect failure delay
        receiveLoop mode rounds attempts (min (delay * 2) 30)

def closeDown : Receiver Unit := do
  closeSession
  release

def reportEnd (result : Except Halt Unit) (closed : Except Halt Unit) : Receiver Unit :=
  match result, closed with
  | .error (.failure failure), _ => failed failure
  | .error (.cancelled failure), _ => failed failure
  | _, .error _ => failed (.local "receiver.release_unconfirmed")
  | _, .ok _ => emit .stopped

def finishRelease : Receiver Unit := do
  let state ← getState
  if (state.execution.any (·.releasing)) = true then
    release

def supervise (mode : ReceiverMode) (rounds attempts : Nat) : Receiver Unit := do
  finishRelease
  let result ← Routine.attempt some (receiveLoop mode rounds attempts 1)
  let closed ← Routine.attempt some closeDown
  reportEnd result closed

def start (service : String) (loaded : ReceiverResult (Option ReceiverState)) : ReceiverResult ReceiverState := do
  let found ← loaded
  let state ← required "receiver.state_missing" found
  ensure (.local "receiver.bridge_service_changed") (state.bridgeService = service)
  return state

def run (service : String) (mode : ReceiverMode) (rounds attempts : Nat) :
    Program ReceiverOp ReceiverOp.Answer (Except Halt Unit × Option ReceiverProcess) :=
  .call .load fun loaded =>
    match start service loaded with
    | .error failure => .done (.error (.failure failure), none)
    | .ok state => ((supervise mode rounds attempts).run ⟨state, none⟩).bind fun ended => .done (ended.1, some ended.2)

end AgentRoom.Reception
