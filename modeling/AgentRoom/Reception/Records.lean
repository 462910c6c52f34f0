import AgentRoom.Domain.Failures
import AgentRoom.Inbox.Waiter
import AgentRoom.Presence.Status
import Mathlib.Data.List.Induction

namespace AgentRoom

structure ReceptionRunId where
  uuid : Nat
deriving DecidableEq

structure ReceptionOwner where
  instanceId : AgentInstanceId
  deviceId : DeviceId
  runId : ReceptionRunId
deriving DecidableEq

inductive ReceptionMode where
  | idle
  | active
  | draining
deriving DecidableEq

structure ReceptionExecution where
  owner : Option ReceptionOwner
  mode : ReceptionMode
  nextDevice : Option DeviceId

inductive ReceptionTransition where
  | claim (owner : ReceptionOwner)
  | drain (nextDevice : Option DeviceId)
  | release (owner : ReceptionOwner)

inductive ReceptionConflict where
  | occupied
  | wrongDevice
  | staleExecution

namespace ReceptionExecution

def default : ReceptionExecution := ⟨none, .idle, none⟩

section

variable (execution : ReceptionExecution)

def apply : ReceptionTransition → Except ReceptionConflict ReceptionExecution
  | .claim owner =>
    if execution.mode = .active ∧ execution.owner = some owner then .ok execution
    else if execution.mode ≠ .idle then .error .occupied
    else if execution.nextDevice.any (· ≠ owner.deviceId) then .error .wrongDevice
    else if execution.owner.any (·.runId = owner.runId) then .error .staleExecution
    else .ok { owner := some owner, mode := .active, nextDevice := none }
  | .drain nextDevice =>
    .ok { execution with mode := if execution.mode = .idle then .idle else .draining, nextDevice }
  | .release owner =>
    if execution.owner ≠ some owner then .error .staleExecution
    else .ok { execution with mode := .idle }

def permits (owner : ReceptionOwner) : Bool :=
  execution.mode = .active && execution.owner = some owner

-- A refused command leaves the record as it is.
def follow (command : ReceptionTransition) : ReceptionExecution :=
  match execution.apply command with
  | .ok next => next
  | .error _ => execution

def run (commands : List ReceptionTransition) : ReceptionExecution :=
  commands.foldl follow execution

def retiredBy : ReceptionTransition → List ReceptionRunId
  | .release owner => if execution.owner = some owner then [owner.runId] else []
  | _ => []

def retired (execution : ReceptionExecution) : List ReceptionTransition → List ReceptionRunId
  | [] => []
  | command :: rest => execution.retiredBy command ++ (execution.follow command).retired rest

def NeverRevives (commands : List ReceptionTransition) : Prop :=
  ∀ first second rest owner, commands = first ++ second ++ rest → owner.runId ∈ execution.retired first →
    (execution.run (first ++ second)).permits owner = false

-- An idle record that lets the device in is claimed by a run released before the
-- one it still remembers.
def Revives (gone : List ReceptionRunId) : ReceptionTransition → Prop
  | .claim owner =>
    execution.mode = .idle ∧ execution.nextDevice.all (· = owner.deviceId) ∧ owner.runId ∈ gone ∧
      execution.owner.all (·.runId ≠ owner.runId)
  | _ => False

def ClaimsNoOldRun (commands : List ReceptionTransition) : Prop :=
  ∀ before command rest, commands = before ++ command :: rest →
    ¬ Revives (execution.run before) (execution.retired before) command

end

section

variable (execution : ReceptionExecution)

theorem run_append (first second : List ReceptionTransition) :
    execution.run (first ++ second) = (execution.run first).run second := by
  simp [run, List.foldl_append]

theorem retired_append (first second : List ReceptionTransition) :
    execution.retired (first ++ second) = execution.retired first ++ (execution.run first).retired second := by
  induction first generalizing execution with
  | nil => rfl
  | cons command rest ih =>
    simp only [List.cons_append, retired, ih, List.append_assoc]
    rfl

theorem claim_idle (owner : ReceptionOwner) (idle : execution.mode = .idle)
    (admitted : execution.nextDevice.all (· = owner.deviceId) = true) (new : execution.owner.all (·.runId ≠ owner.runId) = true) :
    execution.follow (.claim owner) = { owner := some owner, mode := .active, nextDevice := none } := by
  have device : ¬ execution.nextDevice.any (· ≠ owner.deviceId) = true := by
    cases next : execution.nextDevice with
    | none => simp
    | some device => simpa [next] using admitted
  have known : ¬ execution.owner.any (·.runId = owner.runId) = true := by
    cases held : execution.owner with
    | none => simp
    | some previous => simpa [held] using new
  have notAgain : ¬ (execution.mode = .active ∧ execution.owner = some owner) := by simp [idle]
  simp only [follow, apply]
  rw [if_neg notAgain, if_neg (not_not.mpr idle), if_neg device, if_neg known]

-- Who is permitted after a step was permitted before it, or has just claimed.
theorem permitted_step {owner : ReceptionOwner} (permitted : (execution.follow command).permits owner = true) :
    (execution.permits owner = true ∧ execution.retiredBy command = []) ∨
      (command = .claim owner ∧ execution.mode = .idle ∧ execution.nextDevice.all (· = owner.deviceId) = true ∧
        execution.owner.all (·.runId ≠ owner.runId) = true) := by
  cases command with
  | claim claimant =>
    by_cases again : execution.mode = .active ∧ execution.owner = some claimant
    · have stays : execution.follow (.claim claimant) = execution := by simp [follow, apply, again]
      rw [stays] at permitted
      exact .inl ⟨permitted, rfl⟩
    · by_cases idle : execution.mode = .idle
      · by_cases device : execution.nextDevice.any (· ≠ claimant.deviceId) = true
        · have stays : execution.follow (.claim claimant) = execution := by
            simp only [follow, apply]
            rw [if_neg again, if_neg (not_not.mpr idle), if_pos device]
          rw [stays] at permitted
          exact .inl ⟨permitted, rfl⟩
        · by_cases known : execution.owner.any (·.runId = claimant.runId) = true
          · have stays : execution.follow (.claim claimant) = execution := by
              simp only [follow, apply]
              rw [if_neg again, if_neg (not_not.mpr idle), if_neg device, if_pos known]
            rw [stays] at permitted
            exact .inl ⟨permitted, rfl⟩
          · have admitted : execution.nextDevice.all (· = claimant.deviceId) = true := by
              cases next : execution.nextDevice with
              | none => rfl
              | some device' => simpa [next] using device
            have new : execution.owner.all (·.runId ≠ claimant.runId) = true := by
              cases held : execution.owner with
              | none => rfl
              | some previous => simpa [held] using known
            rw [claim_idle execution claimant idle admitted new] at permitted
            have same : claimant = owner := by simpa [permits] using permitted
            subst same
            exact .inr ⟨rfl, idle, admitted, new⟩
      · have stays : execution.follow (.claim claimant) = execution := by simp [follow, apply, idle, again]
        rw [stays] at permitted
        exact .inl ⟨permitted, rfl⟩
  | drain nextDevice =>
    by_cases idle : execution.mode = .idle
    · simp [follow, apply, permits, idle] at permitted
    · simp [follow, apply, permits, idle] at permitted
  | release releaser =>
    by_cases held : execution.owner = some releaser
    · simp [follow, apply, permits, held] at permitted
    · have stays : execution.follow (.release releaser) = execution := by simp [follow, apply, held]
      rw [stays] at permitted
      exact .inl ⟨permitted, by simp [retiredBy, held]⟩

-- As long as no old run is claimed, nothing retired so far is permitted.
theorem retired_not_permitted (fresh : ClaimsNoOldRun execution commands)
    (owner : ReceptionOwner) (gone : owner.runId ∈ execution.retired commands) :
    (execution.run commands).permits owner = false := by
  induction commands using List.reverseRecOn with
  | nil => cases gone
  | append_singleton before command ih =>
    have earlier : ClaimsNoOldRun execution before := by
      intro first next rest shape
      exact fresh first next (rest ++ [command]) (by simp [shape])
    have last : execution.run (before ++ [command]) = (execution.run before).follow command := run_append ..
    rw [last]
    by_contra permitted
    rw [Bool.not_eq_false] at permitted
    rw [retired_append] at gone
    rcases permitted_step _ permitted with ⟨already, nothing⟩ | ⟨claimed, idle, admitted, new⟩
    · simp only [retired, nothing, List.append_nil] at gone
      rw [ih earlier gone] at already
      cases already
    · subst claimed
      simp only [retired, retiredBy, List.append_nil] at gone
      exact fresh before _ [] rfl ⟨idle, admitted, gone, new⟩

end

-- The record remembers its last owner alone, so an older run can claim it again.
theorem never_revives_iff (execution : ReceptionExecution) (commands : List ReceptionTransition) :
    NeverRevives execution commands ↔ ClaimsNoOldRun execution commands := by
  constructor
  · intro never before command rest shape revives
    cases command with
    | claim owner =>
      obtain ⟨idle, admitted, gone, new⟩ := revives
      have claimed := never before [.claim owner] rest owner (by simp [shape]) gone
      rw [run_append] at claimed
      have last : (execution.run before).run [.claim owner] = (execution.run before).follow (.claim owner) := rfl
      rw [last, claim_idle _ owner idle admitted new] at claimed
      simp [permits] at claimed
    | drain nextDevice => exact revives
    | release owner => exact revives
  · intro fresh first second rest owner shape gone
    have reached : ClaimsNoOldRun execution (first ++ second) := by
      intro before command later same
      exact fresh before command (later ++ rest) (by rw [shape, same]; simp)
    apply retired_not_permitted execution reached
    rw [retired_append]
    exact List.mem_append_left _ gone

def firstOwner : ReceptionOwner := ⟨⟨1⟩, ⟨2⟩, ⟨3⟩⟩

def secondOwner : ReceptionOwner := ⟨⟨4⟩, ⟨5⟩, ⟨6⟩⟩

def handedOverTwice : List ReceptionTransition :=
  [.claim firstOwner, .release firstOwner, .claim secondOwner, .release secondOwner, .claim firstOwner]

theorem first_run_is_revived : firstOwner.runId ∈ default.retired [.claim firstOwner, .release firstOwner] ∧
      (default.run handedOverTwice).permits firstOwner = true ∧ ¬ NeverRevives default handedOverTwice := by
  refine ⟨by decide, by decide, fun never => ?_⟩
  have refused := never [.claim firstOwner, .release firstOwner]
    [.claim secondOwner, .release secondOwner, .claim firstOwner] [] firstOwner rfl (by decide)
  exact absurd refused (by decide)

end ReceptionExecution

end AgentRoom

namespace AgentRoom.Reception

open Library

def v7 (id : Nat) : Bool := Presence.isVersion7 id

structure ReceptionPending where
  eventId : String
  messageId : Nat
  submissionId : Nat
deriving DecidableEq

structure ReceptionProgress where
  afterEventId : Option String
  pending : Option ReceptionPending
  retry : Option ReceptionPending
deriving DecidableEq

def eventReference (id : String) : Bool :=
  id.toList.head? = some '$' && id.utf8ByteSize ≤ 2048 && !id.toList.any isControlChar

def ReceptionPending.valid (pending : ReceptionPending) : Bool :=
  eventReference pending.eventId && v7 pending.messageId && v7 pending.submissionId

def ReceptionProgress.valid (progress : ReceptionProgress) : Bool :=
  progress.afterEventId.all eventReference && !(progress.pending.isSome && progress.retry.isSome) &&
    progress.pending.all ReceptionPending.valid && progress.retry.all ReceptionPending.valid

inductive ReceptionCommand where
  | claim (sessionKey : Nat) (displayName : String) (initial : ReceptionProgress)
  | heartbeat
  | save (revision : Int) (progress : ReceptionProgress)
  | release
deriving DecidableEq

structure ReceptionRequest where
  agentId : AgentId
  instanceId : AgentInstanceId
  catalogId : RoomCatalogId
  roomId : String
  runId : ReceptionRunId
  command : ReceptionCommand

def matrixRoomReference (value : String) : Bool :=
  4 ≤ value.utf8ByteSize && value.utf8ByteSize ≤ 512 && value.toList.head? = some '!' && ':' ∈ value.toList.tail &&
    !value.toList.any isControlChar

def validDisplayName (name : String) : Bool :=
  !(Inbox.trimText name).isEmpty && name.toList.length ≤ 128 && Inbox.trimText name = name && !name.toList.any isControlChar

def ReceptionCommand.valid : ReceptionCommand → Bool
  | .claim sessionKey displayName initial => v7 sessionKey && validDisplayName displayName && initial.valid
  | .save revision progress => 0 ≤ revision && progress.valid
  | .heartbeat | .release => true

def ReceptionRequest.valid (request : ReceptionRequest) : Bool :=
  v7 request.agentId.uuid && v7 request.instanceId.uuid && v7 request.catalogId.uuid && v7 request.runId.uuid &&
    matrixRoomReference request.roomId && request.command.valid

structure ReceptionRecord where
  agentId : AgentId
  catalogId : RoomCatalogId
  roomId : String
  sessionKey : Nat
  displayName : String
  instanceId : AgentInstanceId
  deviceId : DeviceId
  runId : ReceptionRunId
  status : ReceptionMode
  nextDeviceId : Option DeviceId
  lastSeenUnixMs : Int
  revision : Int
  progress : ReceptionProgress
deriving DecidableEq

-- One row for each Agent and catalog entry.
abbrev ReceptionTable := AgentId × RoomCatalogId → Option ReceptionRecord

structure AutomationSendAuthorityRequest where
  principalId : PrincipalId
  deviceId : DeviceId
  agentId : AgentId
  agentInstanceId : AgentInstanceId
  roomCatalogId : RoomCatalogId
  matrixRoomId : String

-- What the other tables answer at the moment of a call.
structure ReceptionAuthority where
  maySend : AutomationSendAuthorityRequest → Bool
  ownsAgent : PrincipalId → AgentId → Bool
  instanceAllowed : AgentInstanceId → AgentId → DeviceId → Bool
  agentSlug : AgentId → Nat → Bool
  deviceAllowed : DeviceId → PrincipalId → Bool
  instanceRevoked : AgentInstanceId → Bool
  matrixDeviceRevoked : AgentInstanceId → Bool
  now : Int

abbrev StoreResult (α : Type) := Except RepositoryErrorKind α

section

variable (authority : ReceptionAuthority) (table : ReceptionTable)

def ReceptionRecord.owner (record : ReceptionRecord) : ReceptionOwner :=
  ⟨record.instanceId, record.deviceId, record.runId⟩

def execution (record : ReceptionRecord) : ReceptionExecution where
  owner := some record.owner
  mode := record.status
  nextDevice := record.nextDeviceId

def decode (record : ReceptionRecord) : StoreResult ReceptionRecord := do
  ensure .corruptData (record.progress.valid = true)
  return record

def find (agentId : AgentId) (catalogId : RoomCatalogId) : StoreResult (Option ReceptionRecord) :=
  match table (agentId, catalogId) with
  | none => .ok none
  | some record => some <$> decode record

def findAgain (agentId : AgentId) (catalogId : RoomCatalogId) : StoreResult ReceptionRecord := do
  match ← find table agentId catalogId with
  | none => .error .corruptData
  | some record => .ok record

def put (agentId : AgentId) (catalogId : RoomCatalogId) (record : ReceptionRecord) : ReceptionTable :=
  fun key => if key = (agentId, catalogId) then some record else table key

-- UPDATE by the primary key: the columns a record was created with stay.
def save (record : ReceptionRecord) : ReceptionTable :=
  match table (record.agentId, record.catalogId) with
  | none => table
  | some row => put table record.agentId record.catalogId { row with
      instanceId := record.instanceId
      deviceId := record.deviceId
      runId := record.runId
      status := record.status
      nextDeviceId := record.nextDeviceId
      revision := record.revision
      progress := record.progress
      lastSeenUnixMs := authority.now }

def lockOwnedAgent (principal : PrincipalId) (agent : AgentId) : StoreResult Unit :=
  ensure .forbidden (authority.ownsAgent principal agent = true)

-- INSERT of a first claim; the primary key is free, the row was just looked for.
def create (device : DeviceId) (request : ReceptionRequest) : StoreResult (ReceptionTable × ReceptionRecord) :=
  match request.command with
  | .claim sessionKey displayName initial => do
    ensure .forbidden (authority.agentSlug request.agentId sessionKey = true)
    let table := put table request.agentId request.catalogId {
      agentId := request.agentId
      catalogId := request.catalogId
      roomId := request.roomId
      sessionKey
      displayName
      instanceId := request.instanceId
      deviceId := device
      runId := request.runId
      status := .active
      nextDeviceId := none
      lastSeenUnixMs := authority.now
      revision := 0
      progress := initial }
    let record ← findAgain table request.agentId request.catalogId
    return (table, record)
  | .heartbeat | .save _ _ | .release => .error .notFound

def applied (execution : ReceptionExecution) (transition : ReceptionTransition) : StoreResult ReceptionExecution :=
  mapError .conflict (execution.apply transition)

-- The progress and its revision after a save; a progress that is stored already is left as it is.
def advance (record : ReceptionRecord) (revision : Int) (progress : ReceptionProgress) : StoreResult ReceptionRecord :=
  if record.progress ≠ progress then do
    ensure .conflict (record.revision = revision)
    ensure .constraint (record.revision + 1 ≤ i64Max)
    return { record with progress, revision := record.revision + 1 }
  else return record

def obey (device : DeviceId) (request : ReceptionRequest) (record : ReceptionRecord) :
    StoreResult (ReceptionRecord × ReceptionExecution) :=
  let owner : ReceptionOwner := ⟨request.instanceId, device, request.runId⟩
  match request.command with
  | .claim sessionKey displayName _ => do
    ensure .conflict (record.sessionKey = sessionKey ∧ record.displayName = displayName)
    let execution ← applied (execution record) (.claim owner)
    return ({ record with instanceId := request.instanceId, deviceId := device, runId := request.runId }, execution)
  | .release => do
    let execution ← applied (execution record) (.release owner)
    return (record, execution)
  | .heartbeat => do
    ensure .conflict ((execution record).owner = some owner ∧ (execution record).mode ≠ .idle)
    return (record, execution record)
  | .save revision progress => do
    ensure .conflict ((execution record).owner = some owner ∧ (execution record).mode ≠ .idle)
    let record' ← advance record revision progress
    return (record', execution record)

def executeLocked (principal : PrincipalId) (device : DeviceId) (request : ReceptionRequest) :
    StoreResult (ReceptionTable × ReceptionRecord) := do
  lockOwnedAgent authority principal request.agentId
  ensure .forbidden (authority.instanceAllowed request.instanceId request.agentId device = true)
  match ← find table request.agentId request.catalogId with
  | none => create authority table device request
  | some record => do
    ensure .conflict (record.roomId = request.roomId)
    let (record, execution) ← obey device request record
    let table := save authority table { record with status := execution.mode, nextDeviceId := execution.nextDevice }
    let record ← findAgain table request.agentId request.catalogId
    return (table, record)

def execute (principal : PrincipalId) (device : DeviceId) (request : ReceptionRequest) :
    StoreResult (ReceptionTable × ReceptionRecord) := do
  ensure .constraint (request.valid = true)
  ensure .forbidden (request.command ≠ .release → authority.maySend {
    principalId := principal
    deviceId := device
    agentId := request.agentId
    agentInstanceId := request.instanceId
    roomCatalogId := request.catalogId
    matrixRoomId := request.roomId } = true)
  executeLocked authority table principal device request

def drain (principal : PrincipalId) (agent : AgentId) (catalog : RoomCatalogId) (nextDevice : Option DeviceId) :
    StoreResult (ReceptionTable × ReceptionRecord) := do
  lockOwnedAgent authority principal agent
  ensure .forbidden (nextDevice.all (fun device => authority.deviceAllowed device principal) = true)
  match ← find table agent catalog with
  | none => .error .notFound
  | some record => do
    let next ← applied (execution record) (.drain nextDevice)
    -- An executor that is gone for good, with its Matrix device, needs no acknowledgement.
    let gone := authority.instanceRevoked record.instanceId && authority.matrixDeviceRevoked record.instanceId
    let table := put table agent catalog { record with
      status := if gone then .idle else next.mode
      nextDeviceId := nextDevice }
    let record ← findAgain table agent catalog
    return (table, record)

end

end AgentRoom.Reception
