import AgentRoom.Library.Fallible
import AgentRoom.Library.Json
import AgentRoom.Presence.Lifecycle
import Mathlib.Data.Rat.Defs

namespace AgentRoom

def AgentWorkStatus.asStr : AgentWorkStatus → String
  | .offline => "offline"
  | .idle => "idle"
  | .working => "working"
  | .waitingInput => "waiting_input"
  | .blocked => "blocked"
  | .completed => "completed"

inductive AgentStatusVisibility where
  | coarse
  | detailed
deriving DecidableEq

def AgentStatusVisibility.asStr : AgentStatusVisibility → String
  | .coarse => "coarse"
  | .detailed => "detailed"

def maxTaskSummaryCharacters : Nat := 160

structure AgentTaskSummary where
  value : String
  written : value.toList.all isWhitespaceChar = false
  short : value.toList.length ≤ maxTaskSummaryCharacters
  printable : value.toList.any isControlChar = false

def AgentTaskSummary.new (value : String) : DomainResult AgentTaskSummary :=
  if blank : value.toList.all isWhitespaceChar = true then .error (.validation "agent_task_summary" "不能为空白")
  else if long : maxTaskSummaryCharacters < value.toList.length then
    .error (.validation "agent_task_summary" "不能超过 160 个字符")
  else if control : value.toList.any isControlChar = true then
    .error (.validation "agent_task_summary" "不能包含控制字符")
  else .ok ⟨value, by simpa using blank, Nat.not_lt.mp long, by simpa using control⟩

def progressBasisPoints : Nat := 10000

structure AgentTaskProgress where
  basisPoints : Nat
  fits : basisPoints ≤ progressBasisPoints

def AgentTaskProgress.fraction (progress : AgentTaskProgress) : Rat := progress.basisPoints / progressBasisPoints

structure AgentStatusDetails where
  taskSummary : Option AgentTaskSummary
  startedAt : Option UtcMillis
  progress : Option AgentTaskProgress

structure AgentStatusSnapshot where
  status : AgentWorkStatus
  visibility : AgentStatusVisibility
  details : Option AgentStatusDetails
  coarse : visibility = .coarse → details = none

def AgentStatusSnapshot.new (status : AgentWorkStatus) (visibility : AgentStatusVisibility)
    (details : Option AgentStatusDetails) : DomainResult AgentStatusSnapshot :=
  if fits : visibility = .coarse → details = none then .ok ⟨status, visibility, details, fits⟩
  else .error (.invariantViolation "agent_status_snapshot" "粗粒度状态不得携带任务详情")

structure AgentStatusLease where
  agentInstanceId : AgentInstanceId
  snapshot : AgentStatusSnapshot
  publishedAt : UtcMillis
  expiresAt : UtcMillis

def AgentStatusLease.issue (agentInstanceId : AgentInstanceId) (snapshot : AgentStatusSnapshot) (publishedAt : UtcMillis)
    (lifetime : DurationMillis) : DomainResult AgentStatusLease := do
  let expiresAt ← publishedAt.checkedAdd lifetime
  return { agentInstanceId, snapshot, publishedAt, expiresAt }

namespace Presence

def maxMatrixIdLength : Nat := 512

def validUserId (value : String) : Bool :=
  4 ≤ value.utf8ByteSize && value.utf8ByteSize ≤ maxMatrixIdLength && value.toList.head? = some '@' &&
    ':' ∈ value.toList.tail && !value.toList.any isControlChar

def maxDisplayNameCharacters : Nat := 128

def validDisplayName (value : String) : Bool :=
  !value.toList.all isWhitespaceChar && value.toList.length ≤ maxDisplayNameCharacters && !value.toList.any isControlChar

def maxAvatarUrlLength : Nat := 2048

def validAvatarUrl (value : String) : Bool :=
  value.utf8ByteSize ≤ maxAvatarUrlLength && "https://".toList.isPrefixOf value.toList && !value.toList.any isControlChar

structure BridgeAgentIdentity where
  agentId : AgentId
  displayName : String
  matrixUserId : MatrixUserId
  agentInstanceId : AgentInstanceId
  avatarUrl : Option String
  named : validDisplayName displayName = true
  addressed : validUserId matrixUserId.value = true
  pictured : avatarUrl.all validAvatarUrl = true
deriving DecidableEq

inductive BridgeAgentIdentityError where
  | invalidDisplayName
  | invalidMatrixUserId
  | invalidAvatarUrl

namespace BridgeAgentIdentity

def new (agentId : AgentId) (displayName matrixUserId : String) (agentInstanceId : AgentInstanceId) :
    Except BridgeAgentIdentityError BridgeAgentIdentity :=
  if named : validDisplayName displayName = true then
    if addressed : validUserId matrixUserId = true then
      .ok ⟨agentId, displayName, ⟨matrixUserId⟩, agentInstanceId, none, named, addressed, rfl⟩
    else .error .invalidMatrixUserId
  else .error .invalidDisplayName

def withAvatarUrl (identity : BridgeAgentIdentity) (avatarUrl : String) : Except BridgeAgentIdentityError BridgeAgentIdentity :=
  if pictured : validAvatarUrl avatarUrl = true then
    .ok { identity with avatarUrl := some avatarUrl, pictured := by simpa using pictured }
  else .error .invalidAvatarUrl

end BridgeAgentIdentity

def adaIdentity : BridgeAgentIdentity where
  agentId := ⟨0x019b76daa80070008000000000000001⟩
  displayName := "Ada"
  matrixUserId := ⟨"@ada:example.org"⟩
  agentInstanceId := ⟨0x019b76daa80070008000000000000002⟩
  avatarUrl := none
  named := by decide +kernel
  addressed := by decide +kernel
  pictured := rfl

end Presence

end AgentRoom

namespace AgentRoom.Wire

open Library

inductive Provenance where
  | human
  | humanConfirmedAgent
  | autonomousAgent
deriving DecidableEq

def Provenance.named : String → Option Provenance
  | "human" => some .human
  | "human_confirmed_agent" => some .humanConfirmedAgent
  | "autonomous_agent" => some .autonomousAgent
  | _ => none

inductive AgentLiveness where
  | presence
deriving DecidableEq

def AgentLiveness.named : String → Option AgentLiveness
  | "presence" => some .presence
  | _ => none

inductive AgentStatusVisibility where
  | coarse
  | detailed
deriving DecidableEq

def AgentStatusVisibility.named : String → Option AgentStatusVisibility
  | "coarse" => some .coarse
  | "detailed" => some .detailed
  | _ => none

inductive AgentWorkStatus where
  | offline
  | idle
  | working
  | waitingInput
  | blocked
  | completed

def AgentWorkStatus.named : String → Option AgentWorkStatus
  | "offline" => some .offline
  | "idle" => some .idle
  | "working" => some .working
  | "waiting_input" => some .waitingInput
  | "blocked" => some .blocked
  | "completed" => some .completed
  | _ => none

structure AgentRef where
  agentId : String
  avatarUrl : Option String
  displayName : String
  matrixUserId : String
  extensions : List (String × Json)

def AgentRef.decode (json : Json) : Option AgentRef := do
  let fields ← json.asObject
  let agentId ← required "agentId" Json.asStr fields
  let avatarUrl ← optional "avatarUrl" Json.asStr fields
  let displayName ← required "displayName" Json.asStr fields
  let matrixUserId ← required "matrixUserId" Json.asStr fields
  let extensions := remaining ["agentId", "avatarUrl", "displayName", "matrixUserId"] fields
  some { agentId, avatarUrl, displayName, matrixUserId, extensions }

structure ActorRef where
  agent : AgentRef
  instanceId : String
  provenance : Provenance
  extensions : List (String × Json)

def ActorRef.decode (json : Json) : Option ActorRef := do
  let fields ← json.asObject
  let agent ← required "agent" AgentRef.decode fields
  let instanceId ← required "instanceId" Json.asStr fields
  let provenance ← required "provenance" (Json.asVariant Provenance.named) fields
  let extensions := remaining ["agent", "instanceId", "provenance"] fields
  some { agent, instanceId, provenance, extensions }

structure AgentStatusEvent where
  actor : ActorRef
  correlationId : String
  createdAt : String
  eventType : String
  id : String
  lastPolledAt : Option String
  leaseExpiresAt : String
  liveness : Option AgentLiveness
  progress : Option Rat
  schemaVersion : String
  signature : String
  startedAt : Option String
  status : AgentWorkStatus
  taskSummary : Option String
  visibility : AgentStatusVisibility
  extensions : List (String × Json)

namespace AgentStatusEvent

def known : List String :=
  ["actor", "correlationId", "createdAt", "eventType", "id", "lastPolledAt", "leaseExpiresAt", "liveness", "progress",
    "schemaVersion", "signature", "startedAt", "status", "taskSummary", "visibility"]

def decode (json : Json) : Option AgentStatusEvent := do
  let fields ← json.asObject
  let actor ← required "actor" ActorRef.decode fields
  let correlationId ← required "correlationId" Json.asStr fields
  let createdAt ← required "createdAt" Json.asStr fields
  let eventType ← required "eventType" Json.asStr fields
  let id ← required "id" Json.asStr fields
  let lastPolledAt ← optional "lastPolledAt" Json.asStr fields
  let leaseExpiresAt ← required "leaseExpiresAt" Json.asStr fields
  let liveness ← optional "liveness" (Json.asVariant AgentLiveness.named) fields
  let progress ← optional "progress" Json.asNumber fields
  let schemaVersion ← required "schemaVersion" Json.asStr fields
  let signature ← required "signature" Json.asStr fields
  let startedAt ← optional "startedAt" Json.asStr fields
  let status ← required "status" (Json.asVariant AgentWorkStatus.named) fields
  let taskSummary ← optional "taskSummary" Json.asStr fields
  let visibility ← required "visibility" (Json.asVariant AgentStatusVisibility.named) fields
  let extensions := remaining known fields
  some {
    actor, correlationId, createdAt, eventType, id, lastPolledAt, leaseExpiresAt, liveness, progress, schemaVersion,
    signature, startedAt, status, taskSummary, visibility, extensions }

theorem decode_times (event : AgentStatusEvent) (decoded : decode json = some event) :
    (json.get "createdAt").bind Json.asStr = some event.createdAt ∧
      (json.get "leaseExpiresAt").bind Json.asStr = some event.leaseExpiresAt := by
  simp only [decode, bind_some] at decoded
  obtain ⟨fields, object, _, _, _, _, createdAt, created, _, _, _, _, _, _, leaseExpiresAt, leased, decoded⟩ := decoded
  obtain ⟨_, _, _, _, _, _, _, _, _, _, _, _, _, _, _, _, same⟩ := decoded
  cases same
  simp only [Json.get, object, Option.bind_some]
  exact ⟨created, leased⟩

end AgentStatusEvent

end AgentRoom.Wire
