import AgentRoom.Content.Object
import AgentRoom.Handoff.Context
import AgentRoom.Library.OrderedMap
import Mathlib.Data.String.Basic

namespace AgentRoom

open Library

def maximumMatrixRoomIdBytes : Nat := 512

def maxMatrixEventIdBytes : Nat := 512

def maxRiskFlagLength : Nat := 64

def maxRiskFlags : Nat := 16

def validMatrixRoom (value : String) : Bool :=
  4 ≤ value.utf8ByteSize && value.utf8ByteSize ≤ maximumMatrixRoomIdBytes && value.toList.head? = some '!' &&
    value.toList.tail.contains ':' && !value.toList.any isControlChar

structure MatrixRoomReference where
  value : String
  valid : validMatrixRoom value = true
deriving DecidableEq

def MatrixRoomReference.new (value : String) : DomainResult MatrixRoomReference :=
  if valid : validMatrixRoom value = true then .ok ⟨value, valid⟩
  else .error (.validation "matrix_room_reference" "不是合法的 Matrix 房间标识")

@[simp] theorem MatrixRoomReference.new_value (room : MatrixRoomReference) : new room.value = .ok room := by
  rw [new, dif_pos room.valid]

def validSourceEvent (value : String) : Bool :=
  4 ≤ value.utf8ByteSize && value.utf8ByteSize ≤ maxMatrixEventIdBytes && value.toList.head? = some '$' &&
    !value.toList.any isControlChar

structure HandoffSourceEventId where
  value : String
  valid : validSourceEvent value = true
deriving DecidableEq

def HandoffSourceEventId.new (value : String) : DomainResult HandoffSourceEventId :=
  if valid : validSourceEvent value = true then .ok ⟨value, valid⟩
  else .error (.validation "handoff_source_event_id" "不是合法的 Matrix 事件标识")

@[simp] theorem HandoffSourceEventId.new_value (event : HandoffSourceEventId) : new event.value = .ok event := by
  rw [new, dif_pos event.valid]

inductive MessageProvenance where
  | human
  | humanConfirmedAgent
  | autonomousAgent
deriving DecidableEq

namespace MessageProvenance

def asStr : MessageProvenance → String
  | .human => "human"
  | .humanConfirmedAgent => "human_confirmed_agent"
  | .autonomousAgent => "autonomous_agent"

def tryFrom : String → DomainResult MessageProvenance
  | "human" => .ok .human
  | "human_confirmed_agent" => .ok .humanConfirmedAgent
  | "autonomous_agent" => .ok .autonomousAgent
  | _ => .error (.validation "message_provenance" "不是支持的来源模式")

@[simp] theorem try_from_as_str (provenance : MessageProvenance) : tryFrom provenance.asStr = .ok provenance := by
  cases provenance <;> rfl

end MessageProvenance

inductive HandoffPermission where
  | readText
  | readAttachments
  | includeMetadata
deriving DecidableEq

namespace HandoffPermission

def asStr : HandoffPermission → String
  | .readText => "read_text"
  | .readAttachments => "read_attachments"
  | .includeMetadata => "include_metadata"

def tryFrom : String → DomainResult HandoffPermission
  | "read_text" => .ok .readText
  | "read_attachments" => .ok .readAttachments
  | "include_metadata" => .ok .includeMetadata
  | _ => .error (.validation "handoff_permission" "不是支持的内容范围")

@[simp] theorem try_from_as_str (permission : HandoffPermission) : tryFrom permission.asStr = .ok permission := by
  cases permission <;> rfl

def rank : HandoffPermission → Nat
  | .readText => 0
  | .readAttachments => 1
  | .includeMetadata => 2

end HandoffPermission

structure HandoffPermissions where
  members : List HandoffPermission
  rising : Rising HandoffPermission.rank members
  nonempty : members ≠ []
deriving DecidableEq

def HandoffPermissions.new (permissions : List HandoffPermission) : DomainResult HandoffPermissions :=
  if nonempty : collectMembers HandoffPermission.rank permissions ≠ [] then
    .ok ⟨_, collect_members_rising HandoffPermission.rank permissions, nonempty⟩
  else .error (.validation "handoff_permissions" "至少选择一个内容范围")

@[simp] theorem HandoffPermissions.new_members (permissions : HandoffPermissions) :
    new permissions.members = .ok permissions := by
  have same := collect_members_of_rising HandoffPermission.rank permissions.rising
  rw [new, dif_pos (by rw [same]; exact permissions.nonempty)]
  simp [same]

inductive HandoffPurpose where
  | inspect
  | summarize
  | replyDraft
deriving DecidableEq

namespace HandoffPurpose

def asStr : HandoffPurpose → String
  | .inspect => "inspect"
  | .summarize => "summarize"
  | .replyDraft => "reply_draft"

def tryFrom : String → DomainResult HandoffPurpose
  | "inspect" => .ok .inspect
  | "summarize" => .ok .summarize
  | "reply_draft" => .ok .replyDraft
  | _ => .error (.validation "handoff_purpose" "不是支持的交付用途")

@[simp] theorem try_from_as_str (purpose : HandoffPurpose) : tryFrom purpose.asStr = .ok purpose := by
  cases purpose <;> rfl

end HandoffPurpose

def isLowercaseChar (char : Char) : Bool := 97 ≤ char.toNat && char.toNat ≤ 122

def isDigitChar (char : Char) : Bool := 48 ≤ char.toNat && char.toNat ≤ 57

def validRiskFlag (value : String) : Bool :=
  value.utf8ByteSize ≤ maxRiskFlagLength &&
    match value.toList with
    | [] => false
    | first :: rest => isLowercaseChar first && rest.all fun char => isLowercaseChar char || isDigitChar char || char == '_'

structure MessageRiskFlag where
  value : String
  valid : validRiskFlag value = true
deriving DecidableEq

def MessageRiskFlag.new (value : String) : DomainResult MessageRiskFlag :=
  if valid : validRiskFlag value = true then .ok ⟨value, valid⟩
  else .error (.validation "message_risk_flag" "必须是长度受限的小写蛇形标识")

@[simp] theorem MessageRiskFlag.new_value (flag : MessageRiskFlag) : new flag.value = .ok flag := by
  rw [new, dif_pos flag.valid]

structure MessageRiskFlags where
  members : List MessageRiskFlag
  rising : Rising MessageRiskFlag.value members
  bounded : members.length ≤ maxRiskFlags
deriving DecidableEq

def MessageRiskFlags.new (flags : List MessageRiskFlag) : DomainResult MessageRiskFlags :=
  if bounded : (collectMembers MessageRiskFlag.value flags).length ≤ maxRiskFlags then
    .ok ⟨_, collect_members_rising MessageRiskFlag.value flags, bounded⟩
  else .error (.validation "message_risk_flags" "风险标签不能超过 16 个")

@[simp] theorem MessageRiskFlags.new_members (flags : MessageRiskFlags) : new flags.members = .ok flags := by
  have same := collect_members_of_rising MessageRiskFlag.value flags.rising
  rw [new, dif_pos (by rw [same]; exact flags.bounded)]
  simp [same]

def ContentMediaType.new (value : String) : DomainResult ContentMediaType :=
  if supported : value ∈ supportedMediaTypes then .ok ⟨value, supported⟩
  else .error (.validation "content_media_type" "不在允许的媒体类型白名单中")

@[simp] theorem ContentMediaType.new_value (mediaType : ContentMediaType) : new mediaType.value = .ok mediaType := by
  rw [new, dif_pos mediaType.supported]

def ContentByteLength.new (value : Nat) : DomainResult ContentByteLength :=
  if valid : value ≠ 0 ∧ value ≤ maxContentBytes then .ok ⟨value, valid.1, valid.2⟩
  else .error (.validation "content_byte_length" "必须在 1 字节到 25 MiB 之间")

@[simp] theorem ContentByteLength.new_value (byteLength : ContentByteLength) : new byteLength.value = .ok byteLength := by
  rw [new, dif_pos ⟨byteLength.positive, byteLength.bounded⟩]

structure HandoffSourceActor where
  agentId : AgentId
  instanceId : AgentInstanceId
  provenance : MessageProvenance
deriving DecidableEq

structure HandoffSource where
  roomId : MatrixRoomReference
  eventId : HandoffSourceEventId
  messageId : MessageId
  actor : HandoffSourceActor
deriving DecidableEq

structure HandoffDetails where
  source : HandoffSource
  digest : Sha256Digest
  byteLength : ContentByteLength
  mediaType : ContentMediaType
  permissions : HandoffPermissions
  purpose : HandoffPurpose
  riskFlags : MessageRiskFlags
deriving DecidableEq

structure DetailedHandoff where
  handoff : ContextHandoff
  details : HandoffDetails
deriving DecidableEq

theorem example_room_valid : validMatrixRoom "!room:example" = true := by decide

theorem example_event_valid : validSourceEvent "$event" = true := by decide

theorem one_byte_positive : 1 ≠ 0 := by decide

theorem one_byte_bounded : 1 ≤ maxContentBytes := by decide

theorem plain_text_supported : "text/plain" ∈ supportedMediaTypes := by decide

theorem read_text_rising : Rising HandoffPermission.rank [.readText] := List.pairwise_singleton ..

theorem read_text_nonempty : [HandoffPermission.readText] ≠ [] := by decide

theorem no_flags_rising : Rising MessageRiskFlag.value [] := List.Pairwise.nil

theorem no_flags_bounded : ([] : List MessageRiskFlag).length ≤ maxRiskFlags := by decide

end AgentRoom
