import AgentRoom.Handoff.Replay

namespace AgentRoom

open Library

-- One row of context_handoff. An identifier's text is the number it spells, and
-- a JSON column is the array it holds.
structure HandoffRow where
  handoffId : Nat
  requesterAgentId : Nat
  requesterInstanceId : Nat
  sourceRoomId : String
  sourceEventId : String
  sourceMessageId : Nat
  sourceAgentId : Nat
  sourceInstanceId : Nat
  sourceProvenance : String
  targetAgentId : Nat
  targetInstanceId : Nat
  contentId : Nat
  contentDigest : BitVec 256
  contentByteLength : Int
  contentMediaType : String
  permissions : List String
  purpose : String
  riskFlags : List String
  proposedAt : Int
  expiresAt : Int
  status : String
  approvedByPrincipalId : Option Nat
  approvedAt : Option Int
  deliveredAt : Option Int
  consumedAt : Option Int
  resolvedAt : Option Int
  failureCode : Option (List UInt8)
  version : Int

namespace HandoffRow

def millis (time : UtcMillis) : Int := time.value

def writeState (row : HandoffRow) (state : HandoffState) : HandoffRow :=
  { row with
    status := state.status.asStr
    approvedByPrincipalId := state.approvedByPrincipalId.map Id.uuid
    approvedAt := state.approvedAt.map millis
    deliveredAt := state.deliveredAt.map millis
    consumedAt := state.consumedAt.map millis
    resolvedAt := state.resolvedAt.map millis
    failureCode := state.failureCode.map HandoffFailureCode.bytes }

def ofHandoff (detailed : DetailedHandoff) (version : Int) : HandoffRow :=
  let fields := detailed.handoff.fields
  let details := detailed.details
  let state := detailed.handoff.state
  { handoffId := fields.id.uuid
    requesterAgentId := fields.requesterAgentId.uuid
    requesterInstanceId := fields.requesterInstanceId.uuid
    sourceRoomId := details.source.roomId.value
    sourceEventId := details.source.eventId.value
    sourceMessageId := details.source.messageId.uuid
    sourceAgentId := details.source.actor.agentId.uuid
    sourceInstanceId := details.source.actor.instanceId.uuid
    sourceProvenance := details.source.actor.provenance.asStr
    targetAgentId := fields.targetAgentId.uuid
    targetInstanceId := fields.targetInstanceId.uuid
    contentId := fields.contentId.uuid
    contentDigest := details.digest.bytes
    contentByteLength := details.byteLength.value
    contentMediaType := details.mediaType.value
    permissions := details.permissions.members.map HandoffPermission.asStr
    purpose := details.purpose.asStr
    riskFlags := details.riskFlags.members.map MessageRiskFlag.value
    proposedAt := millis fields.proposedAt
    expiresAt := millis fields.expiresAt
    status := state.status.asStr
    approvedByPrincipalId := state.approvedByPrincipalId.map Id.uuid
    approvedAt := state.approvedAt.map millis
    deliveredAt := state.deliveredAt.map millis
    consumedAt := state.consumedAt.map millis
    resolvedAt := state.resolvedAt.map millis
    failureCode := state.failureCode.map HandoffFailureCode.bytes
    version }

-- The checks the table makes on every row, those on one column and the ones
-- that tie the status to the columns beside it.
def checked (row : HandoffRow) : Bool :=
  ["human", "human_confirmed_agent", "autonomous_agent"].contains row.sourceProvenance &&
    decide (1 ≤ row.contentByteLength ∧ row.contentByteLength ≤ 26214400) &&
    !row.permissions.isEmpty &&
    ["inspect", "summarize", "reply_draft"].contains row.purpose &&
    decide (0 ≤ row.proposedAt) && decide (row.proposedAt < row.expiresAt) && decide (0 < row.version) &&
    (row.approvedByPrincipalId.isNone == row.approvedAt.isNone) &&
    match row.status with
    | "proposed" => row.approvedAt.isNone && row.deliveredAt.isNone && row.consumedAt.isNone &&
        row.resolvedAt.isNone && row.failureCode.isNone
    | "approved" => row.approvedAt.isSome && row.deliveredAt.isNone && row.consumedAt.isNone &&
        row.resolvedAt.isNone && row.failureCode.isNone
    | "delivered" => row.approvedAt.isSome && row.deliveredAt.isSome && row.consumedAt.isNone &&
        row.resolvedAt.isNone && row.failureCode.isNone
    | "consumed" => row.approvedAt.isSome && row.deliveredAt.isSome && row.consumedAt.isSome &&
        decide (row.resolvedAt = row.consumedAt) && row.failureCode.isNone
    | "declined" => row.consumedAt.isNone && row.resolvedAt.isSome && row.failureCode.isNone
    | "revoked" => row.approvedAt.isSome && row.consumedAt.isNone && row.resolvedAt.isSome && row.failureCode.isNone
    | "expired" => row.consumedAt.isNone && row.resolvedAt.isSome && row.failureCode.isNone
    | "failed" => row.approvedAt.isSome && row.deliveredAt.isNone && row.consumedAt.isNone &&
        row.resolvedAt.isSome && row.failureCode.isSome
    | _ => false

-- A UUID of version 7 has that number in its thirteenth digit.
def versionSeven (uuid : Nat) : Bool := uuid / 75557863725914323419136 % 16 = 7

def decodeId (kind : IdKind) (column : Nat) : HandoffStoreResult (Id kind) :=
  if versionSeven column then .ok ⟨column⟩ else .error .corrupt

def decodeTime (column : Int) : HandoffStoreResult UtcMillis :=
  if fits : 0 ≤ column ∧ column.toNat ≤ i64Max then .ok ⟨column.toNat, fits.2⟩ else .error .corrupt

def decodeOptional {α β : Type} (decode : α → HandoffStoreResult β) : Option α → HandoffStoreResult (Option β)
  | some column => do return some (← decode column)
  | none => .ok none

def decodeStatus : String → HandoffStoreResult HandoffStatus
  | "proposed" => .ok .proposed
  | "approved" => .ok .approved
  | "delivered" => .ok .delivered
  | "consumed" => .ok .consumed
  | "declined" => .ok .declined
  | "revoked" => .ok .revoked
  | "expired" => .ok .expired
  | "failed" => .ok .failed
  | _ => .error .corrupt

def decodePermissions (columns : List String) : HandoffStoreResult HandoffPermissions := do
  let permissions ← columns.mapM fun column => mapError .corrupt (HandoffPermission.tryFrom column)
  let decoded ← mapError .corrupt (HandoffPermissions.new permissions)
  if decoded.members.length = columns.length then return decoded else throw .corrupt

def decodeRiskFlags (columns : List String) : HandoffStoreResult MessageRiskFlags := do
  let flags ← columns.mapM fun column => mapError .corrupt (MessageRiskFlag.new column)
  let decoded ← mapError .corrupt (MessageRiskFlags.new flags)
  if decoded.members.length = columns.length then return decoded else throw .corrupt

def decodeFields (row : HandoffRow) : HandoffStoreResult (ContextHandoffFields × HandoffDetails) := do
  let byteLength ← if 0 ≤ row.contentByteLength then .ok row.contentByteLength.toNat else .error .corrupt
  let agentId ← decodeId .agent row.sourceAgentId
  let instanceId ← decodeId .agentInstance row.sourceInstanceId
  let provenance ← mapError .corrupt (MessageProvenance.tryFrom row.sourceProvenance)
  let id ← decodeId .handoff row.handoffId
  let requesterAgentId ← decodeId .agent row.requesterAgentId
  let requesterInstanceId ← decodeId .agentInstance row.requesterInstanceId
  let roomId ← mapError .corrupt (MatrixRoomReference.new row.sourceRoomId)
  let eventId ← mapError .corrupt (HandoffSourceEventId.new row.sourceEventId)
  let messageId ← decodeId .message row.sourceMessageId
  let targetAgentId ← decodeId .agent row.targetAgentId
  let targetInstanceId ← decodeId .agentInstance row.targetInstanceId
  let contentId ← decodeId .content row.contentId
  let byteLength ← mapError .corrupt (ContentByteLength.new byteLength)
  let mediaType ← mapError .corrupt (ContentMediaType.new row.contentMediaType)
  let permissions ← decodePermissions row.permissions
  let purpose ← mapError .corrupt (HandoffPurpose.tryFrom row.purpose)
  let riskFlags ← decodeRiskFlags row.riskFlags
  let proposedAt ← decodeTime row.proposedAt
  let expiresAt ← decodeTime row.expiresAt
  return ( { id, requesterAgentId, requesterInstanceId, targetAgentId, targetInstanceId, contentId, proposedAt, expiresAt },
    { source := { roomId, eventId, messageId, actor := { agentId, instanceId, provenance } },
      digest := ⟨row.contentDigest⟩, byteLength, mediaType, permissions, purpose, riskFlags })

def decodeState (row : HandoffRow) : HandoffStoreResult HandoffState := do
  let status ← decodeStatus row.status
  let approvedByPrincipalId ← decodeOptional (decodeId .principal) row.approvedByPrincipalId
  let approvedAt ← decodeOptional decodeTime row.approvedAt
  let deliveredAt ← decodeOptional decodeTime row.deliveredAt
  let consumedAt ← decodeOptional decodeTime row.consumedAt
  let resolvedAt ← decodeOptional decodeTime row.resolvedAt
  let failureCode ← decodeOptional (fun code => mapError .corrupt (HandoffFailureCode.new code)) row.failureCode
  return { status, approvedByPrincipalId, approvedAt, deliveredAt, consumedAt, resolvedAt, failureCode }

end HandoffRow

structure LoadedHandoff where
  detailed : DetailedHandoff
  version : Int

def decodeHandoff (row : HandoffRow) : HandoffStoreResult LoadedHandoff := do
  if row.version ≤ 0 then throw .corrupt
  let state ← row.decodeState
  let (fields, details) ← row.decodeFields
  let handoff ← HandoffReplay.replay fields state
  return ⟨⟨handoff, details⟩, row.version⟩

namespace HandoffRow

def fieldIdentifiers (detailed : DetailedHandoff) : List Nat :=
  let fields := detailed.handoff.fields
  let source := detailed.details.source
  [source.actor.agentId.uuid, source.actor.instanceId.uuid, fields.id.uuid, fields.requesterAgentId.uuid,
    fields.requesterInstanceId.uuid, source.messageId.uuid, fields.targetAgentId.uuid, fields.targetInstanceId.uuid,
    fields.contentId.uuid]

def identifiers (detailed : DetailedHandoff) : List Nat :=
  (detailed.handoff.approvedByPrincipalId.map Id.uuid).toList ++ fieldIdentifiers detailed

def Identified (detailed : DetailedHandoff) : Prop := ∀ uuid ∈ identifiers detailed, versionSeven uuid = true

@[simp] theorem decode_time_millis (time : UtcMillis) : decodeTime (millis time) = .ok time := by
  rw [decodeTime, dif_pos ⟨Int.natCast_nonneg _, time.fits⟩]
  rfl

@[simp] theorem decode_optional_time (time : Option UtcMillis) : decodeOptional decodeTime (time.map millis) = .ok time := by
  cases time with
  | none => rfl
  | some time =>
    rw [Option.map_some, decodeOptional, decode_time_millis]
    rfl

@[simp] theorem decode_id_ok (kind : IdKind) (id decoded : Id kind) :
    decodeId kind id.uuid = .ok decoded ↔ versionSeven id.uuid = true ∧ id = decoded := by
  by_cases seven : versionSeven id.uuid = true <;> simp [decodeId, seven]

@[simp] theorem decode_status_as_str (status : HandoffStatus) : decodeStatus status.asStr = .ok status := by
  cases status <;> rfl

@[simp] theorem decode_permissions_members (permissions : HandoffPermissions) :
    decodePermissions (permissions.members.map HandoffPermission.asStr) = .ok permissions := by
  rw [decodePermissions, map_m_restores fun permission => by rw [HandoffPermission.try_from_as_str]; rfl]
  simp [bind, Except.bind, pure, Except.pure]

@[simp] theorem decode_risk_flags_members (flags : MessageRiskFlags) :
    decodeRiskFlags (flags.members.map MessageRiskFlag.value) = .ok flags := by
  rw [decodeRiskFlags, map_m_restores fun flag => by rw [MessageRiskFlag.new_value]; rfl]
  simp [bind, Except.bind, pure, Except.pure]

@[simp] theorem decode_failure_code (code : Option HandoffFailureCode) :
    decodeOptional (fun code => mapError .corrupt (HandoffFailureCode.new code)) (code.map HandoffFailureCode.bytes) =
      .ok code := by
  cases code with
  | none => rfl
  | some code =>
    simp only [Option.map_some, decodeOptional, HandoffFailureCode.new, dif_pos code.valid]
    rfl

variable (detailed : DetailedHandoff)

theorem decode_fields_ok (version : Int) (decoded : ContextHandoffFields × HandoffDetails) :
    decodeFields (ofHandoff detailed version) = .ok decoded ↔
      (∀ uuid ∈ fieldIdentifiers detailed, versionSeven uuid = true) ∧ (detailed.handoff.fields, detailed.details) = decoded := by
  simp [decodeFields, ofHandoff, fieldIdentifiers, bind_ok, pure, Except.pure]
  simp [and_assoc]

@[simp] theorem decode_principal_ok (principal decoded : Option PrincipalId) :
    decodeOptional (decodeId .principal) (principal.map Id.uuid) = .ok decoded ↔
      (∀ uuid ∈ (principal.map Id.uuid).toList, versionSeven uuid = true) ∧ principal = decoded := by
  cases principal with
  | none => simp [decodeOptional]
  | some principal => simp [decodeOptional, bind_ok, pure, Except.pure]

theorem decode_state_ok (version : Int) (decoded : HandoffState) : decodeState (ofHandoff detailed version) = .ok decoded ↔
      (∀ uuid ∈ (detailed.handoff.approvedByPrincipalId.map Id.uuid).toList, versionSeven uuid = true) ∧
        detailed.handoff.state = decoded := by
  simp [decodeState, ofHandoff, ContextHandoff.state, bind_ok, pure, Except.pure]

-- A row reads back as the very handoff it was written from, or not at all: the
-- decoder turns away exactly the rows that name an identifier of another version.
theorem decode_row (built : detailed.handoff.Built) (version : Int) (positive : 0 < version) (loaded : LoadedHandoff) :
    decodeHandoff (ofHandoff detailed version) = .ok loaded ↔ Identified detailed ∧ loaded = ⟨detailed, version⟩ := by
  have later : ¬ (ofHandoff detailed version).version ≤ 0 := by
    simpa [ofHandoff] using positive
  have replayed := ContextHandoff.replay_built built
  simp only [decodeHandoff, if_neg later, bind_ok, decode_state_ok, decode_fields_ok, Identified, identifiers, List.mem_append]
  constructor
  · rintro ⟨state, ⟨named, stated⟩, ⟨fields, details⟩, ⟨identified, read⟩, handoff, restored, written⟩
    cases stated
    cases read
    rw [replayed] at restored
    cases restored
    cases written
    exact ⟨fun uuid member => member.elim (named uuid) (identified uuid), rfl⟩
  · rintro ⟨identified, rfl⟩
    exact ⟨_, ⟨fun uuid member => identified uuid (.inl member), rfl⟩, _,
      ⟨fun uuid member => identified uuid (.inr member), rfl⟩, _, replayed, rfl⟩

theorem write_state_row (next : ContextHandoff) (version : Int) (kept : next.fields = detailed.handoff.fields) :
    { (ofHandoff detailed version).writeState next.state with version := version + 1 } =
      ofHandoff ⟨next, detailed.details⟩ (version + 1) := by
  simp [ofHandoff, writeState, kept]

theorem details_checked (details : HandoffDetails) :
    ["human", "human_confirmed_agent", "autonomous_agent"].contains details.source.actor.provenance.asStr = true ∧
      ["inspect", "summarize", "reply_draft"].contains details.purpose.asStr = true ∧
      details.permissions.members.isEmpty = false ∧ 1 ≤ details.byteLength.value ∧ details.byteLength.value ≤ 26214400 := by
  refine ⟨?_, ?_, ?_, ?_, details.byteLength.bounded⟩
  · cases details.source.actor.provenance <;> decide
  · cases details.purpose <;> decide
  · exact List.isEmpty_eq_false_iff.mpr details.permissions.nonempty
  · exact Nat.one_le_iff_ne_zero.mpr details.byteLength.positive

theorem built_checked (built : detailed.handoff.Built) (version : Int) (positive : 0 < version) :
    (ofHandoff detailed version).checked = true := by
  obtain ⟨inv, recorded, -⟩ := ContextHandoff.built_replays built
  obtain ⟨provenance, purpose, permissions, nonempty, bounded⟩ := details_checked detailed.details
  have lifetime : (detailed.handoff.fields.proposedAt.value : Int) < detailed.handoff.fields.expiresAt.value :=
    Int.ofNat_lt.mpr inv.lifetime
  have length : (1 : Int) ≤ detailed.details.byteLength.value ∧ (detailed.details.byteLength.value : Int) ≤ 26214400 :=
    ⟨Int.ofNat_le.mpr nonempty, Int.ofNat_le.mpr bounded⟩
  have unexplained (other : detailed.handoff.status ≠ .failed) : detailed.handoff.failureCode.isSome = false :=
    Bool.eq_false_iff.mpr fun some => other (recorded.explained.mp some)
  have unconsumed (other : detailed.handoff.status ≠ .consumed) : detailed.handoff.consumedAt.isSome = false :=
    Bool.eq_false_iff.mpr fun some => other (inv.unconsumed.mp some)
  have resolved := inv.resolved
  simp only [checked, ofHandoff, ContextHandoff.state, provenance, purpose, length, List.isEmpty_map, permissions, millis,
    positive, lifetime, Option.isSome_map, Int.natCast_nonneg, decide_true, Bool.true_and, Bool.not_false,
    and_self, ← Option.not_isSome, inv.approver, BEq.rfl]
  cases status : detailed.handoff.status with
  | proposed =>
    rw [status] at resolved unexplained unconsumed
    simp [HandoffStatus.asStr, HandoffStatus.closed, resolved, unexplained, unconsumed, inv.unapproved status,
      inv.undelivered (.inl status)]
  | approved =>
    rw [status] at resolved unexplained unconsumed
    simp [HandoffStatus.asStr, HandoffStatus.closed, resolved, unexplained, unconsumed,
      recorded.granted (.inl status), inv.undelivered (.inr status)]
  | delivered =>
    rw [status] at resolved unexplained unconsumed
    simp [HandoffStatus.asStr, HandoffStatus.closed, resolved, unexplained, unconsumed, inv.holding status,
      HandoffReplay.delivered_granted inv status]
  | consumed =>
    rw [status] at unexplained
    obtain ⟨consumedAt, consumed⟩ := Option.isSome_iff_exists.mp (inv.unconsumed.mpr status)
    obtain ⟨⟨deliveredAt, delivered, -⟩, -⟩ := inv.consumed consumedAt consumed
    obtain ⟨⟨approvedAt, approved, -⟩, -⟩ := inv.delivered deliveredAt delivered
    simp [HandoffStatus.asStr, unexplained, consumed, delivered, approved, recorded.settled status]
  | declined =>
    rw [status] at resolved unexplained unconsumed
    simp [HandoffStatus.asStr, HandoffStatus.closed, resolved, unexplained, unconsumed]
  | revoked =>
    rw [status] at resolved unexplained unconsumed
    simp [HandoffStatus.asStr, HandoffStatus.closed, resolved, unexplained, unconsumed, recorded.granted (.inr (.inl status))]
  | expired =>
    rw [status] at resolved unexplained unconsumed
    simp [HandoffStatus.asStr, HandoffStatus.closed, resolved, unexplained, unconsumed]
  | failed =>
    rw [status] at resolved unconsumed
    simp [HandoffStatus.asStr, HandoffStatus.closed, resolved, unconsumed, recorded.explained.mpr status,
      recorded.granted (.inr (.inr status)), recorded.unsent status]

end HandoffRow

end AgentRoom
