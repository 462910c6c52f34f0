import AgentRoom.Domain.Basics
import AgentRoom.Library.Method

namespace AgentRoom

def maxFailureCodeBytes : Nat := 128

def isAsciiLowercase (byte : UInt8) : Bool := 97 ≤ byte && byte ≤ 122

def isAsciiDigit (byte : UInt8) : Bool := 48 ≤ byte && byte ≤ 57

def validFailureCode (bytes : List UInt8) : Bool :=
  bytes.length ≤ maxFailureCodeBytes &&
    match bytes with
    | [] => false
    | first :: rest =>
      isAsciiLowercase first && rest.all fun byte => isAsciiLowercase byte || isAsciiDigit byte || byte == 95 || byte == 46

-- A lowercase dotted identifier, kept as its bytes.
structure HandoffFailureCode where
  bytes : List UInt8
  valid : validFailureCode bytes = true
deriving DecidableEq

def HandoffFailureCode.new (value : List UInt8) : DomainResult HandoffFailureCode :=
  if valid : validFailureCode value = true then .ok ⟨value, valid⟩
  else .error (.validation "handoff_failure_code" "必须是长度受限的小写点分标识")

-- The check both handoff machines make on a time inside the authorised period;
-- they differ in the entity and the rule they name.
def activeTimeBetween (entity rule field : String) (earliest expiresAt value : UtcMillis) : DomainResult Unit :=
  if value < earliest then .error (.validation field "不能早于前一阶段")
  else if expiresAt ≤ value then .error (.invariantViolation entity rule)
  else .ok ()

theorem active_time_ok (passed : activeTimeBetween entity rule field earliest expiresAt value = .ok result) :
    earliest ≤ value ∧ value < expiresAt := by
  unfold activeTimeBetween at passed
  by_cases early : value < earliest
  · simp [early] at passed
  · by_cases late : expiresAt ≤ value
    · simp [early, late] at passed
    · exact ⟨(UtcMillis.not_lt_iff value earliest).mp early, (UtcMillis.not_le_iff expiresAt value).mp late⟩

theorem active_time_passes (later : earliest ≤ value) (live : value < expiresAt) :
    activeTimeBetween entity rule field earliest expiresAt value = .ok () := by
  rw [activeTimeBetween, if_neg ((UtcMillis.not_lt_iff ..).mpr later), if_neg ((UtcMillis.not_le_iff ..).mpr live)]

open Library

inductive HandoffStatus where
  | proposed
  | approved
  | delivered
  | consumed
  | declined
  | revoked
  | expired
  | failed
deriving DecidableEq

def HandoffStatus.asStr : HandoffStatus → String
  | .proposed => "proposed"
  | .approved => "approved"
  | .delivered => "delivered"
  | .consumed => "consumed"
  | .declined => "declined"
  | .revoked => "revoked"
  | .expired => "expired"
  | .failed => "failed"

structure ContextHandoffFields where
  id : HandoffId
  requesterAgentId : AgentId
  requesterInstanceId : AgentInstanceId
  targetAgentId : AgentId
  targetInstanceId : AgentInstanceId
  contentId : ContentId
  proposedAt : UtcMillis
  expiresAt : UtcMillis
deriving DecidableEq

structure ContextHandoff where
  fields : ContextHandoffFields
  status : HandoffStatus
  approvedByPrincipalId : Option PrincipalId
  approvedAt : Option UtcMillis
  deliveredAt : Option UtcMillis
  consumedAt : Option UtcMillis
  resolvedAt : Option UtcMillis
  failureCode : Option HandoffFailureCode
deriving DecidableEq

namespace ContextHandoff

def violation (rule : String) : DomainError := .invariantViolation "context_handoff" rule

def propose (fields : ContextHandoffFields) : DomainResult ContextHandoff :=
  if fields.expiresAt ≤ fields.proposedAt then .error (.validation "handoff_expires_at" "必须晚于提案时间")
  else .ok {
    fields
    status := .proposed
    approvedByPrincipalId := none
    approvedAt := none
    deliveredAt := none
    consumedAt := none
    resolvedAt := none
    failureCode := none }

def invalidTransition (handoff : ContextHandoff) (target : HandoffStatus) : DomainError :=
  .invalidTransition "context_handoff" handoff.status.asStr target.asStr

def requireStatus (handoff : ContextHandoff) (expected target : HandoffStatus) : DomainResult Unit :=
  if handoff.status ≠ expected then .error (handoff.invalidTransition target) else .ok ()

def validateActiveTime (handoff : ContextHandoff) (value earliest : UtcMillis) (field : String) : DomainResult Unit :=
  activeTimeBetween "context_handoff" "交付授权已经到期" field earliest handoff.fields.expiresAt value

def latestActiveTime (handoff : ContextHandoff) : UtcMillis :=
  (handoff.deliveredAt.or handoff.approvedAt).getD handoff.fields.proposedAt

abbrev ContextMethod := Method DomainError ContextHandoff Unit

def approve (principalId : PrincipalId) (approvedAt : UtcMillis) : ContextMethod := do
  let handoff ← get
  if handoff.status = .approved then
    if handoff.approvedByPrincipalId = some principalId then return ()
    else throw (.forbidden "以不同主体重复批准上下文交付")
  else
    lift (handoff.requireStatus .proposed .approved)
    lift (handoff.validateActiveTime approvedAt handoff.fields.proposedAt "handoff_approved_at")
    set { handoff with
      status := .approved
      approvedByPrincipalId := some principalId
      approvedAt := some approvedAt }

def markDelivered (deliveredAt : UtcMillis) : ContextMethod := do
  let handoff ← get
  if handoff.status = .delivered then return ()
  else
    lift (handoff.requireStatus .approved .delivered)
    match handoff.approvedAt with
    | none => throw (violation "批准态必须记录批准时间")
    | some approvedAt =>
      lift (handoff.validateActiveTime deliveredAt approvedAt "handoff_delivered_at")
      set { handoff with status := .delivered, deliveredAt := some deliveredAt }

def consume (consumedAt : UtcMillis) : ContextMethod := do
  let handoff ← get
  if handoff.status = .consumed then return ()
  else
    lift (handoff.requireStatus .delivered .consumed)
    match handoff.deliveredAt with
    | none => throw (violation "已交付状态必须记录交付时间")
    | some deliveredAt =>
      lift (handoff.validateActiveTime consumedAt deliveredAt "handoff_consumed_at")
      set { handoff with status := .consumed, consumedAt := some consumedAt, resolvedAt := some consumedAt }

def decline (declinedAt : UtcMillis) : ContextMethod := do
  let handoff ← get
  if handoff.status = .declined then return ()
  else if ¬ (handoff.status = .proposed ∨ handoff.status = .approved ∨ handoff.status = .delivered) then
    throw (handoff.invalidTransition .declined)
  else
    lift (handoff.validateActiveTime declinedAt handoff.latestActiveTime "handoff_declined_at")
    set { handoff with status := .declined, resolvedAt := some declinedAt }

def revoke (revokedAt : UtcMillis) : ContextMethod := do
  let handoff ← get
  if handoff.status = .revoked then return ()
  else if ¬ (handoff.status = .approved ∨ handoff.status = .delivered) then
    throw (handoff.invalidTransition .revoked)
  else
    lift (handoff.validateActiveTime revokedAt handoff.latestActiveTime "handoff_revoked_at")
    set { handoff with status := .revoked, resolvedAt := some revokedAt }

def expire (observedAt : UtcMillis) : ContextMethod := do
  let handoff ← get
  if handoff.status = .expired then return ()
  else if ¬ (handoff.status = .proposed ∨ handoff.status = .approved ∨ handoff.status = .delivered) then
    throw (handoff.invalidTransition .expired)
  else if observedAt < handoff.fields.expiresAt then throw (violation "尚未到达交付授权期限")
  else set { handoff with status := .expired, resolvedAt := some observedAt }

def fail (failureCode : HandoffFailureCode) (failedAt : UtcMillis) : ContextMethod := do
  let handoff ← get
  if handoff.status = .failed then
    if handoff.failureCode = some failureCode then return ()
    else throw (violation "失败终态不能改写失败原因")
  else
    lift (handoff.requireStatus .approved .failed)
    match handoff.approvedAt with
    | none => throw (violation "批准态必须记录批准时间")
    | some approvedAt =>
      lift (handoff.validateActiveTime failedAt approvedAt "handoff_failed_at")
      set { handoff with status := .failed, failureCode := some failureCode, resolvedAt := some failedAt }

end ContextHandoff

inductive ContextOp where
  | approve (principalId : PrincipalId) (approvedAt : UtcMillis)
  | markDelivered (deliveredAt : UtcMillis)
  | consume (consumedAt : UtcMillis)
  | decline (declinedAt : UtcMillis)
  | revoke (revokedAt : UtcMillis)
  | expire (observedAt : UtcMillis)
  | fail (failureCode : HandoffFailureCode) (failedAt : UtcMillis)

def ContextOp.perform : ContextOp → ContextHandoff.ContextMethod
  | .approve principalId approvedAt => ContextHandoff.approve principalId approvedAt
  | .markDelivered deliveredAt => ContextHandoff.markDelivered deliveredAt
  | .consume consumedAt => ContextHandoff.consume consumedAt
  | .decline declinedAt => ContextHandoff.decline declinedAt
  | .revoke revokedAt => ContextHandoff.revoke revokedAt
  | .expire observedAt => ContextHandoff.expire observedAt
  | .fail failureCode failedAt => ContextHandoff.fail failureCode failedAt

end AgentRoom
