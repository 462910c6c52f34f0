import AgentRoom.Handoff.Context

namespace AgentRoom

open Library

inductive TargetedHandoffStatus where
  | queued
  | delivered
  | consumed
  | declined
  | revoked
  | expired
  | failed
deriving DecidableEq

namespace TargetedHandoffStatus

def asStr : TargetedHandoffStatus → String
  | .queued => "queued"
  | .delivered => "delivered"
  | .consumed => "consumed"
  | .declined => "declined"
  | .revoked => "revoked"
  | .expired => "expired"
  | .failed => "failed"

def isTerminal : TargetedHandoffStatus → Bool
  | .consumed | .declined | .revoked | .expired | .failed => true
  | .queued | .delivered => false

end TargetedHandoffStatus

structure TargetedHandoffFields where
  id : HandoffId
  principalId : PrincipalId
  sourceMessageId : MessageId
  targetAgentId : AgentId
  targetInstanceId : AgentInstanceId
  contentId : ContentId
  createdAt : UtcMillis
  expiresAt : UtcMillis
deriving DecidableEq

structure TargetedHandoff where
  fields : TargetedHandoffFields
  status : TargetedHandoffStatus
  queuedAt : UtcMillis
  deliveredAt : Option UtcMillis
  consumedAt : Option UtcMillis
  resolvedAt : Option UtcMillis
  failureCode : Option HandoffFailureCode
  version : Nat
deriving DecidableEq

namespace TargetedHandoff

def violation (rule : String) : DomainError := .invariantViolation "targeted_handoff" rule

variable (fields : TargetedHandoffFields)

def validateTargetedLifetime : DomainResult Unit :=
  if fields.expiresAt ≤ fields.createdAt then .error (.validation "handoff_expires_at" "必须晚于创建时间")
  else .ok ()

def activeResolutionIsValid (queuedAt : UtcMillis) (deliveredAt resolvedAt : Option UtcMillis) : Bool :=
  resolvedAt.any fun value => deliveredAt.getD queuedAt ≤ value && value < fields.expiresAt

def shapeIsValid (status : TargetedHandoffStatus) (queuedAt : UtcMillis)
    (deliveredAt consumedAt resolvedAt : Option UtcMillis) (failureCode : Option HandoffFailureCode) : Bool :=
  match status with
  | .queued => deliveredAt.isNone && consumedAt.isNone && resolvedAt.isNone && failureCode.isNone
  | .delivered => deliveredAt.isSome && consumedAt.isNone && resolvedAt.isNone && failureCode.isNone
  | .consumed => deliveredAt.isSome && consumedAt.isSome && resolvedAt == consumedAt && failureCode.isNone
  | .declined | .failed =>
    consumedAt.isNone && activeResolutionIsValid fields queuedAt deliveredAt resolvedAt && failureCode.isSome
  | .revoked =>
    consumedAt.isNone && activeResolutionIsValid fields queuedAt deliveredAt resolvedAt && failureCode.isNone
  | .expired =>
    consumedAt.isNone && (resolvedAt.any fun value => fields.expiresAt ≤ value) && failureCode.isNone

def stagesAreInvalid (queuedAt : UtcMillis) (deliveredAt consumedAt : Option UtcMillis) : Bool :=
  (deliveredAt.any fun value => value < queuedAt || fields.expiresAt ≤ value) ||
    consumedAt.any fun value =>
      (deliveredAt.all fun delivered => value < delivered) || fields.expiresAt ≤ value

def validateTargetedTimeline (status : TargetedHandoffStatus) (queuedAt : UtcMillis)
    (deliveredAt consumedAt resolvedAt : Option UtcMillis) (failureCode : Option HandoffFailureCode) : DomainResult Unit :=
  if stagesAreInvalid fields queuedAt deliveredAt consumedAt then .error (violation "交接阶段时间线无效")
  else if ¬ shapeIsValid fields status queuedAt deliveredAt consumedAt resolvedAt failureCode then
    .error (violation "状态与审计字段不一致")
  else .ok ()

def queue : DomainResult TargetedHandoff := do
  validateTargetedLifetime fields
  return {
    fields
    status := .queued
    queuedAt := fields.createdAt
    deliveredAt := none
    consumedAt := none
    resolvedAt := none
    failureCode := none
    version := 0 }

def restore (status : TargetedHandoffStatus) (queuedAt : UtcMillis)
    (deliveredAt consumedAt resolvedAt : Option UtcMillis) (failureCode : Option HandoffFailureCode)
    (version : Nat) : DomainResult TargetedHandoff := do
  validateTargetedLifetime fields
  if queuedAt < fields.createdAt ∨ fields.expiresAt ≤ queuedAt then
    throw (violation "排队时间必须位于有效授权期内")
  validateTargetedTimeline fields status queuedAt deliveredAt consumedAt resolvedAt failureCode
  return { fields, status, queuedAt, deliveredAt, consumedAt, resolvedAt, failureCode, version }

def invalidTargetedTransition (handoff : TargetedHandoff) (target : TargetedHandoffStatus) : DomainError :=
  .invalidTransition "targeted_handoff" handoff.status.asStr target.asStr

def requireTargetedStatus (handoff : TargetedHandoff) (expected target : TargetedHandoffStatus) : DomainResult Unit :=
  if handoff.status ≠ expected then .error (handoff.invalidTargetedTransition target) else .ok ()

def validateTargetedActiveTime (handoff : TargetedHandoff) (value earliest : UtcMillis) (field : String) : DomainResult Unit :=
  activeTimeBetween "targeted_handoff" "交接授权已经到期" field earliest handoff.fields.expiresAt value

def latestTargetedActiveTime (handoff : TargetedHandoff) : UtcMillis := handoff.deliveredAt.getD handoff.queuedAt

def bumpVersion (version : Nat) : Nat := min (version + 1) u64Max

abbrev TargetedMethod := Method DomainError TargetedHandoff Unit

def markDelivered (deliveredAt : UtcMillis) : TargetedMethod := do
  let handoff ← get
  if handoff.status = .delivered then return ()
  else
    lift (handoff.requireTargetedStatus .queued .delivered)
    lift (handoff.validateTargetedActiveTime deliveredAt handoff.queuedAt "handoff_delivered_at")
    set { handoff with status := .delivered, deliveredAt := some deliveredAt, version := bumpVersion handoff.version }

def consume (consumedAt : UtcMillis) : TargetedMethod := do
  let handoff ← get
  if handoff.status = .consumed then return ()
  else
    lift (handoff.requireTargetedStatus .delivered .consumed)
    match handoff.deliveredAt with
    | none => throw (violation "已交付状态必须记录交付时间")
    | some deliveredAt =>
      lift (handoff.validateTargetedActiveTime consumedAt deliveredAt "handoff_consumed_at")
      set { handoff with
        status := .consumed
        consumedAt := some consumedAt
        resolvedAt := some consumedAt
        version := bumpVersion handoff.version }

def resolveActive (status : TargetedHandoffStatus) (failureCode : HandoffFailureCode) (resolvedAt : UtcMillis) :
    TargetedMethod := do
  let handoff ← get
  if handoff.status = status then
    if handoff.failureCode = some failureCode then return ()
    else throw (violation "终态不能改写失败原因")
  else if ¬ (handoff.status = .queued ∨ handoff.status = .delivered) then
    throw (handoff.invalidTargetedTransition status)
  else
    lift (handoff.validateTargetedActiveTime resolvedAt handoff.latestTargetedActiveTime "handoff_resolved_at")
    set { handoff with
      status
      failureCode := some failureCode
      resolvedAt := some resolvedAt
      version := bumpVersion handoff.version }

def decline (failureCode : HandoffFailureCode) (declinedAt : UtcMillis) : TargetedMethod :=
  resolveActive .declined failureCode declinedAt

def revoke (revokedAt : UtcMillis) : TargetedMethod := do
  let handoff ← get
  if handoff.status = .revoked then return ()
  else if ¬ (handoff.status = .queued ∨ handoff.status = .delivered) then
    throw (handoff.invalidTargetedTransition .revoked)
  else
    lift (handoff.validateTargetedActiveTime revokedAt handoff.latestTargetedActiveTime "handoff_revoked_at")
    set { handoff with status := .revoked, resolvedAt := some revokedAt, version := bumpVersion handoff.version }

def expire (observedAt : UtcMillis) : TargetedMethod := do
  let handoff ← get
  if handoff.status = .expired then return ()
  else if ¬ (handoff.status = .queued ∨ handoff.status = .delivered) then
    throw (handoff.invalidTargetedTransition .expired)
  else if observedAt < handoff.fields.expiresAt then throw (violation "尚未到达交接授权期限")
  else
    set { handoff with status := .expired, resolvedAt := some observedAt, version := bumpVersion handoff.version }

def fail (failureCode : HandoffFailureCode) (failedAt : UtcMillis) : TargetedMethod :=
  resolveActive .failed failureCode failedAt

end TargetedHandoff

inductive TargetedOp where
  | markDelivered (deliveredAt : UtcMillis)
  | consume (consumedAt : UtcMillis)
  | decline (failureCode : HandoffFailureCode) (declinedAt : UtcMillis)
  | revoke (revokedAt : UtcMillis)
  | expire (observedAt : UtcMillis)
  | fail (failureCode : HandoffFailureCode) (failedAt : UtcMillis)

def TargetedOp.perform : TargetedOp → TargetedHandoff.TargetedMethod
  | .markDelivered deliveredAt => TargetedHandoff.markDelivered deliveredAt
  | .consume consumedAt => TargetedHandoff.consume consumedAt
  | .decline failureCode declinedAt => TargetedHandoff.decline failureCode declinedAt
  | .revoke revokedAt => TargetedHandoff.revoke revokedAt
  | .expire observedAt => TargetedHandoff.expire observedAt
  | .fail failureCode failedAt => TargetedHandoff.fail failureCode failedAt

end AgentRoom
