import AgentRoom.Domain.Basics

namespace AgentRoom

inductive RoomCatalogKind where
  | publicLobby
  | privateRoom
  | direct
deriving DecidableEq

namespace Moderation

structure ModerationActionId where
  uuid : Nat
deriving DecidableEq

structure ModerationCaseId where
  uuid : Nat
deriving DecidableEq

inductive ModerationTargetKind where
  | principal
  | agent
  | room
  | event
  | federationPeer
deriving DecidableEq

structure ModerationTarget where
  kind : ModerationTargetKind
  reference : String
deriving DecidableEq

inductive ModerationReason where
  | spam
  | harassment
  | impersonation
  | maliciousContent
  | privacyViolation
  | unsafeAutomation
  | other
deriving DecidableEq

inductive ModerationActionKind where
  | hide
  | mute
  | kick
  | ban
deriving DecidableEq

def ModerationActionKind.targetKind : ModerationActionKind → ModerationTargetKind
  | .hide => .event
  | .mute | .kick | .ban => .principal

inductive ModerationActionStatus where
  | pending
  | applied
  | failed
  | reversed
deriving DecidableEq

structure ModerationAction where
  id : ModerationActionId
  caseId : Option ModerationCaseId
  actorPrincipalId : PrincipalId
  kind : ModerationActionKind
  target : ModerationTarget
  reason : ModerationReason
  startsAt : UtcMillis
  expiresAt : Option UtcMillis
  status : ModerationActionStatus
  failureCode : Option String
  reversedAt : Option UtcMillis
deriving DecidableEq

namespace ModerationAction

def reserve (id : ModerationActionId) (caseId : Option ModerationCaseId) (actorPrincipalId : PrincipalId) (kind : ModerationActionKind)
    (target : ModerationTarget) (reason : ModerationReason) (startsAt : UtcMillis) (expiresAt : Option UtcMillis) :
    DomainResult ModerationAction :=
  if target.kind ≠ kind.targetKind then .error (.validation "moderation_action_target" "治理动作与目标类别不匹配")
  else if expiresAt.any (· ≤ startsAt) then .error (.validation "moderation_action_expires_at" "到期时间必须晚于开始时间")
  else .ok {
    id, caseId, actorPrincipalId, kind, target, reason, startsAt, expiresAt,
    status := .pending, failureCode := none, reversedAt := none }

variable (action : ModerationAction)

def isEffectiveAt (now : UtcMillis) : Bool := action.status == .applied && action.expiresAt.all fun expiresAt => decide (now < expiresAt)

def isDueAt (now : UtcMillis) : Bool := action.status == .applied && action.expiresAt.any fun expiresAt => decide (expiresAt ≤ now)

def markApplied : DomainResult ModerationAction :=
  match action.status with
  | .pending => .ok { action with status := .applied }
  | .applied => .ok action
  | .failed | .reversed => .error (.invariantViolation "moderation_action" "失败或已撤销的动作不能标记为已应用")

def markFailed (failureCode : String) : DomainResult ModerationAction :=
  match action.status with
  | .pending => .ok { action with status := .failed, failureCode := some failureCode }
  | .failed =>
    if action.failureCode = some failureCode then .ok action
    else .error (.invariantViolation "moderation_action" "失败动作不能改写失败原因")
  | .applied | .reversed => .error (.invariantViolation "moderation_action" "已应用或已撤销的动作不能标记为失败")

def reverse (reversedAt : UtcMillis) : DomainResult ModerationAction :=
  match action.status with
  | .applied =>
    if action.startsAt ≤ reversedAt then .ok { action with status := .reversed, reversedAt := some reversedAt }
    else .error (.validation "moderation_action_reversed_at" "撤销时间不能早于动作开始时间")
  | .reversed => .ok action
  | .pending | .failed => .error (.invariantViolation "moderation_action" "只有已应用动作可以撤销")

def expire (expiredAt : UtcMillis) : DomainResult ModerationAction :=
  match action.status with
  | .applied =>
    if action.isDueAt expiredAt then .ok { action with status := .reversed, reversedAt := some expiredAt }
    else .error (.validation "moderation_action_expires_at" "没有期限或者还没到期的动作不能到期解除")
  | .reversed => .ok action
  | .pending | .failed => .error (.invariantViolation "moderation_action" "只有已生效的动作可以到期解除")

-- The columns that a row keeps for good.
structure SameIdentity (first second : ModerationAction) : Prop where
  id : first.id = second.id
  caseId : first.caseId = second.caseId
  actor : first.actorPrincipalId = second.actorPrincipalId
  kind : first.kind = second.kind
  target : first.target = second.target
  reason : first.reason = second.reason
  startsAt : first.startsAt = second.startsAt
  expiresAt : first.expiresAt = second.expiresAt

theorem same_identity_iff : SameIdentity first second ↔
    first.id = second.id ∧ first.caseId = second.caseId ∧ first.actorPrincipalId = second.actorPrincipalId ∧
      first.kind = second.kind ∧ first.target = second.target ∧ first.reason = second.reason ∧
      first.startsAt = second.startsAt ∧ first.expiresAt = second.expiresAt :=
  ⟨fun ⟨id, caseId, actor, kind, target, reason, startsAt, expiresAt⟩ =>
      ⟨id, caseId, actor, kind, target, reason, startsAt, expiresAt⟩,
    fun ⟨id, caseId, actor, kind, target, reason, startsAt, expiresAt⟩ =>
      ⟨id, caseId, actor, kind, target, reason, startsAt, expiresAt⟩⟩

instance (first second : ModerationAction) : Decidable (SameIdentity first second) :=
  decidable_of_iff _ (same_identity_iff).symm

end ModerationAction

-- Uuid::parse_str, which takes upper case and texts without dashes too.
variable (parseUuid : String → Option PrincipalId)

def principalReference (target : ModerationTarget) : Option PrincipalId :=
  if target.kind = .principal then parseUuid target.reference else none

def sameTarget (target : ModerationTarget) (reference : String) : Bool :=
  match principalReference parseUuid target with
  | some person => decide (parseUuid reference = some person)
  | none => decide (target.reference = reference)

def sameConcern (action other : ModerationAction) : Bool :=
  decide (action.kind = other.kind) && decide (action.target.kind = other.target.kind) &&
    sameTarget parseUuid action.target other.target.reference

end Moderation

end AgentRoom
