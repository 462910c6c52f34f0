import AgentRoom.Domain.Basics
import AgentRoom.Library.Fallible
import AgentRoom.Library.OrderedMap

namespace AgentRoom.Automation

open Library

def automationMaxMessagesPerMinute : Nat := 60
def automationMaxTotalMessages : Nat := 10000
def automationMaxLifetimeMillis : Nat := 30 * 24 * 60 * 60 * 1000

inductive AutomationMessageKind where
  | roomMessage
  | reply
deriving DecidableEq

def AutomationMessageKind.rank : AutomationMessageKind → Nat
  | .roomMessage => 0
  | .reply => 1

structure AutomationMessageKinds where
  members : List AutomationMessageKind
  rising : Rising AutomationMessageKind.rank members
  nonempty : members ≠ []
deriving DecidableEq

inductive AutomationAudience where
  | knownRoomMembers
  | anyRoomMember
deriving DecidableEq

def AutomationAudience.allowsUnknownRecipients : AutomationAudience → Bool
  | .anyRoomMember => true
  | .knownRoomMembers => false

inductive AutomationRiskScanOutcome where
  | passed
  | rejected
  | unavailable
  | notRequested
deriving DecidableEq

inductive AutomationGrantStatus where
  | active
  | revoked
  | exhausted
  | expired
deriving DecidableEq

structure AutomationGrantScope where
  agentId : AgentId
  agentInstanceId : Option AgentInstanceId
  roomCatalogId : RoomCatalogId
  messageKinds : AutomationMessageKinds
  audience : AutomationAudience
  requiresRiskScan : Bool
  scanned : audience.allowsUnknownRecipients = true → requiresRiskScan = true
deriving DecidableEq

structure AutomationGrantLimits where
  maxMessagesPerMinute : Nat
  maxTotalMessages : Option Nat
  startsAt : UtcMillis
  expiresAt : UtcMillis
  frequency : 1 ≤ maxMessagesPerMinute ∧ maxMessagesPerMinute ≤ automationMaxMessagesPerMinute
  total : ∀ maximum ∈ maxTotalMessages, 1 ≤ maximum ∧ maximum ≤ automationMaxTotalMessages
  lifetime : startsAt.value + 1 ≤ expiresAt.value ∧ expiresAt.value ≤ startsAt.value + automationMaxLifetimeMillis
deriving DecidableEq

structure AutomationGrant where
  id : AutomationGrantId
  grantorId : PrincipalId
  scope : AutomationGrantScope
  limits : AutomationGrantLimits
  state : AutomationGrantStatus
  createdAt : UtcMillis
  revokedAt : Option UtcMillis
  version : AggregateVersion

structure AutomationGrantAttempt where
  agentId : AgentId
  agentInstanceId : Option AgentInstanceId
  roomCatalogId : RoomCatalogId
  messageKind : AutomationMessageKind
  containsUnknownRecipients : Bool
  endToEndEncrypted : Bool
  riskScan : AutomationRiskScanOutcome
  now : UtcMillis

structure AutomationUsageSnapshot where
  totalMessages : Nat
  messagesInCurrentMinute : Nat

inductive AutomationGrantDenial where
  | notStarted
  | revoked
  | expired
  | agentMismatch
  | instanceMismatch
  | roomMismatch
  | messageKindNotAllowed
  | unknownRecipientNotAllowed
  | rateLimitExceeded
  | totalLimitExceeded
  | riskScanRequired
  | riskScanRejected
deriving DecidableEq

def AutomationGrantDenial.asStr : AutomationGrantDenial → String
  | .notStarted => "automation.grant_not_started"
  | .revoked => "automation.grant_revoked"
  | .expired => "automation.grant_expired"
  | .agentMismatch => "automation.agent_mismatch"
  | .instanceMismatch => "automation.instance_mismatch"
  | .roomMismatch => "automation.room_mismatch"
  | .messageKindNotAllowed => "automation.message_kind_not_allowed"
  | .unknownRecipientNotAllowed => "automation.unknown_recipient_not_allowed"
  | .rateLimitExceeded => "automation.rate_limit_exceeded"
  | .totalLimitExceeded => "automation.total_limit_exceeded"
  | .riskScanRequired => "automation.risk_scan_required"
  | .riskScanRejected => "automation.risk_scan_rejected"

inductive AutomationGrantDecision where
  | allowed
  | denied (reason : AutomationGrantDenial)

namespace AutomationGrant

variable (grant : AutomationGrant)

-- Issuing and restoring a grant make the same check of its times.
def timely : DomainResult Unit :=
  ensure (.validation "automation_grant_created_at" "创建时间不能晚于生效时间") (grant.createdAt ≤ grant.limits.startsAt)

def revocationIsValid : Bool :=
  match grant.state with
  | .revoked => grant.revokedAt.any fun at' => grant.createdAt ≤ at' && decide (at' < grant.limits.expiresAt)
  | .active | .exhausted | .expired => grant.revokedAt.isNone

def restore : DomainResult AutomationGrant := do
  grant.timely
  ensure (.invariantViolation "automation_grant" "撤销时间必须且只能出现在已撤销状态") (grant.revocationIsValid = true)
  return grant

def revoke (revokedAt : UtcMillis) : DomainResult AutomationGrant :=
  if grant.state = .revoked then .ok grant
  else do
    ensure (.validation "automation_grant_revoked_at" "撤销时间必须位于授权生命周期内")
      (grant.createdAt ≤ revokedAt ∧ revokedAt < grant.limits.expiresAt)
    let version ← grant.version.next
    return { grant with state := .revoked, revokedAt := some revokedAt, version }

def denyIf (condition : Prop) [Decidable condition] (reason : AutomationGrantDenial) : Option AutomationGrantDenial :=
  if condition then some reason else none

def stateDenial (usage : Option AutomationUsageSnapshot) : Option AutomationGrantDenial :=
  match grant.state with
  | .revoked => some .revoked
  | .exhausted => usage.map fun _ => .totalLimitExceeded
  | .expired => some .expired
  | .active => none

variable (attempt : AutomationGrantAttempt)

def riskDenial : Option AutomationGrantDenial :=
  match attempt.riskScan with
  | .rejected => some .riskScanRejected
  | .notRequested =>
    if attempt.endToEndEncrypted then none else denyIf (grant.scope.requiresRiskScan = true) .riskScanRequired
  | .unavailable => denyIf (grant.scope.requiresRiskScan = true) .riskScanRequired
  | .passed => none

def evaluateInternal (usage : Option AutomationUsageSnapshot) : AutomationGrantDecision :=
  let denial := grant.stateDenial usage
    <|> denyIf (attempt.now < grant.limits.startsAt) .notStarted
    <|> denyIf (grant.limits.expiresAt ≤ attempt.now) .expired
    <|> denyIf (attempt.agentId ≠ grant.scope.agentId) .agentMismatch
    <|> denyIf (grant.scope.agentInstanceId.any (fun expected => some expected ≠ attempt.agentInstanceId) = true)
      .instanceMismatch
    <|> denyIf (attempt.roomCatalogId ≠ grant.scope.roomCatalogId) .roomMismatch
    <|> denyIf (attempt.messageKind ∉ grant.scope.messageKinds.members) .messageKindNotAllowed
    <|> denyIf (attempt.containsUnknownRecipients = true ∧ grant.scope.audience.allowsUnknownRecipients = false)
      .unknownRecipientNotAllowed
    <|> denyIf (grant.limits.maxTotalMessages.any (fun maximum => usage.any fun used => maximum ≤ used.totalMessages) = true)
      .totalLimitExceeded
    <|> denyIf (usage.any (fun used => grant.limits.maxMessagesPerMinute ≤ used.messagesInCurrentMinute) = true)
      .rateLimitExceeded
    <|> grant.riskDenial attempt
  match denial with
  | none => .allowed
  | some reason => .denied reason

def evaluate (usage : AutomationUsageSnapshot) : AutomationGrantDecision := grant.evaluateInternal attempt (some usage)

-- An answer that was given before is not counted again.
def evaluatePolicy : AutomationGrantDecision :=
  grant.evaluateInternal attempt none

theorem deny_if_none (condition : Prop) [Decidable condition] (reason : AutomationGrantDenial) :
    denyIf condition reason = none ↔ ¬ condition := by
  by_cases holds : condition <;> simp [denyIf, holds]

theorem no_denial (first : Option AutomationGrantDenial) (rest : Unit → Option AutomationGrantDenial) :
    first.orElse rest = none ↔ first = none ∧ rest () = none := by
  cases first <;> simp

theorem state_denial_none (usage : AutomationUsageSnapshot) :
    grant.stateDenial (some usage) = none ↔ grant.stateDenial none = none ∧ grant.state ≠ .exhausted := by
  unfold stateDenial
  cases grant.state <;> simp

theorem policy_state_denial : grant.stateDenial none = none ↔ grant.state ≠ .revoked ∧ grant.state ≠ .expired := by
  unfold stateDenial
  cases grant.state <;> simp

theorem internal_allowed (usage : Option AutomationUsageSnapshot) : grant.evaluateInternal attempt usage = .allowed ↔
      (grant.stateDenial usage = none ∧ grant.limits.startsAt ≤ attempt.now ∧ attempt.now < grant.limits.expiresAt) ∧
      (attempt.agentId = grant.scope.agentId ∧
        ¬ grant.scope.agentInstanceId.any (fun expected => some expected ≠ attempt.agentInstanceId) = true ∧
        attempt.roomCatalogId = grant.scope.roomCatalogId ∧ attempt.messageKind ∈ grant.scope.messageKinds.members ∧
        ¬ (attempt.containsUnknownRecipients = true ∧ grant.scope.audience.allowsUnknownRecipients = false) ∧
        grant.riskDenial attempt = none) ∧
      (∀ used ∈ usage, (∀ maximum ∈ grant.limits.maxTotalMessages, used.totalMessages < maximum) ∧
        used.messagesInCurrentMinute < grant.limits.maxMessagesPerMinute) := by
  have decided (denial : Option AutomationGrantDenial) : (match denial with
      | none => AutomationGrantDecision.allowed
      | some reason => .denied reason) = .allowed ↔ denial = none := by
    cases denial <;> simp
  simp only [evaluateInternal, decided, Option.orElse_eq_orElse, no_denial, deny_if_none, not_not,
    UtcMillis.not_lt_iff, UtcMillis.not_le_iff]
  constructor
  · rintro ⟨state, started, unexpired, agent, device, room, kind, unknown, total, minute, risk⟩
    refine ⟨⟨state, started, unexpired⟩, ⟨agent, device, room, kind, unknown, risk⟩, ?_⟩
    rintro used ⟨⟩
    refine ⟨fun maximum limit => ?_, by simpa using minute⟩
    simpa [Option.mem_def.mp limit] using total
  · rintro ⟨⟨state, started, unexpired⟩, ⟨agent, device, room, kind, unknown, risk⟩, within⟩
    refine ⟨state, started, unexpired, agent, device, room, kind, unknown, ?_, ?_, risk⟩
    · cases usage with
      | none => simp
      | some used =>
        intro reached
        obtain ⟨maximum, limit, reached⟩ := (Option.any_eq_true ..).mp reached
        exact absurd ((within used rfl).1 maximum limit) (Nat.not_lt.mpr (by simpa using reached))
    · cases usage with
      | none => simp
      | some used => simpa using (within used rfl).2

theorem evaluate_allowed (usage : AutomationUsageSnapshot) (allowed : grant.evaluate attempt usage = .allowed) :
    grant.state = .active ∧ grant.limits.startsAt ≤ attempt.now ∧ attempt.now < grant.limits.expiresAt ∧
      (∀ maximum, grant.limits.maxTotalMessages = some maximum → usage.totalMessages < maximum) ∧
      usage.messagesInCurrentMinute < grant.limits.maxMessagesPerMinute := by
  obtain ⟨⟨unstopped, started, unexpired⟩, _, within⟩ := (internal_allowed ..).mp allowed
  refine ⟨?_, started, unexpired, within usage rfl⟩
  unfold stateDenial at unstopped
  cases state : grant.state <;> simp_all

-- A message that is already counted passes the policy alone; a new one passes both.
theorem evaluations_agree :
    (∀ usage, grant.evaluate attempt usage = .allowed ↔ grant.evaluatePolicy attempt = .allowed ∧ grant.state ≠ .exhausted ∧
      (∀ maximum ∈ grant.limits.maxTotalMessages, usage.totalMessages < maximum) ∧
      usage.messagesInCurrentMinute < grant.limits.maxMessagesPerMinute) ∧
    (∀ usage smaller, grant.evaluate attempt usage = .allowed → smaller.totalMessages ≤ usage.totalMessages →
      smaller.messagesInCurrentMinute ≤ usage.messagesInCurrentMinute → grant.evaluate attempt smaller = .allowed) ∧
    (grant.state = .revoked ∨ grant.state = .expired ∨ grant.limits.expiresAt ≤ attempt.now →
      grant.evaluatePolicy attempt ≠ .allowed ∧ ∀ usage, grant.evaluate attempt usage ≠ .allowed) := by
  have agree (usage : AutomationUsageSnapshot) : grant.evaluate attempt usage = .allowed ↔
      grant.evaluatePolicy attempt = .allowed ∧ grant.state ≠ .exhausted ∧
      (∀ maximum ∈ grant.limits.maxTotalMessages, usage.totalMessages < maximum) ∧
      usage.messagesInCurrentMinute < grant.limits.maxMessagesPerMinute := by
    simp only [evaluate, evaluatePolicy, internal_allowed, state_denial_none, Option.mem_def, Option.some.injEq,
      reduceCtorEq, false_implies, implies_true, forall_eq', and_true]
    tauto
  refine ⟨agree, ?_, ?_⟩
  · intro usage smaller allowed total minute
    obtain ⟨policy, left, below, slow⟩ := (agree usage).mp allowed
    exact (agree smaller).mpr ⟨policy, left,
      fun maximum limit => Nat.lt_of_le_of_lt total (below maximum limit), Nat.lt_of_le_of_lt minute slow⟩
  · intro stopped
    have refused : grant.evaluatePolicy attempt ≠ .allowed := by
      intro allowed
      obtain ⟨⟨unstopped, _, unexpired⟩, _⟩ := (internal_allowed ..).mp allowed
      have running := (policy_state_denial grant).mp unstopped
      rcases stopped with revoked | expired | late
      · exact running.1 revoked
      · exact running.2 expired
      · exact (UtcMillis.not_le_iff _ _).mpr unexpired late
    exact ⟨refused, fun usage allowed => refused ((agree usage).mp allowed).1⟩

end AutomationGrant

end AgentRoom.Automation
