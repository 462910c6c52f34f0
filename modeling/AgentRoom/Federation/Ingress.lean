import AgentRoom.Domain.Basics
import AgentRoom.Library.Method

namespace AgentRoom.Federation

structure FederationRuleId where
  uuid : Nat
deriving DecidableEq

def maxServerNameLength : Nat := 255

def validateReference (field value : String) (maximum : Nat) : DomainResult Unit :=
  if value.isEmpty || maximum < value.utf8ByteSize || value.toList.any isControlChar then
    .error (.validation field "为空、包含控制字符或超过长度上限")
  else .ok ()

def validateServerName (value : String) : DomainResult Unit := do
  validateReference "federation_server_name" value maxServerNameLength
  if value.toList.head?.any (· ∈ ['@', '!', '#']) || '/' ∈ value.toList || value.toList.any isWhitespaceChar then
    throw (.validation "federation_server_name" "不是可接受的 Matrix 服务名")

structure FederationServerName where
  value : String
  valid : validateServerName value = .ok ()
deriving DecidableEq

def FederationServerName.new (value : String) : DomainResult FederationServerName :=
  match valid : validateServerName (value.map Char.toLower) with
  | .ok _ => .ok ⟨value.map Char.toLower, valid⟩
  | .error failure => .error failure

inductive FederationScope where
  | server (peer : FederationServerName)
  | room (peer : FederationServerName) (roomId : String)
  | user (peer : FederationServerName) (userId : String)

def FederationScope.matches : FederationScope → FederationServerName → String → String → Bool
  | .server expected, peer, _, _ => expected = peer
  | .room expected expectedRoom, peer, roomId, _ => expected = peer && expectedRoom = roomId
  | .user expected expectedUser, peer, _, userId => expected = peer && expectedUser = userId

inductive FederationDisposition where
  | allow
  | throttle
  | quarantine
  | block
deriving DecidableEq

namespace FederationDisposition

def rank : FederationDisposition → Nat
  | .allow => 0
  | .throttle => 1
  | .quarantine => 2
  | .block => 3

instance : Max FederationDisposition := ⟨fun first second => if first.rank ≤ second.rank then second else first⟩

end FederationDisposition

structure FederationRule where
  id : FederationRuleId
  scope : FederationScope
  disposition : FederationDisposition
  expiresAt : Option UtcMillis
  revocation : Option UtcMillis

def FederationRule.isActiveAt (rule : FederationRule) (now : UtcMillis) : Bool :=
  rule.revocation.isNone && rule.expiresAt.all (now < ·)

structure FederationGovernanceDecision where
  disposition : FederationDisposition
  matchingRuleIds : List FederationRuleId

structure FederationPolicySet where
  rules : List FederationRule

def FederationPolicySet.evaluate (policies : FederationPolicySet) (peer : FederationServerName)
    (roomId userId : String) (now : UtcMillis) : FederationGovernanceDecision :=
  let active := policies.rules.filter fun rule => rule.isActiveAt now && rule.scope.matches peer roomId userId
  let matching := active.mergeSort fun first second => first.id.uuid ≤ second.id.uuid
  { disposition := (matching.map (·.disposition)).max?.getD .allow
    matchingRuleIds := matching.map (·.id) }

inductive ReputationTier where
  | trusted
  | neutral
  | degraded
  | hostile
deriving DecidableEq

structure FederationReputation where
  score : Int
  bounded : -100 ≤ score ∧ score ≤ 100

namespace FederationReputation

def default : FederationReputation := ⟨0, by decide⟩

def tier (reputation : FederationReputation) : ReputationTier :=
  if 40 ≤ reputation.score ∧ reputation.score ≤ 100 then .trusted
  else if -19 ≤ reputation.score ∧ reputation.score ≤ 39 then .neutral
  else if -59 ≤ reputation.score ∧ reputation.score ≤ -20 then .degraded
  else .hostile

end FederationReputation

def activeEventNamespace : String := "io.github.rainyflash.agentroom"

def legacyEventNamespace : String := "org.agentroom"

def knownEventFamilies : List String :=
  ["agent.profile", "agent.status", "handoff.receipt", "handoff.request", "message.preview", "message.revision",
    "moderation.notice", "room.policy", "task.reference"]

inductive EventCompatibility where
  | currentWritable
  | legacyReadOnly
  | unknownReadOnly

def isKnownEvent (eventType name : String) : Bool :=
  knownEventFamilies.any fun family => eventType = name ++ "." ++ family ++ ".v1"

def EventCompatibility.classify (eventType : String) : EventCompatibility :=
  if isKnownEvent eventType activeEventNamespace then .currentWritable
  else if isKnownEvent eventType legacyEventNamespace then .legacyReadOnly
  else .unknownReadOnly

open Library

structure FederationStateRevision where
  stateKey : String
  revision : UInt64

structure FederationIngressEvent where
  eventId : String
  peer : FederationServerName
  roomId : String
  senderUserId : String
  eventType : String
  receivedAt : UtcMillis
  state : Option FederationStateRevision

inductive FederationRateScope where
  | peer
  | room
  | user
deriving DecidableEq

inductive FederationReadOnlyReason where
  | legacyNamespace
  | unknownEventType
deriving DecidableEq

inductive FederationQuarantineReason where
  | governanceRule
  | hostileReputation
  | stateConflict
deriving DecidableEq

inductive FederationIngressRejection where
  | governanceBlock
  | replay
  | rateLimited (scope : FederationRateScope)
deriving DecidableEq

inductive FederationIngressOutcome where
  | acceptReadWrite (matchingRuleIds : List FederationRuleId)
  | acceptReadOnly (reason : FederationReadOnlyReason) (matchingRuleIds : List FederationRuleId)
  | quarantine (reason : FederationQuarantineReason) (matchingRuleIds : List FederationRuleId)
  | reject (reason : FederationIngressRejection) (matchingRuleIds : List FederationRuleId)
deriving DecidableEq

def FederationIngressOutcome.accepted : FederationIngressOutcome → Bool
  | .acceptReadWrite _ | .acceptReadOnly _ _ => true
  | .quarantine _ _ | .reject _ _ => false

def FederationIngressOutcome.rejected : FederationIngressOutcome → Bool
  | .reject _ _ => true
  | _ => false

def FederationIngressOutcome.rateLimited : FederationIngressOutcome → Bool
  | .reject (.rateLimited _) _ => true
  | _ => false

def u32Max : Nat := 2 ^ 32 - 1

structure FederationIngressLimits where
  peerPerWindow : Nat
  roomPerWindow : Nat
  userPerWindow : Nat
  window : DurationMillis
  replayTtl : DurationMillis
  fits : peerPerWindow ≤ u32Max
  positive : 0 < userPerWindow
  layered : userPerWindow ≤ roomPerWindow ∧ roomPerWindow ≤ peerPerWindow

inductive RateKey where
  | peer (peer : String)
  | room (peer roomId : String)
  | user (peer userId : String)
deriving DecidableEq

structure WindowCounter where
  startedAt : UtcMillis
  count : Nat

structure StateSlot where
  roomId : String
  eventType : String
  stateKey : String
deriving DecidableEq

structure AcceptedState where
  revision : UInt64
  eventId : String

-- The maps are only ever looked up, written and pruned by key.
structure FederationIngressGuard where
  limits : FederationIngressLimits
  counters : RateKey → Option WindowCounter
  replayExpirations : String → Option UtcMillis
  acceptedState : StateSlot → Option AcceptedState

abbrev IngressMethod (α : Type) := Method DomainError FederationIngressGuard α

def stateKey (event : FederationIngressEvent) (state : FederationStateRevision) : StateSlot :=
  { roomId := event.roomId, eventType := event.eventType, stateKey := state.stateKey }

def rateDivisor (disposition : FederationDisposition) (reputation : ReputationTier) : Nat :=
  let policyDivisor := if disposition = .throttle then 4 else 1
  let reputationDivisor := if reputation = .degraded then 2 else 1
  max policyDivisor reputationDivisor

namespace FederationIngressGuard

def new (limits : FederationIngressLimits) : FederationIngressGuard where
  limits
  counters := fun _ => none
  replayExpirations := fun _ => none
  acceptedState := fun _ => none

def prune (now : UtcMillis) (guard : FederationIngressGuard) : FederationIngressGuard :=
  { guard with replayExpirations := fun eventId => (guard.replayExpirations eventId).filter (now < ·) }

def rememberReplay (event : FederationIngressEvent) : IngressMethod Unit := do
  let guard ← get
  let expiration ← lift (event.receivedAt.checkedAdd guard.limits.replayTtl)
  set { guard with replayExpirations := Function.update guard.replayExpirations event.eventId (some expiration) }

def hasStateConflict (guard : FederationIngressGuard) (event : FederationIngressEvent) : Bool :=
  event.state.any fun state =>
    (guard.acceptedState (stateKey event state)).any fun accepted => state.revision ≤ accepted.revision

def rememberState (event : FederationIngressEvent) (guard : FederationIngressGuard) : FederationIngressGuard :=
  match event.state with
  | none => guard
  | some state =>
    let accepted : AcceptedState := { revision := state.revision, eventId := event.eventId }
    { guard with acceptedState := Function.update guard.acceptedState (stateKey event state) (some accepted) }

def counterAt (counter : Option WindowCounter) (now : UtcMillis) (window : DurationMillis) : WindowCounter :=
  match counter with
  | none => { startedAt := now, count := 0 }
  | some counter =>
    if window.value ≤ now.value - counter.startedAt.value then { startedAt := now, count := 0 } else counter

def consumeWindow (key : RateKey) (now : UtcMillis) (limit : Nat) : IngressMethod Bool := do
  let guard ← get
  if i64Max < guard.limits.window.value then throw .timeOverflow
  else
    let counter := counterAt (guard.counters key) now guard.limits.window
    if limit ≤ counter.count then
      set { guard with counters := Function.update guard.counters key (some counter) }
      return false
    else
      let counted := { counter with count := min (counter.count + 1) u32Max }
      set { guard with counters := Function.update guard.counters key (some counted) }
      return true

def consumeWindows (now : UtcMillis) (divisor : Nat) :
    List (RateKey × Nat × FederationRateScope) → IngressMethod (Option FederationRateScope)
  | [] => return none
  | (key, baseLimit, scope) :: rest => do
    if ← consumeWindow key now (max (baseLimit / divisor) 1) then consumeWindows now divisor rest
    else return some scope

def rateChecks (limits : FederationIngressLimits) (event : FederationIngressEvent) : List (RateKey × Nat × FederationRateScope) :=
  [(.peer event.peer.value, limits.peerPerWindow, .peer), (.room event.peer.value event.roomId, limits.roomPerWindow, .room),
    (.user event.peer.value event.senderUserId, limits.userPerWindow, .user)]

def accepting (eventType : String) (matchingRuleIds : List FederationRuleId) : FederationIngressOutcome :=
  match EventCompatibility.classify eventType with
  | .currentWritable => .acceptReadWrite matchingRuleIds
  | .legacyReadOnly => .acceptReadOnly .legacyNamespace matchingRuleIds
  | .unknownReadOnly => .acceptReadOnly .unknownEventType matchingRuleIds

def settle (event : FederationIngressEvent) (matchingRuleIds : List FederationRuleId) :
    IngressMethod FederationIngressOutcome := do
  let guard ← get
  if guard.hasStateConflict event then
    rememberReplay event
    return .quarantine .stateConflict matchingRuleIds
  else
    rememberReplay event
    modify (rememberState event)
    return accepting event.eventType matchingRuleIds

def inspect (policies : FederationPolicySet) (reputation : FederationReputation) (event : FederationIngressEvent) :
    IngressMethod FederationIngressOutcome := do
  modify (prune event.receivedAt)
  let governance := policies.evaluate event.peer event.roomId event.senderUserId event.receivedAt
  if governance.disposition = .block then return .reject .governanceBlock governance.matchingRuleIds
  else if governance.disposition = .quarantine then
    rememberReplay event
    return .quarantine .governanceRule governance.matchingRuleIds
  else if reputation.tier = .hostile then
    rememberReplay event
    return .quarantine .hostileReputation governance.matchingRuleIds
  else
    let guard ← get
    if (guard.replayExpirations event.eventId).isSome then return .reject .replay governance.matchingRuleIds
    else
      let divisor := rateDivisor governance.disposition reputation.tier
      match ← consumeWindows event.receivedAt divisor (rateChecks guard.limits event) with
      | some scope => return .reject (.rateLimited scope) governance.matchingRuleIds
      | none => settle event governance.matchingRuleIds

structure Call where
  policies : FederationPolicySet
  reputation : FederationReputation
  event : FederationIngressEvent

def perform (call : Call) : IngressMethod FederationIngressOutcome :=
  inspect call.policies call.reputation call.event

end FederationIngressGuard

end AgentRoom.Federation
