import AgentRoom.Domain.Basics
import AgentRoom.Library.Method

namespace AgentRoom

open Library

def validateText (field value : String) (maximumLength : Nat) : DomainResult Unit :=
  if value.isEmpty || maximumLength < value.utf8ByteSize || value.toList.any isControlChar then
    .error (.validation field "不能为空、超长或包含控制字符")
  else .ok ()

def maxMatrixDeviceIdLength : Nat := 255

structure AgentMatrixDeviceId where
  value : String
  valid : validateText "agent_matrix_device_id" value maxMatrixDeviceIdLength = .ok ()
deriving DecidableEq

structure AdapterBindingId where
  uuid : Nat
deriving DecidableEq

structure AgentInstancePublicSigningKey where
  bytes : BitVec 256
deriving DecidableEq

inductive AgentInstanceStatus where
  | connecting
  | online
  | degraded
  | offline
  | revoked
deriving DecidableEq

def AgentInstanceStatus.asStr : AgentInstanceStatus → String
  | .connecting => "connecting"
  | .online => "online"
  | .degraded => "degraded"
  | .offline => "offline"
  | .revoked => "revoked"

structure AgentInstance where
  id : AgentInstanceId
  agentId : AgentId
  deviceId : DeviceId
  adapterBindingId : AdapterBindingId
  publicSigningKey : AgentInstancePublicSigningKey
  matrixDeviceId : AgentMatrixDeviceId
  status : AgentInstanceStatus
  leaseExpiresAt : Option UtcMillis
deriving DecidableEq

abbrev InstanceMethod (α : Type) := Method DomainError AgentInstance α

namespace AgentInstance

def register (id : AgentInstanceId) (agentId : AgentId) (deviceId : DeviceId) (adapterBindingId : AdapterBindingId)
    (publicSigningKey : AgentInstancePublicSigningKey) (matrixDeviceId : AgentMatrixDeviceId) : AgentInstance :=
  { id, agentId, deviceId, adapterBindingId, publicSigningKey, matrixDeviceId, status := .connecting, leaseExpiresAt := none }

def restore (id : AgentInstanceId) (agentId : AgentId) (deviceId : DeviceId) (adapterBindingId : AdapterBindingId)
    (publicSigningKey : AgentInstancePublicSigningKey) (matrixDeviceId : AgentMatrixDeviceId)
    (status : AgentInstanceStatus) (leaseExpiresAt : Option UtcMillis) : DomainResult AgentInstance :=
  if decide (status = .online) ≠ leaseExpiresAt.isSome then
    .error (.invariantViolation "agent_instance" "只有在线实例可以持有租约")
  else .ok { id, agentId, deviceId, adapterBindingId, publicSigningKey, matrixDeviceId, status, leaseExpiresAt }

def replaceMatrixDevice (matrixDeviceId : AgentMatrixDeviceId) : InstanceMethod Unit :=
  modify fun agent => { agent with matrixDeviceId }

def invalidOnline (source target : String) : DomainError := .invalidTransition "agent_instance" source target

-- The status is written before the deadline is known to exist.
def connect (now : UtcMillis) (lease : DurationMillis) : InstanceMethod Unit := do
  let agent ← get
  if agent.status = .revoked then throw (invalidOnline agent.status.asStr "online")
  else
    set { agent with status := .online }
    let leaseExpiresAt ← lift (now.checkedAdd lease)
    modify fun agent => { agent with leaseExpiresAt := some leaseExpiresAt }

def renew (now : UtcMillis) (lease : DurationMillis) : InstanceMethod Unit := do
  let agent ← get
  if agent.status ≠ .online then throw (invalidOnline agent.status.asStr "online")
  else if agent.leaseExpiresAt.any (· < now) then
    set { agent with status := .offline, leaseExpiresAt := none }
    throw (invalidOnline "expired" "online")
  else
    let leaseExpiresAt ← lift (now.checkedAdd lease)
    set { agent with leaseExpiresAt := some leaseExpiresAt }

def degrade : InstanceMethod Unit := do
  let agent ← get
  if agent.status = .revoked then throw (invalidOnline agent.status.asStr "degraded")
  else set { agent with status := .degraded, leaseExpiresAt := none }

def disconnect : InstanceMethod Unit := do
  let agent ← get
  if agent.status ≠ .revoked then set { agent with status := .offline, leaseExpiresAt := none }
  else pure ()

def shouldExpire (agent : AgentInstance) (now : UtcMillis) : Bool :=
  agent.status = .online && agent.leaseExpiresAt.any (· ≤ now)

def expire (now : UtcMillis) : InstanceMethod Bool := do
  let agent ← get
  if agent.shouldExpire now then
    disconnect
    return true
  else return false

def revoke : InstanceMethod Unit :=
  modify fun agent => { agent with status := .revoked, leaseExpiresAt := none }

inductive Call where
  | replaceMatrixDevice (matrixDeviceId : AgentMatrixDeviceId)
  | connect (now : UtcMillis) (lease : DurationMillis)
  | renew (now : UtcMillis) (lease : DurationMillis)
  | degrade
  | disconnect
  | expire (now : UtcMillis)
  | revoke

def perform : Call → InstanceMethod Unit
  | .replaceMatrixDevice matrixDeviceId => replaceMatrixDevice matrixDeviceId
  | .connect now lease => connect now lease
  | .renew now lease => renew now lease
  | .degrade => degrade
  | .disconnect => disconnect
  | .expire now => do
    let _ ← expire now
    return ()
  | .revoke => revoke

inductive Made : AgentInstance → Prop where
  | registered (id : AgentInstanceId) (agentId : AgentId) (deviceId : DeviceId) (adapterBindingId : AdapterBindingId)
      (publicSigningKey : AgentInstancePublicSigningKey) (matrixDeviceId : AgentMatrixDeviceId) :
      Made (register id agentId deviceId adapterBindingId publicSigningKey matrixDeviceId)
  | restored (id : AgentInstanceId) (agentId : AgentId) (deviceId : DeviceId) (adapterBindingId : AdapterBindingId)
      (publicSigningKey : AgentInstancePublicSigningKey) (matrixDeviceId : AgentMatrixDeviceId)
      (status : AgentInstanceStatus) (leaseExpiresAt : Option UtcMillis) (agent : AgentInstance)
      (made : restore id agentId deviceId adapterBindingId publicSigningKey matrixDeviceId status leaseExpiresAt =
        .ok agent) : Made agent

def Leased (agent : AgentInstance) : Prop := agent.status = .online ↔ agent.leaseExpiresAt.isSome = true

theorem made_leased (made : Made agent) : Leased agent := by
  cases made with
  | registered => simp [Leased, register]
  | restored _ _ _ _ _ _ status leaseExpiresAt _ made =>
    simp only [restore] at made
    split at made
    · cases made
    · rename_i consistent
      cases made
      simp only [ne_eq, Decidable.not_not] at consistent
      simp [Leased, ← consistent]

def Call.Fits : Call → Prop
  | .connect now lease => now.value + lease.value ≤ i64Max
  | _ => True

def RenewsTooLate (agent : AgentInstance) : Call → Prop
  | .renew now _ => agent.status = .online ∧ agent.leaseExpiresAt.any (· < now) = true
  | _ => False

structure Leaving (agent : AgentInstance) (call : Call) (failed : Bool) (next : AgentInstance) : Prop where
  leased : Leased agent → Leased next
  unchanged : failed = true → ¬ RenewsTooLate agent call → next = agent
  offline : failed = true → RenewsTooLate agent call → next = { agent with status := .offline, leaseExpiresAt := none }

variable (agent : AgentInstance) (now : UtcMillis)

theorem leaving_failed (inTime : ¬ RenewsTooLate agent call) : Leaving agent call true agent :=
  ⟨fun leased => leased, fun _ _ => rfl, fun _ late => absurd late inTime⟩

theorem leaving_done (leased : Leased agent → Leased next) : Leaving agent call false next :=
  ⟨leased, fun failed => (nomatch failed), fun failed => (nomatch failed)⟩

theorem connect_leaves (lease : DurationMillis) (fits : now.value + lease.value ≤ i64Max) :
    Leaves (connect now lease) agent (fun _ => Leaving agent (.connect now lease) false)
      (Leaving agent (.connect now lease) true) := by
  refine leaves_get ?_
  by_cases gone : agent.status = .revoked
  · rw [if_pos gone]
    exact leaves_throw (leaving_failed agent fun late => late)
  · rw [if_neg gone]
    simp only [UtcMillis.checkedAdd, dif_pos fits]
    exact leaving_done agent fun _ => by simp [Leased]

theorem renew_leaves (lease : DurationMillis) : Leaves (renew now lease) agent (fun _ => Leaving agent (.renew now lease) false)
      (Leaving agent (.renew now lease) true) := by
  refine leaves_get ?_
  by_cases away : agent.status ≠ .online
  · rw [if_pos away]
    exact leaves_throw (leaving_failed agent fun late => away late.1)
  · rw [if_neg away]
    have online : agent.status = .online := not_not.mp away
    by_cases late : agent.leaseExpiresAt.any (· < now) = true
    · rw [if_pos late]
      change Leaving agent (.renew now lease) true { agent with status := .offline, leaseExpiresAt := none }
      exact ⟨fun _ => by simp [Leased], fun _ inTime => absurd ⟨online, late⟩ inTime, fun _ _ => rfl⟩
    · rw [if_neg late]
      cases deadline : now.checkedAdd lease with
      | ok leaseExpiresAt => exact leaving_done agent fun _ => by simp [Leased, online]
      | error failure => exact leaving_failed agent fun tooLate => late tooLate.2

theorem degrade_leaves : Leaves degrade agent (fun _ => Leaving agent .degrade false) (Leaving agent .degrade true) := by
  refine leaves_get ?_
  by_cases gone : agent.status = .revoked
  · rw [if_pos gone]
    exact leaves_throw (leaving_failed agent fun late => late)
  · rw [if_neg gone]
    exact leaving_done agent fun _ => by simp [Leased]

theorem disconnect_leased : Leaves disconnect agent (fun _ next => Leased agent → Leased next) (fun _ => False) := by
  refine leaves_get ?_
  by_cases stands : agent.status ≠ .revoked
  · rw [if_pos stands]
    exact fun _ => by simp [Leased]
  · rw [if_neg stands]
    exact leaves_pure fun leased => leased

theorem expire_leased : Leaves (expire now) agent (fun _ next => Leased agent → Leased next) (fun _ => False) := by
  refine leaves_get ?_
  by_cases due : agent.shouldExpire now = true
  · rw [if_pos due]
    refine leaves_bind _ (disconnect_leased agent) ?_
    intro _ next leased
    exact leaves_pure leased
  · rw [if_neg due]
    exact leaves_pure fun leased => leased

theorem expire_leaves : Leaves (perform (.expire now)) agent (fun _ => Leaving agent (.expire now) false) (fun _ => False) := by
  refine leaves_bind _ (expire_leased agent now) ?_
  intro _ next leased
  exact leaves_pure (leaving_done agent leased)

theorem call_leaves (fits : call.Fits) :
    Leaves (perform call) agent (fun _ => Leaving agent call false) (Leaving agent call true) := by
  cases call with
  | replaceMatrixDevice matrixDeviceId => exact leaving_done agent fun leased => leased
  | connect now lease => exact connect_leaves agent now lease fits
  | renew now lease => exact renew_leaves agent now lease
  | degrade => exact degrade_leaves agent
  | disconnect =>
    exact leaves_mono (fun _ next leased => leaving_done agent leased)
      (fun _ impossible => impossible.elim) (disconnect_leased agent)
  | expire now =>
    exact leaves_mono (fun _ _ leaving => leaving) (fun _ impossible => impossible.elim)
      (expire_leaves agent now)
  | revoke => exact leaving_done agent fun _ => by simp [Leased]

theorem after_leased (call : Call) (fits : call.Fits) (leased : Leased agent) : Leased (after (perform call) agent) := by
  have leaving := call_leaves agent fits
  unfold Leaves at leaving
  rw [after]
  cases run : (perform call).run agent with
  | ok value next =>
    rw [run] at leaving
    exact leaving.leased leased
  | error failure next =>
    rw [run] at leaving
    exact leaving.leased leased

theorem run_leased (calls : List Call) (agent : AgentInstance) (fit : ∀ call ∈ calls, call.Fits)
    (leased : Leased agent) : Leased (runAll perform agent calls) := by
  induction calls generalizing agent with
  | nil => exact leased
  | cons call rest ih =>
    exact ih _ (fun other listed => fit other (List.mem_cons_of_mem _ listed))
      (after_leased agent call (fit call List.mem_cons_self) leased)

-- In every reached state the lease goes with being online, and a failing call
-- changes nothing, but for a renewal that comes too late.
theorem instance_lease_follows_its_status (agent : AgentInstance) (made : Made agent) (calls : List Call)
    (fit : ∀ call ∈ calls, call.Fits) : Leased (runAll perform agent calls) ∧
      ∀ call failure next, call.Fits → (perform call).run (runAll perform agent calls) = .error failure next →
        (¬ RenewsTooLate (runAll perform agent calls) call → next = runAll perform agent calls) ∧
        (RenewsTooLate (runAll perform agent calls) call →
          next = { runAll perform agent calls with status := .offline, leaseExpiresAt := none }) := by
  refine ⟨run_leased calls agent fit (made_leased made), ?_⟩
  intro call failure next fits run
  have leaving := leaves_error (call_leaves _ fits) run
  exact ⟨leaving.unchanged rfl, leaving.offline rfl⟩

def firstInstance : AgentInstance :=
  register ⟨1⟩ ⟨2⟩ ⟨3⟩ ⟨4⟩ ⟨7#256⟩ ⟨"AGENT-INSTANCE-1", rfl⟩

theorem first_instance_leased : Leased (runAll perform firstInstance [.connect ⟨1000, by decide⟩ ⟨100, by decide⟩]) :=
  (instance_lease_follows_its_status firstInstance (.registered ..) [.connect ⟨1000, by decide⟩ ⟨100, by decide⟩]
    (by
      intro call listed
      obtain rfl := List.mem_singleton.mp listed
      change 1000 + 100 ≤ i64Max
      decide)).1

def connectedInstance : AgentInstance := runAll perform firstInstance [.connect ⟨1000, by decide⟩ ⟨100, by decide⟩]

theorem late_renewal_fails_and_disconnects : Made firstInstance ∧
      (∃ failure next, (perform (.renew ⟨1101, by decide⟩ ⟨100, by decide⟩)).run connectedInstance = .error failure next ∧
        next ≠ connectedInstance ∧ next.status = .offline) :=
  ⟨.registered .., _, _, rfl, by decide, rfl⟩

def Renewed (agent : AgentInstance) (now : UtcMillis) (lease : DurationMillis) : Prop :=
  ∃ next, (renew now lease).run agent = .ok () next

def TakenOffline (agent : AgentInstance) (now : UtcMillis) : Prop :=
  ∃ next, (expire now).run agent = .ok true next ∧ next.status = .offline

theorem renewed_iff {agent : AgentInstance} {now : UtcMillis} (online : agent.status = .online) : Renewed agent now lease ↔
      (∀ ending ∈ agent.leaseExpiresAt, now ≤ ending) ∧ now.value + lease.value ≤ i64Max := by
  have begun : (renew now lease).run agent =
      (if agent.leaseExpiresAt.any (· < now) then do
        set { agent with status := .offline, leaseExpiresAt := none }
        throw (invalidOnline "expired" "online")
      else do
        let leaseExpiresAt ← lift (now.checkedAdd lease)
        set { agent with leaseExpiresAt := some leaseExpiresAt } : InstanceMethod Unit).run agent := by
    change (if agent.status ≠ .online then _ else _ : InstanceMethod Unit).run agent = _
    rw [if_neg (not_not.mpr online)]
  rw [Renewed, begun]
  by_cases late : agent.leaseExpiresAt.any (· < now) = true
  · obtain ⟨ending, held, past⟩ := (Option.any_eq_true ..).mp late
    rw [if_pos late]
    constructor
    · rintro ⟨next, ⟨⟩⟩
    · intro ⟨inTime, _⟩
      exact absurd (inTime ending held) (Nat.not_le.mpr (of_decide_eq_true past))
  · rw [if_neg late]
    have inTime : ∀ ending ∈ agent.leaseExpiresAt, now ≤ ending := fun ending held =>
      Nat.not_lt.mp fun past => late ((Option.any_eq_true ..).mpr ⟨ending, held, decide_eq_true past⟩)
    by_cases fits : now.value + lease.value ≤ i64Max
    · simp only [UtcMillis.checkedAdd, dif_pos fits]
      exact ⟨fun _ => ⟨inTime, fits⟩, fun _ => ⟨_, rfl⟩⟩
    · simp only [UtcMillis.checkedAdd, dif_neg fits]
      constructor
      · rintro ⟨next, ⟨⟩⟩
      · intro ⟨_, within⟩
        exact absurd within fits

theorem taken_offline_iff {agent : AgentInstance} {now : UtcMillis} (online : agent.status = .online) :
    TakenOffline agent now ↔ ∃ ending ∈ agent.leaseExpiresAt, ending ≤ now := by
  have due : agent.shouldExpire now = true ↔ ∃ ending ∈ agent.leaseExpiresAt, ending ≤ now := by
    simp [shouldExpire, online, Option.any_eq_true]
  rw [← due]
  by_cases expiring : agent.shouldExpire now = true
  · have run : (expire now).run agent = .ok true { agent with status := .offline, leaseExpiresAt := none } := by
      cases agent
      cases online
      change (if _ then _ else _ : InstanceMethod Bool).run _ = _
      rw [if_pos expiring]
      rfl
    exact ⟨fun _ => expiring, fun _ => ⟨_, run, rfl⟩⟩
  · refine ⟨?_, fun expired => absurd expired expiring⟩
    rintro ⟨next, run, _⟩
    change (if agent.shouldExpire now then _ else _ : InstanceMethod Bool).run agent = _ at run
    rw [if_neg expiring] at run
    cases run

theorem renewal_agrees_with_expiry (agent : AgentInstance) (online : agent.status = .online) (now : UtcMillis)
    (lease : DurationMillis) :
    ((Renewed agent now lease → ¬ TakenOffline agent now) ∧ (TakenOffline agent now → ¬ Renewed agent now lease)) ↔
      agent.leaseExpiresAt ≠ some now ∨ i64Max < now.value + lease.value := by
  rw [renewed_iff online, taken_offline_iff online]
  constructor
  · intro ⟨apart, _⟩
    by_contra both
    obtain ⟨held, fits⟩ := not_or.mp both
    have atEnd := not_not.mp held
    refine apart ⟨?_, Nat.not_lt.mp fits⟩ ⟨now, atEnd, UtcMillis.le_refl now⟩
    intro ending other
    rw [Option.mem_def.mp other] at atEnd
    exact Option.some.inj atEnd ▸ UtcMillis.le_refl ending
  · intro apart
    suffices never : (∀ ending ∈ agent.leaseExpiresAt, now ≤ ending) ∧ now.value + lease.value ≤ i64Max →
        ¬ ∃ ending ∈ agent.leaseExpiresAt, ending ≤ now from ⟨never, fun expired renewed => never renewed expired⟩
    rintro ⟨inTime, fits⟩ ⟨ending, held, past⟩
    rcases apart with elsewhere | tooFar
    · have same : ending.value = now.value := Nat.le_antisymm past (inTime ending held)
      refine elsewhere (held.trans ?_)
      cases ending
      cases now
      exact congrArg some (UtcMillis.mk.injEq .. |>.mpr same)
    · exact Nat.not_lt.mpr fits tooFar

theorem connected_agrees_before_its_end :
    (Renewed connectedInstance ⟨1099, by decide⟩ ⟨100, by decide⟩ → ¬ TakenOffline connectedInstance ⟨1099, by decide⟩) ∧
      (TakenOffline connectedInstance ⟨1099, by decide⟩ → ¬ Renewed connectedInstance ⟨1099, by decide⟩ ⟨100, by decide⟩) :=
  (renewal_agrees_with_expiry connectedInstance rfl ⟨1099, by decide⟩ ⟨100, by decide⟩).mpr (.inl (by decide))

theorem renewed_and_expired_at_its_end : connectedInstance.status = .online ∧
    Renewed connectedInstance ⟨1100, by decide⟩ ⟨100, by decide⟩ ∧ TakenOffline connectedInstance ⟨1100, by decide⟩ :=
  ⟨rfl, ⟨_, rfl⟩, _, rfl, rfl⟩

end AgentInstance

end AgentRoom
