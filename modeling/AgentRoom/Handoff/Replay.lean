import AgentRoom.Handoff.ContextRuns
import AgentRoom.Handoff.Details
import AgentRoom.Library.Fallible

namespace AgentRoom

open Library

inductive HandoffStoreFailure where
  | conflict
  | notFound
  | expired
  | alreadyResolved
  | unavailable
  | corrupt
deriving DecidableEq

abbrev HandoffStoreResult (α : Type) := Except HandoffStoreFailure α

-- The source maps every domain error of a place to that place's own failure.
def transit (failure : HandoffStoreFailure) (method : ContextHandoff.ContextMethod) (handoff : ContextHandoff) :
    HandoffStoreResult ContextHandoff :=
  match method.run handoff with
  | .ok _ next => .ok next
  | .error _ _ => .error failure

theorem transit_ok (failure : HandoffStoreFailure) (method : ContextHandoff.ContextMethod) (handoff next : ContextHandoff) :
    transit failure method handoff = .ok next ↔ method.run handoff = .ok () next := by
  unfold transit
  cases run : method.run handoff with
  | ok answer reached => simp
  | error reason reached => simp

structure HandoffState where
  status : HandoffStatus
  approvedByPrincipalId : Option PrincipalId
  approvedAt : Option UtcMillis
  deliveredAt : Option UtcMillis
  consumedAt : Option UtcMillis
  resolvedAt : Option UtcMillis
  failureCode : Option HandoffFailureCode
deriving DecidableEq

def ContextHandoff.state (handoff : ContextHandoff) : HandoffState where
  status := handoff.status
  approvedByPrincipalId := handoff.approvedByPrincipalId
  approvedAt := handoff.approvedAt
  deliveredAt := handoff.deliveredAt
  consumedAt := handoff.consumedAt
  resolvedAt := handoff.resolvedAt
  failureCode := handoff.failureCode

namespace HandoffReplay

open ContextHandoff

def restoreApproval (principalId : Option PrincipalId) (approvedAt : Option UtcMillis) (handoff : ContextHandoff) :
    HandoffStoreResult ContextHandoff :=
  match principalId, approvedAt with
  | some principalId, some occurredAt => transit .corrupt (approve principalId occurredAt) handoff
  | none, none => .ok handoff
  | _, _ => .error .corrupt

def restoreDelivery (deliveredAt : Option UtcMillis) (handoff : ContextHandoff) : HandoffStoreResult ContextHandoff :=
  match deliveredAt with
  | some occurredAt => transit .corrupt (markDelivered occurredAt) handoff
  | none => .ok handoff

def required {α : Type} (column : Option α) : HandoffStoreResult α :=
  match column with
  | some value => .ok value
  | none => .error .corrupt

def restoreTerminalState (state : HandoffState) (handoff : ContextHandoff) : HandoffStoreResult ContextHandoff :=
  match state.status with
  | .proposed | .approved | .delivered => .ok handoff
  | .consumed => do transit .corrupt (consume (← required state.consumedAt)) handoff
  | .declined => do transit .corrupt (decline (← required state.resolvedAt)) handoff
  | .revoked => do transit .corrupt (revoke (← required state.resolvedAt)) handoff
  | .expired => do transit .corrupt (expire (← required state.resolvedAt)) handoff
  | .failed => do transit .corrupt (fail (← required state.failureCode) (← required state.resolvedAt)) handoff

def restoreStages (fields : ContextHandoffFields) (state : HandoffState) : HandoffStoreResult ContextHandoff := do
  let proposed ← mapError HandoffStoreFailure.corrupt (propose fields)
  let approved ← restoreApproval state.approvedByPrincipalId state.approvedAt proposed
  restoreDelivery state.deliveredAt approved

def replay (fields : ContextHandoffFields) (state : HandoffState) : HandoffStoreResult ContextHandoff := do
  let staged ← restoreStages fields state
  let handoff ← restoreTerminalState state staged
  if handoff.state = state then return handoff else throw .corrupt

structure Recorded (handoff : ContextHandoff) : Prop where
  granted : handoff.status = .approved ∨ handoff.status = .revoked ∨ handoff.status = .failed → handoff.approvedAt.isSome = true
  unsent : handoff.status = .failed → handoff.deliveredAt = none
  settled : handoff.status = .consumed → handoff.resolvedAt = handoff.consumedAt
  explained : handoff.failureCode.isSome = true ↔ handoff.status = .failed

variable {handoff : ContextHandoff}

theorem delivered_granted (inv : ContextInvariant handoff) (delivered : handoff.status = .delivered) :
    handoff.approvedAt.isSome = true := by
  obtain ⟨time, timed⟩ := Option.isSome_iff_exists.mp (inv.holding delivered)
  obtain ⟨⟨earlier, recorded, _⟩, _⟩ := inv.delivered time timed
  rw [recorded]
  rfl

theorem transition_recorded {handoff next : ContextHandoff} (inv : ContextInvariant handoff)
    (recorded : Recorded handoff) (step : ContextStep handoff op next) : Recorded next := by
  have unexplained : handoff.failureCode = none := by
    cases code : handoff.failureCode with
    | none => rfl
    | some failureCode =>
      have failed := recorded.explained.mp (by rw [code]; rfl)
      have active := step_open step
      rw [failed] at active
      cases active
  cases step with
  | revoked revokedAt approved =>
    have granted := approved.elim (fun status => recorded.granted (.inl status)) (delivered_granted inv)
    constructor <;> simp [unexplained, granted]
  | failed failureCode failedAt approved =>
    have granted := recorded.granted (.inl approved)
    have unsent := inv.undelivered (.inr approved)
    constructor <;> simp [unsent, granted]
  | _ => constructor <;> simp [unexplained]

structure Replays (handoff : ContextHandoff) : Prop where
  invariant : ContextInvariant handoff
  recorded : Recorded handoff
  staged : ∃ active : ContextHandoff, restoreStages handoff.fields handoff.state = .ok active ∧
    restoreTerminalState handoff.state active = .ok handoff

theorem open_restores {handoff active : ContextHandoff} (status : handoff.status.closed = false) :
    restoreTerminalState handoff.state active = .ok active := by
  unfold restoreTerminalState
  rw [show handoff.state.status = handoff.status from rfl]
  cases named : handoff.status with
  | proposed => rfl
  | approved => rfl
  | delivered => rfl
  | _ => rw [named] at status; cases status

theorem open_staged (replays : Replays handoff) (status : handoff.status.closed = false) :
    restoreStages handoff.fields handoff.state = .ok handoff := by
  obtain ⟨active, staged, restored⟩ := replays.staged
  rw [open_restores status] at restored
  cases restored
  exact staged

theorem restore_stages_ok (fields : ContextHandoffFields) (state : HandoffState) (staged : ContextHandoff) :
    restoreStages fields state = .ok staged ↔ ∃ proposed, mapError HandoffStoreFailure.corrupt (propose fields) = .ok proposed ∧
        ∃ approved, restoreApproval state.approvedByPrincipalId state.approvedAt proposed = .ok approved ∧
          restoreDelivery state.deliveredAt approved = .ok staged := by
  rw [restoreStages, bind_ok]
  simp [bind_ok]

theorem proposal_start (replays : Replays handoff) (proposed : handoff.status = .proposed) :
    mapError HandoffStoreFailure.corrupt (propose handoff.fields) = .ok handoff := by
  have staged := open_staged replays (by rw [proposed]; rfl)
  obtain ⟨start, begun, approved, approval, delivery⟩ := (restore_stages_ok ..).mp staged
  have untimed := replays.invariant.unapproved proposed
  have unnamed : handoff.approvedByPrincipalId = none := by
    have both := replays.invariant.approver
    rw [untimed] at both
    simpa using both
  simp only [state, untimed, unnamed, restoreApproval] at approval
  simp only [state, replays.invariant.undelivered (.inl proposed), restoreDelivery] at delivery
  cases approval
  cases delivery
  exact begun

theorem approval_start (replays : Replays handoff) (approved : handoff.status = .approved) :
    ∃ proposed, mapError HandoffStoreFailure.corrupt (propose handoff.fields) = .ok proposed ∧
      restoreApproval handoff.approvedByPrincipalId handoff.approvedAt proposed = .ok handoff := by
  have staged := open_staged replays (by rw [approved]; rfl)
  obtain ⟨start, begun, reached, approval, delivery⟩ := (restore_stages_ok ..).mp staged
  simp only [state, replays.invariant.undelivered (.inr approved), restoreDelivery] at delivery
  cases delivery
  exact ⟨start, begun, approval⟩

theorem transition_invariant {handoff next : ContextHandoff} (op : ContextOp) (inv : ContextInvariant handoff)
    (run : op.perform.run handoff = .ok () next) : ContextInvariant next := by
  have kept := perform_invariant handoff op inv
  rw [after, run] at kept
  exact kept

theorem transition_replays {handoff next : ContextHandoff} (op : ContextOp) (replays : Replays handoff)
    (run : op.perform.run handoff = .ok () next) : Replays next := by
  have inv := transition_invariant op replays.invariant run
  rcases yields_ok (perform_yields handoff op) run with same | step
  · rw [same]
    exact replays
  · have staged := open_staged replays (step_open step)
    refine ⟨inv, transition_recorded replays.invariant replays.recorded step, ?_⟩
    cases step with
    | approved principalId approvedAt proposed =>
      have undelivered (other : ContextHandoff) : restoreDelivery handoff.deliveredAt other = .ok other := by
        rw [replays.invariant.undelivered (.inl proposed)]
        rfl
      exact ⟨_, (restore_stages_ok ..).mpr
        ⟨handoff, proposal_start replays proposed, _, (transit_ok ..).mpr run, undelivered _⟩, open_restores rfl⟩
    | delivered approvedAt deliveredAt approved =>
      obtain ⟨proposed, begun, approval⟩ := approval_start replays approved
      exact ⟨_, (restore_stages_ok ..).mpr
        ⟨proposed, begun, handoff, approval, (transit_ok ..).mpr run⟩, open_restores rfl⟩
    | _ => exact ⟨handoff, staged, (transit_ok ..).mpr run⟩

theorem proposal_replays {fields : ContextHandoffFields} (proposed : propose fields = .ok start) : Replays start := by
  obtain ⟨inv, status⟩ := propose_invariant proposed
  unfold propose at proposed
  by_cases short : fields.expiresAt ≤ fields.proposedAt
  · rw [if_pos short] at proposed
    cases proposed
  · have begun : propose fields = .ok start := by rw [propose, if_neg short]; simpa [if_neg short] using proposed
    rw [if_neg short] at proposed
    cases proposed
    refine ⟨inv, by constructor <;> simp, _, (restore_stages_ok ..).mpr ⟨_, by rw [begun]; rfl, _, rfl, rfl⟩, ?_⟩
    exact open_restores rfl

end HandoffReplay

namespace ContextHandoff

open HandoffReplay

-- A handoff can only be proposed and then moved on by its own methods.
def Built (handoff : ContextHandoff) : Prop :=
  ∃ fields start ops, propose fields = .ok start ∧ handoff = runAll ContextOp.perform start ops

theorem built_transition {handoff next : ContextHandoff} (op : ContextOp) (built : Built handoff)
    (run : op.perform.run handoff = .ok () next) : Built next := by
  obtain ⟨fields, start, ops, proposed, reached⟩ := built
  refine ⟨fields, start, ops ++ [op], proposed, ?_⟩
  rw [run_all_append, ← reached, run_all_cons, run_all_nil, after, run, final_state_ok]

theorem built_replays (built : Built handoff) : Replays handoff := by
  obtain ⟨fields, start, ops, proposed, reached⟩ := built
  rw [reached]
  refine run_all_invariant ContextOp.perform Replays ?_ ops start (proposal_replays proposed)
  intro state op replays
  cases run : op.perform.run state with
  | ok answer next =>
    rw [after, run]
    exact transition_replays op replays run
  | error failure next =>
    have same := yields_error (perform_yields state op) run
    rw [after, run, final_state_error, same]
    exact replays

theorem replay_built (built : Built handoff) : replay handoff.fields handoff.state = .ok handoff := by
  obtain ⟨active, staged, restored⟩ := (built_replays built).staged
  rw [replay, bind_ok]
  refine ⟨active, staged, ?_⟩
  rw [bind_ok]
  exact ⟨handoff, restored, if_pos rfl⟩

end ContextHandoff

end AgentRoom
