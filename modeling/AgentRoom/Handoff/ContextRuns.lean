import AgentRoom.Handoff.Context

namespace AgentRoom

open Library

def HandoffStatus.closed : HandoffStatus → Bool
  | .consumed | .declined | .revoked | .expired | .failed => true
  | .proposed | .approved | .delivered => false

namespace ContextHandoff

-- Every way a successful call moves the handoff on, with all it writes.
inductive ContextStep (handoff : ContextHandoff) : ContextOp → ContextHandoff → Prop where
  | approved (principalId : PrincipalId) (approvedAt : UtcMillis) (proposed : handoff.status = .proposed)
      (later : handoff.fields.proposedAt ≤ approvedAt) (live : approvedAt < handoff.fields.expiresAt) :
      ContextStep handoff (.approve principalId approvedAt) { handoff with
        status := .approved, approvedByPrincipalId := some principalId, approvedAt := some approvedAt }
  | delivered (approvedAt deliveredAt : UtcMillis) (approved : handoff.status = .approved)
      (recorded : handoff.approvedAt = some approvedAt) (later : approvedAt ≤ deliveredAt)
      (live : deliveredAt < handoff.fields.expiresAt) :
      ContextStep handoff (.markDelivered deliveredAt) { handoff with status := .delivered, deliveredAt := some deliveredAt }
  | consumed (deliveredAt consumedAt : UtcMillis) (delivered : handoff.status = .delivered)
      (recorded : handoff.deliveredAt = some deliveredAt) (later : deliveredAt ≤ consumedAt)
      (live : consumedAt < handoff.fields.expiresAt) :
      ContextStep handoff (.consume consumedAt) { handoff with
        status := .consumed, consumedAt := some consumedAt, resolvedAt := some consumedAt }
  | declined (declinedAt : UtcMillis) (active : handoff.status.closed = false) :
      ContextStep handoff (.decline declinedAt) { handoff with status := .declined, resolvedAt := some declinedAt }
  | revoked (revokedAt : UtcMillis) (approved : handoff.status = .approved ∨ handoff.status = .delivered) :
      ContextStep handoff (.revoke revokedAt) { handoff with status := .revoked, resolvedAt := some revokedAt }
  | expired (observedAt : UtcMillis) (active : handoff.status.closed = false) :
      ContextStep handoff (.expire observedAt) { handoff with status := .expired, resolvedAt := some observedAt }
  | failed (failureCode : HandoffFailureCode) (failedAt : UtcMillis) (approved : handoff.status = .approved) :
      ContextStep handoff (.fail failureCode failedAt) { handoff with
        status := .failed, failureCode := some failureCode, resolvedAt := some failedAt }

def Moved (op : ContextOp) (handoff : ContextHandoff) (_ : Unit) (next : ContextHandoff) : Prop :=
  next = handoff ∨ ContextStep handoff op next

section

variable (handoff : ContextHandoff)
include handoff

theorem require_status_ok (expected target : HandoffStatus) (result : Unit)
    (passed : handoff.requireStatus expected target = .ok result) : handoff.status = expected := by
  unfold requireStatus at passed
  by_cases same : handoff.status = expected
  · exact same
  · simp [same] at passed

theorem approve_yields (principalId : PrincipalId) (approvedAt : UtcMillis) :
    Yields (approve principalId approvedAt) handoff fun result next =>
      Moved (.approve principalId approvedAt) handoff result next ∧ next.approvedByPrincipalId = some principalId := by
  rw [approve]
  refine yields_get ?_
  refine yields_ite (fun _ => ?_) fun _ => ?_
  · exact yields_ite (fun same => yields_pure ⟨.inl rfl, same⟩)
      fun _ => yields_throw
  · refine yields_lift fun _ expected => yields_lift fun _ timed => ?_
    have proposed := require_status_ok handoff _ _ _ expected
    obtain ⟨later, live⟩ := active_time_ok timed
    exact ⟨.inr (.approved principalId approvedAt proposed later live), rfl⟩

theorem mark_delivered_yields (deliveredAt : UtcMillis) :
    Yields (markDelivered deliveredAt) handoff (Moved (.markDelivered deliveredAt) handoff) := by
  rw [markDelivered]
  refine yields_get ?_
  refine yields_ite (fun _ => yields_pure (.inl rfl)) fun _ => ?_
  refine yields_lift fun _ expected => ?_
  have approved := require_status_ok handoff _ _ _ expected
  cases recorded : handoff.approvedAt with
  | none => exact yields_throw
  | some approvedAt =>
    refine yields_lift fun _ timed => ?_
    obtain ⟨later, live⟩ := active_time_ok timed
    have step := ContextStep.delivered approvedAt deliveredAt approved recorded later live
    rw [recorded] at step
    exact .inr step

theorem consume_yields (consumedAt : UtcMillis) : Yields (consume consumedAt) handoff (Moved (.consume consumedAt) handoff) := by
  rw [consume]
  refine yields_get ?_
  refine yields_ite (fun _ => yields_pure (.inl rfl)) fun _ => ?_
  refine yields_lift fun _ expected => ?_
  have delivered := require_status_ok handoff _ _ _ expected
  cases recorded : handoff.deliveredAt with
  | none => exact yields_throw
  | some deliveredAt =>
    refine yields_lift fun _ timed => ?_
    obtain ⟨later, live⟩ := active_time_ok timed
    have step := ContextStep.consumed deliveredAt consumedAt delivered recorded later live
    rw [recorded] at step
    exact .inr step

theorem open_of_active (active : handoff.status = .proposed ∨ handoff.status = .approved ∨ handoff.status = .delivered) :
    handoff.status.closed = false := by
  rcases active with status | status | status <;> rw [status] <;> rfl

theorem decline_yields : Yields (decline declinedAt) handoff (Moved (.decline declinedAt) handoff) := by
  rw [decline]
  refine yields_get ?_
  refine yields_ite (fun _ => yields_pure (.inl rfl)) fun _ => ?_
  refine yields_ite (fun _ => yields_throw) fun active => ?_
  refine yields_lift fun _ _ => ?_
  exact .inr (.declined declinedAt (open_of_active handoff (not_not.mp active)))

theorem revoke_yields (revokedAt : UtcMillis) : Yields (revoke revokedAt) handoff (Moved (.revoke revokedAt) handoff) := by
  rw [revoke]
  refine yields_get ?_
  refine yields_ite (fun _ => yields_pure (.inl rfl)) fun _ => ?_
  refine yields_ite (fun _ => yields_throw) fun active => ?_
  refine yields_lift fun _ _ => ?_
  exact .inr (.revoked revokedAt (not_not.mp active))

theorem expire_yields (observedAt : UtcMillis) : Yields (expire observedAt) handoff (Moved (.expire observedAt) handoff) := by
  rw [expire]
  refine yields_get ?_
  refine yields_ite (fun _ => yields_pure (.inl rfl)) fun _ => ?_
  refine yields_ite (fun _ => yields_throw) fun active => ?_
  refine yields_ite (fun _ => yields_throw) fun _ => ?_
  exact .inr (.expired observedAt (open_of_active handoff (not_not.mp active)))

theorem fail_yields {failureCode : HandoffFailureCode} :
    Yields (fail failureCode failedAt) handoff (Moved (.fail failureCode failedAt) handoff) := by
  rw [fail]
  refine yields_get ?_
  refine yields_ite (fun _ => ?_) fun _ => ?_
  · exact yields_ite (fun _ => yields_pure (.inl rfl))
      fun _ => yields_throw
  · refine yields_lift fun _ expected => ?_
    cases recorded : handoff.approvedAt with
    | none => exact yields_throw
    | some approvedAt =>
      refine yields_lift fun _ _ => ?_
      rw [← recorded]
      exact .inr (.failed failureCode failedAt (require_status_ok handoff _ _ _ expected))

theorem perform_yields (op : ContextOp) : Yields op.perform handoff (Moved op handoff) := by
  cases op with
  | approve principalId approvedAt =>
    exact yields_mono (fun _ _ moved => moved.1) (approve_yields handoff principalId approvedAt)
  | markDelivered deliveredAt => exact mark_delivered_yields handoff deliveredAt
  | consume consumedAt => exact consume_yields handoff consumedAt
  | decline declinedAt => exact decline_yields handoff
  | revoke revokedAt => exact revoke_yields handoff revokedAt
  | expire observedAt => exact expire_yields handoff observedAt
  | fail failureCode failedAt => exact fail_yields handoff

theorem after_cases (op : ContextOp) : after op.perform handoff = handoff ∨ ContextStep handoff op (after op.perform handoff) :=
  after_of_yields
    (perform_yields handoff op) (.inl rfl) fun _ _ moved => moved

end

structure ContextInvariant (handoff : ContextHandoff) : Prop where
  lifetime : handoff.fields.proposedAt < handoff.fields.expiresAt
  approver : handoff.approvedByPrincipalId.isSome = handoff.approvedAt.isSome
  approved : ∀ time, handoff.approvedAt = some time → handoff.fields.proposedAt ≤ time ∧ time < handoff.fields.expiresAt
  delivered : ∀ time, handoff.deliveredAt = some time →
    (∃ earlier, handoff.approvedAt = some earlier ∧ earlier ≤ time) ∧ time < handoff.fields.expiresAt
  consumed : ∀ time, handoff.consumedAt = some time →
    (∃ earlier, handoff.deliveredAt = some earlier ∧ earlier ≤ time) ∧ time < handoff.fields.expiresAt
  unapproved : handoff.status = .proposed → handoff.approvedAt = none
  undelivered : handoff.status = .proposed ∨ handoff.status = .approved → handoff.deliveredAt = none
  unconsumed : handoff.consumedAt.isSome = true ↔ handoff.status = .consumed
  holding : handoff.status = .delivered → handoff.deliveredAt.isSome = true
  resolved : handoff.resolvedAt.isSome = handoff.status.closed

variable {handoff : ContextHandoff} {principalId : PrincipalId}

theorem propose_invariant {fields : ContextHandoffFields}
    (proposed : propose fields = .ok handoff) : ContextInvariant handoff ∧ handoff.status = .proposed := by
  unfold propose at proposed
  by_cases short : fields.expiresAt ≤ fields.proposedAt
  · simp [short] at proposed
  · simp only [if_neg short] at proposed
    cases proposed
    have lifetime := (UtcMillis.not_le_iff _ _).mp short
    constructor
    · constructor <;> simp [lifetime, HandoffStatus.closed]
    · rfl

theorem open_unconsumed (inv : ContextInvariant handoff)
    (active : handoff.status.closed = false) : handoff.consumedAt = none := by
  cases consumed : handoff.consumedAt with
  | none => rfl
  | some time =>
    have status := inv.unconsumed.mp (by rw [consumed]; rfl)
    rw [status] at active
    cases active

theorem step_open {handoff next : ContextHandoff} (step : ContextStep handoff op next) : handoff.status.closed = false := by
  cases step with
  | approved _ _ proposed => rw [proposed]; rfl
  | delivered _ _ approved => rw [approved]; rfl
  | consumed _ _ delivered => rw [delivered]; rfl
  | declined _ active => exact active
  | revoked _ approved => exact open_of_active handoff (.inr approved)
  | expired _ active => exact active
  | failed _ _ approved => rw [approved]; rfl

theorem unread_invariant (inv : ContextInvariant handoff) (active : handoff.status.closed = false) {status : HandoffStatus}
    {failureCode : Option HandoffFailureCode} {resolvedAt : UtcMillis} (outcome : status.closed = true) (other : status ≠ .consumed) :
    ContextInvariant { handoff with status, failureCode, resolvedAt := some resolvedAt } := by
  have unread := open_unconsumed inv active
  have beyond : status ≠ .proposed ∧ status ≠ .approved ∧ status ≠ .delivered := by
    refine ⟨?_, ?_, ?_⟩ <;> intro same <;> rw [same] at outcome <;> cases outcome
  constructor
  case lifetime => exact inv.lifetime
  case approver => exact inv.approver
  case approved => exact inv.approved
  case delivered => exact inv.delivered
  case consumed => exact inv.consumed
  all_goals simp [beyond, unread, outcome, other]

theorem step_invariant {handoff next : ContextHandoff} (inv : ContextInvariant handoff) (step : ContextStep handoff op next) :
    ContextInvariant next := by
  have active := step_open step
  have unread := open_unconsumed inv active
  have unresolved := inv.resolved
  rw [active] at unresolved
  cases step with
  | approved principalId approvedAt proposed later live =>
    have absent := inv.undelivered (.inl proposed)
    constructor
    case lifetime => exact inv.lifetime
    case approved =>
      intro time recorded
      cases recorded
      exact ⟨later, live⟩
    all_goals simp [absent, unread, unresolved, HandoffStatus.closed]
  | delivered approvedAt deliveredAt approved recorded later live =>
    constructor
    case lifetime => exact inv.lifetime
    case approver => exact inv.approver
    case approved => exact inv.approved
    case delivered =>
      intro time timed
      cases timed
      exact ⟨⟨approvedAt, recorded, later⟩, live⟩
    all_goals simp [unread, unresolved, HandoffStatus.closed]
  | consumed deliveredAt consumedAt delivered recorded later live =>
    constructor
    case lifetime => exact inv.lifetime
    case approver => exact inv.approver
    case approved => exact inv.approved
    case delivered => exact inv.delivered
    case consumed =>
      intro time timed
      cases timed
      exact ⟨⟨deliveredAt, recorded, later⟩, live⟩
    all_goals simp [HandoffStatus.closed]
  | _ => refine unread_invariant inv active ?_ ?_ <;> decide

theorem perform_invariant (handoff : ContextHandoff) (op : ContextOp) (inv : ContextInvariant handoff) :
    ContextInvariant (after op.perform handoff) := by
  rcases after_cases handoff op with same | step
  · rw [same]
    exact inv
  · exact step_invariant inv step

theorem closed_stays {handoff : ContextHandoff} (closed : handoff.status.closed = true) (op : ContextOp) :
    after op.perform handoff = handoff := by
  rcases after_cases handoff op with same | step
  · exact same
  · rw [step_open step] at closed
    cases closed

theorem closed_run_stays {handoff : ContextHandoff} (closed : handoff.status.closed = true) (ops : List ContextOp) :
    runAll ContextOp.perform handoff ops = handoff := by
  refine run_all_invariant ContextOp.perform (· = handoff) ?_ ops handoff rfl
  rintro _ op rfl
  exact closed_stays closed op

theorem step_keeps_approver (inv : ContextInvariant handoff)
    (named : handoff.approvedByPrincipalId = some principalId) (step : ContextStep handoff op next) :
    next.approvedByPrincipalId = some principalId := by
  cases step with
  | approved _ _ proposed =>
    have absent := inv.approver
    rw [named, inv.unapproved proposed] at absent
    cases absent
  | _ => exact named

theorem run_keeps_approver {handoff : ContextHandoff} (inv : ContextInvariant handoff) {principalId : PrincipalId}
    (named : handoff.approvedByPrincipalId = some principalId) :
    (runAll ContextOp.perform handoff ops).approvedByPrincipalId = some principalId := by
  have kept := run_all_invariant ContextOp.perform
    (fun state => ContextInvariant state ∧ state.approvedByPrincipalId = some principalId) ?_ ops handoff ⟨inv, named⟩
  · exact kept.2
  · rintro state op ⟨stateInv, stateNamed⟩
    refine ⟨perform_invariant state op stateInv, ?_⟩
    rcases after_cases state op with same | step
    · rw [same]
      exact stateNamed
    · exact step_keeps_approver stateInv stateNamed step

def ApprovedIn (start : ContextHandoff) (ops : List ContextOp) (principalId : PrincipalId) : Prop :=
  ∃ earlier approvedAt later next, ops = earlier ++ .approve principalId approvedAt :: later ∧
    (approve principalId approvedAt).run (runAll ContextOp.perform start earlier) = .ok () next

theorem approved_in_cons (start : ContextHandoff) (op : ContextOp) (rest : List ContextOp) (principalId : PrincipalId)
    (approved : ApprovedIn (after op.perform start) rest principalId) : ApprovedIn start (op :: rest) principalId := by
  obtain ⟨earlier, approvedAt, later, next, split, answered⟩ := approved
  exact ⟨op :: earlier, approvedAt, later, next, by rw [split]; rfl, answered⟩

theorem approver_after (handoff : ContextHandoff) (op : ContextOp) :
    (after op.perform handoff).approvedByPrincipalId = handoff.approvedByPrincipalId ∨
      ∃ principalId approvedAt next, op = .approve principalId approvedAt ∧
        (approve principalId approvedAt).run handoff = .ok () next ∧
        (after op.perform handoff).approvedByPrincipalId = some principalId := by
  cases run : op.perform.run handoff with
  | error failure next =>
    have same := yields_error (perform_yields handoff op) run
    simp [after, run, same]
  | ok result next =>
    have reached : after op.perform handoff = next := by simp [after, run]
    rw [reached]
    rcases yields_ok (perform_yields handoff op) run with same | step
    · exact .inl (by rw [same])
    · cases step with
      | approved principalId approvedAt => exact .inr ⟨principalId, approvedAt, _, rfl, run, rfl⟩
      | _ => exact .inl rfl

theorem named_was_approved (start : ContextHandoff) (ops : List ContextOp) (principalId : PrincipalId)
    (named : (runAll ContextOp.perform start ops).approvedByPrincipalId = some principalId) :
    start.approvedByPrincipalId = some principalId ∨ ApprovedIn start ops principalId := by
  induction ops generalizing start with
  | nil => exact .inl named
  | cons op rest ih =>
    rcases ih _ named with already | later
    · rcases approver_after start op with same | ⟨approver, approvedAt, next, asked, answered, written⟩
      · exact .inl (same ▸ already)
      · rw [written] at already
        cases already
        subst asked
        exact .inr ⟨[], approvedAt, rest, next, rfl, answered⟩
    · exact .inr (approved_in_cons start op rest principalId later)

theorem approved_is_named (inv : ContextInvariant start) (approved : ApprovedIn start ops principalId) :
    (runAll ContextOp.perform start ops).approvedByPrincipalId = some principalId := by
  obtain ⟨earlier, approvedAt, later, next, split, answered⟩ := approved
  have reached := run_all_invariant ContextOp.perform ContextInvariant perform_invariant earlier start inv
  have wrote := (yields_ok (approve_yields _ principalId approvedAt) answered).2
  have now : after (ContextOp.perform (.approve principalId approvedAt)) (runAll ContextOp.perform start earlier) = next := by
    simp [after, ContextOp.perform, answered]
  rw [split, run_all_append, run_all_cons, now]
  refine run_keeps_approver ?_ wrote
  have kept := perform_invariant _ (.approve principalId approvedAt) reached
  rwa [now] at kept

def recordedTimes (handoff : ContextHandoff) : List UtcMillis :=
  handoff.fields.proposedAt :: (handoff.approvedAt.toList ++ handoff.deliveredAt.toList ++ handoff.consumedAt.toList)

theorem recorded_times_ordered (handoff : ContextHandoff) (inv : ContextInvariant handoff) :
    handoff.recordedTimes.Pairwise (· ≤ ·) ∧ ∀ time ∈ handoff.recordedTimes, time < handoff.fields.expiresAt := by
  have lifetime := inv.lifetime
  rw [recordedTimes]
  cases approved : handoff.approvedAt with
  | none =>
    have undelivered : handoff.deliveredAt = none := by
      cases delivered : handoff.deliveredAt with
      | none => rfl
      | some time =>
        obtain ⟨⟨earlier, recorded, _⟩, _⟩ := inv.delivered time delivered
        rw [approved] at recorded
        cases recorded
    have unconsumed : handoff.consumedAt = none := by
      cases consumed : handoff.consumedAt with
      | none => rfl
      | some time =>
        obtain ⟨⟨earlier, recorded, _⟩, _⟩ := inv.consumed time consumed
        rw [undelivered] at recorded
        cases recorded
    simp [undelivered, unconsumed, lifetime]
  | some approvedAt =>
    obtain ⟨proposedLater, approvedLive⟩ := inv.approved approvedAt approved
    cases delivered : handoff.deliveredAt with
    | none =>
      have unconsumed : handoff.consumedAt = none := by
        cases consumed : handoff.consumedAt with
        | none => rfl
        | some time =>
          obtain ⟨⟨earlier, recorded, _⟩, _⟩ := inv.consumed time consumed
          rw [delivered] at recorded
          cases recorded
      simp [unconsumed, lifetime, proposedLater, approvedLive]
    | some deliveredAt =>
      obtain ⟨⟨_, recorded, approvedLater⟩, deliveredLive⟩ := inv.delivered deliveredAt delivered
      rw [approved] at recorded
      cases recorded
      have first := UtcMillis.le_trans _ _ _ proposedLater approvedLater
      cases consumed : handoff.consumedAt with
      | none => simp [lifetime, proposedLater, approvedLive, approvedLater, deliveredLive, first]
      | some consumedAt =>
        obtain ⟨⟨_, held, deliveredLater⟩, consumedLive⟩ := inv.consumed consumedAt consumed
        rw [delivered] at held
        cases held
        have second := UtcMillis.le_trans _ _ _ approvedLater deliveredLater
        have whole := UtcMillis.le_trans _ _ _ first deliveredLater
        simp [lifetime, proposedLater, approvedLive, approvedLater, deliveredLive, deliveredLater, consumedLive,
          first, second, whole]

theorem delivered_is_named (inv : ContextInvariant handoff) (reached : handoff.status = .delivered ∨ handoff.status = .consumed) :
    ∃ principalId, handoff.approvedByPrincipalId = some principalId := by
  have delivered : ∃ time, handoff.deliveredAt = some time := by
    rcases reached with delivered | consumed
    · exact Option.isSome_iff_exists.mp (inv.holding delivered)
    · obtain ⟨time, timed⟩ := Option.isSome_iff_exists.mp (inv.unconsumed.mpr consumed)
      obtain ⟨⟨earlier, recorded, _⟩, _⟩ := inv.consumed time timed
      exact ⟨earlier, recorded⟩
  obtain ⟨time, timed⟩ := delivered
  obtain ⟨⟨approvedAt, approved, _⟩, _⟩ := inv.delivered time timed
  have named := inv.approver
  rw [approved] at named
  exact Option.isSome_iff_exists.mp named

theorem proposed_runs_are_authorised (fields : ContextHandoffFields) (start : ContextHandoff)
    (proposed : propose fields = .ok start) (ops : List ContextOp) : let handoff := runAll ContextOp.perform start ops
    (handoff.status = .delivered ∨ handoff.status = .consumed → ∃ principalId, ApprovedIn start ops principalId) ∧
      (∀ principalId, ApprovedIn start ops principalId → ∀ later,
        (runAll ContextOp.perform handoff later).approvedByPrincipalId = some principalId) ∧
      handoff.recordedTimes.Pairwise (· ≤ ·) ∧
      (∀ time ∈ handoff.recordedTimes, time < handoff.fields.expiresAt) ∧
      (handoff.resolvedAt.isSome = handoff.status.closed ∧
        (handoff.status.closed = true → ∀ later, runAll ContextOp.perform handoff later = handoff)) ∧
      ∀ op failure next, (ContextOp.perform op).run handoff = .error failure next → next = handoff := by
  intro handoff
  obtain ⟨startInv, fresh⟩ := propose_invariant proposed
  have inv : ContextInvariant handoff :=
    run_all_invariant ContextOp.perform ContextInvariant perform_invariant ops start startInv
  obtain ⟨ordered, live⟩ := recorded_times_ordered handoff inv
  refine ⟨?_, ?_, ordered, live, ⟨inv.resolved, closed_run_stays⟩, ?_⟩
  · intro reached
    obtain ⟨principalId, named⟩ := delivered_is_named inv reached
    rcases named_was_approved start ops principalId named with already | approved
    · have unnamed := startInv.approver
      rw [already, startInv.unapproved fresh] at unnamed
      cases unnamed
    · exact ⟨principalId, approved⟩
  · intro principalId approved later
    exact run_keeps_approver inv (approved_is_named startInv approved)
  · intro op failure next failed
    exact yields_error (perform_yields handoff op) failed

def sampleFields : ContextHandoffFields where
  id := ⟨1⟩
  requesterAgentId := ⟨2⟩
  requesterInstanceId := ⟨3⟩
  targetAgentId := ⟨4⟩
  targetInstanceId := ⟨5⟩
  contentId := ⟨6⟩
  proposedAt := 100
  expiresAt := 200

def sampleProposed : ContextHandoff where
  fields := sampleFields
  status := .proposed
  approvedByPrincipalId := none
  approvedAt := none
  deliveredAt := none
  consumedAt := none
  resolvedAt := none
  failureCode := none

theorem authorised_consumption : let ops : List ContextOp := [.markDelivered ⟨105, by decide⟩, .approve ⟨8⟩ ⟨110, by decide⟩,
      .approve ⟨9⟩ ⟨115, by decide⟩, .markDelivered ⟨120, by decide⟩, .consume ⟨150, by decide⟩,
      .decline ⟨160, by decide⟩]
    (runAll ContextOp.perform sampleProposed ops).status = .consumed ∧
      ∃ principalId, ApprovedIn sampleProposed ops principalId :=
  ⟨by decide, (proposed_runs_are_authorised sampleFields sampleProposed (by decide) _).1 (.inr (by decide))⟩

end ContextHandoff

end AgentRoom
