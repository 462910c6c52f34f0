import AgentRoom.Handoff.Targeted

namespace AgentRoom

open Library

namespace TargetedHandoff

def open' (handoff : TargetedHandoff) : Prop := handoff.status = .queued ∨ handoff.status = .delivered

inductive TargetedStep (handoff : TargetedHandoff) : TargetedHandoff → Prop where
  | delivered (deliveredAt : UtcMillis) (queued : handoff.status = .queued)
      (later : handoff.queuedAt ≤ deliveredAt) (live : deliveredAt < handoff.fields.expiresAt) :
      TargetedStep handoff { handoff with
        status := .delivered, deliveredAt := some deliveredAt, version := bumpVersion handoff.version }
  | consumed (deliveredAt consumedAt : UtcMillis) (delivered : handoff.status = .delivered)
      (recorded : handoff.deliveredAt = some deliveredAt) (later : deliveredAt ≤ consumedAt)
      (live : consumedAt < handoff.fields.expiresAt) :
      TargetedStep handoff { handoff with
        status := .consumed, consumedAt := some consumedAt, resolvedAt := some consumedAt,
        version := bumpVersion handoff.version }
  | rejected (status : TargetedHandoffStatus) (failureCode : HandoffFailureCode) (resolvedAt : UtcMillis)
      (coded : status = .declined ∨ status = .failed) (active : handoff.open')
      (later : handoff.latestTargetedActiveTime ≤ resolvedAt) (live : resolvedAt < handoff.fields.expiresAt) :
      TargetedStep handoff { handoff with
        status, failureCode := some failureCode, resolvedAt := some resolvedAt,
        version := bumpVersion handoff.version }
  | revoked (revokedAt : UtcMillis) (active : handoff.open')
      (later : handoff.latestTargetedActiveTime ≤ revokedAt) (live : revokedAt < handoff.fields.expiresAt) :
      TargetedStep handoff { handoff with
        status := .revoked, resolvedAt := some revokedAt, version := bumpVersion handoff.version }
  | expired (observedAt : UtcMillis) (active : handoff.open') (due : handoff.fields.expiresAt ≤ observedAt) :
      TargetedStep handoff { handoff with
        status := .expired, resolvedAt := some observedAt, version := bumpVersion handoff.version }

def Moved (handoff : TargetedHandoff) (_ : Unit) (next : TargetedHandoff) : Prop :=
  next = handoff ∨ TargetedStep handoff next

section

variable (handoff : TargetedHandoff)
include handoff

theorem require_status_ok (expected target : TargetedHandoffStatus) (result : Unit)
    (passed : handoff.requireTargetedStatus expected target = .ok result) : handoff.status = expected := by
  unfold requireTargetedStatus at passed
  by_cases same : handoff.status = expected
  · exact same
  · simp [same] at passed

theorem mark_delivered_yields (deliveredAt : UtcMillis) : Yields (markDelivered deliveredAt) handoff (Moved handoff) := by
  rw [markDelivered]
  refine yields_get ?_
  refine yields_ite (fun _ => yields_pure (.inl rfl)) fun _ => ?_
  refine yields_lift fun _ expected => yields_lift fun _ timed => ?_
  have queued := require_status_ok handoff _ _ _ expected
  obtain ⟨later, live⟩ := active_time_ok timed
  exact .inr (.delivered deliveredAt queued later live)

theorem consume_yields (consumedAt : UtcMillis) : Yields (consume consumedAt) handoff (Moved handoff) := by
  rw [consume]
  refine yields_get ?_
  refine yields_ite (fun _ => yields_pure (.inl rfl)) fun _ => ?_
  refine yields_lift fun _ expected => ?_
  have delivered := require_status_ok handoff _ _ _ expected
  cases recorded : handoff.deliveredAt with
  | none => exact yields_throw
  | some deliveredAt =>
    refine yields_lift fun _ timed => ?_
    obtain ⟨later, live⟩ := active_time_ok timed
    have step := TargetedStep.consumed deliveredAt consumedAt delivered recorded later live
    rw [recorded] at step
    exact .inr step

theorem resolve_active_yields {status : TargetedHandoffStatus}
    {failureCode : HandoffFailureCode} {resolvedAt : UtcMillis} (coded : status = .declined ∨ status = .failed) :
    Yields (resolveActive status failureCode resolvedAt) handoff (Moved handoff) := by
  rw [resolveActive]
  refine yields_get ?_
  refine yields_ite (fun _ => ?_) fun _ => ?_
  · exact yields_ite (fun _ => yields_pure (.inl rfl))
      fun _ => yields_throw
  · refine yields_ite (fun _ => yields_throw) fun active => ?_
    refine yields_lift fun _ timed => ?_
    obtain ⟨later, live⟩ := active_time_ok timed
    exact .inr (.rejected status failureCode resolvedAt coded (not_not.mp active) later live)

theorem revoke_yields (revokedAt : UtcMillis) : Yields (revoke revokedAt) handoff (Moved handoff) := by
  rw [revoke]
  refine yields_get ?_
  refine yields_ite (fun _ => yields_pure (.inl rfl)) fun _ => ?_
  refine yields_ite (fun _ => yields_throw) fun active => ?_
  refine yields_lift fun _ timed => ?_
  obtain ⟨later, live⟩ := active_time_ok timed
  exact .inr (.revoked revokedAt (not_not.mp active) later live)

theorem expire_yields (observedAt : UtcMillis) : Yields (expire observedAt) handoff (Moved handoff) := by
  rw [expire]
  refine yields_get ?_
  refine yields_ite (fun _ => yields_pure (.inl rfl)) fun _ => ?_
  refine yields_ite (fun _ => yields_throw) fun active => ?_
  refine yields_ite (fun _ => yields_throw) fun due => ?_
  exact .inr (.expired observedAt (not_not.mp active) ((UtcMillis.not_lt_iff _ _).mp due))

theorem perform_yields (op : TargetedOp) : Yields op.perform handoff (Moved handoff) := by
  cases op with
  | markDelivered deliveredAt => exact mark_delivered_yields handoff deliveredAt
  | consume consumedAt => exact consume_yields handoff consumedAt
  | decline failureCode declinedAt =>
    exact resolve_active_yields handoff (.inl rfl)
  | revoke revokedAt => exact revoke_yields handoff revokedAt
  | expire observedAt => exact expire_yields handoff observedAt
  | fail failureCode failedAt => exact resolve_active_yields handoff (.inr rfl)

theorem after_cases (op : TargetedOp) : after op.perform handoff = handoff ∨ TargetedStep handoff (after op.perform handoff) :=
  after_of_yields
    (perform_yields handoff op) (.inl rfl) fun _ _ moved => moved

end

structure TargetedInvariant (handoff : TargetedHandoff) : Prop where
  lifetime : handoff.fields.createdAt < handoff.fields.expiresAt
  queuedIn : handoff.fields.createdAt ≤ handoff.queuedAt ∧ handoff.queuedAt < handoff.fields.expiresAt
  stages : stagesAreInvalid handoff.fields handoff.queuedAt handoff.deliveredAt handoff.consumedAt = false
  shape : shapeIsValid handoff.fields handoff.status handoff.queuedAt handoff.deliveredAt handoff.consumedAt
    handoff.resolvedAt handoff.failureCode = true

def Counted (handoff : TargetedHandoff) : Prop :=
  handoff.version = (if handoff.deliveredAt.isSome then 1 else 0) + if handoff.status.isTerminal then 1 else 0

variable {handoff : TargetedHandoff}

theorem invariant_restores (inv : TargetedInvariant handoff) :
    restore handoff.fields handoff.status handoff.queuedAt handoff.deliveredAt handoff.consumedAt handoff.resolvedAt
      handoff.failureCode handoff.version = .ok handoff := by
  have lifetime : ¬ handoff.fields.expiresAt ≤ handoff.fields.createdAt :=
    (UtcMillis.not_le_iff _ _).mpr inv.lifetime
  have queuedIn : ¬ (handoff.queuedAt < handoff.fields.createdAt ∨ handoff.fields.expiresAt ≤ handoff.queuedAt) := by
    rw [not_or]
    exact ⟨(UtcMillis.not_lt_iff _ _).mpr inv.queuedIn.1, (UtcMillis.not_le_iff _ _).mpr inv.queuedIn.2⟩
  simp only [restore, validateTargetedLifetime, if_neg lifetime, if_neg queuedIn, validateTargetedTimeline, inv.stages, inv.shape]
  rfl

theorem queue_invariant {fields : TargetedHandoffFields}
    (queued : queue fields = .ok handoff) : TargetedInvariant handoff ∧ Counted handoff ∧ handoff.version = 0 := by
  unfold queue validateTargetedLifetime at queued
  by_cases short : fields.expiresAt ≤ fields.createdAt
  · simp only [if_pos short] at queued
    cases queued
  · simp only [if_neg short] at queued
    cases queued
    have lifetime := (UtcMillis.not_le_iff _ _).mp short
    exact ⟨⟨lifetime, ⟨UtcMillis.le_refl _, lifetime⟩, rfl, rfl⟩, rfl, rfl⟩

theorem queued_empty (inv : TargetedInvariant handoff) (status : handoff.status = .queued) :
    handoff.deliveredAt = none ∧ handoff.consumedAt = none ∧ handoff.resolvedAt = none ∧ handoff.failureCode = none := by
  have shape := inv.shape
  simpa [shapeIsValid, status, and_assoc] using shape

theorem delivered_only (inv : TargetedInvariant handoff) (status : handoff.status = .delivered) :
    handoff.deliveredAt.isSome = true ∧ handoff.consumedAt = none ∧ handoff.resolvedAt = none ∧
      handoff.failureCode = none := by
  have shape := inv.shape
  simpa [shapeIsValid, status, and_assoc] using shape

theorem open_fields (inv : TargetedInvariant handoff) (active : handoff.open') :
    handoff.consumedAt = none ∧ handoff.resolvedAt = none ∧ handoff.failureCode = none := by
  cases active with
  | inl queued => exact (queued_empty inv queued).2
  | inr delivered => exact (delivered_only inv delivered).2

theorem step_invariant (handoff next : TargetedHandoff) (inv : TargetedInvariant handoff)
    (step : TargetedStep handoff next) : TargetedInvariant next := by
  have stages := inv.stages
  cases step with
  | delivered deliveredAt queued later live =>
    obtain ⟨_, consumed, resolved, failure⟩ := queued_empty inv queued
    refine ⟨inv.lifetime, inv.queuedIn, ?_, ?_⟩
    · simpa [stagesAreInvalid, consumed, UtcMillis.not_lt_iff, UtcMillis.not_le_iff] using ⟨later, live⟩
    · simp [shapeIsValid, consumed, resolved, failure]
  | consumed deliveredAt consumedAt delivered recorded later live =>
    obtain ⟨_, consumed, resolved, failure⟩ := delivered_only inv delivered
    refine ⟨inv.lifetime, inv.queuedIn, ?_, ?_⟩
    · simp only [stagesAreInvalid, recorded, consumed, Option.any_some, Option.any_none, Bool.or_false] at stages
      simp [stagesAreInvalid, recorded, stages, UtcMillis.not_lt_iff, UtcMillis.not_le_iff, later, live]
    · simp [shapeIsValid, recorded, failure]
  | rejected status failureCode resolvedAt coded active later live =>
    obtain ⟨consumed, _, _⟩ := open_fields inv active
    refine ⟨inv.lifetime, inv.queuedIn, stages, ?_⟩
    rcases coded with declined | failed
    · simpa [shapeIsValid, declined, consumed, activeResolutionIsValid] using ⟨later, live⟩
    · simpa [shapeIsValid, failed, consumed, activeResolutionIsValid] using ⟨later, live⟩
  | revoked revokedAt active later live =>
    obtain ⟨consumed, _, failure⟩ := open_fields inv active
    refine ⟨inv.lifetime, inv.queuedIn, stages, ?_⟩
    simpa [shapeIsValid, consumed, failure, activeResolutionIsValid] using ⟨later, live⟩
  | expired observedAt active due =>
    obtain ⟨consumed, _, failure⟩ := open_fields inv active
    refine ⟨inv.lifetime, inv.queuedIn, stages, ?_⟩
    simpa [shapeIsValid, consumed, failure] using due

theorem open_not_terminal {handoff : TargetedHandoff} (active : handoff.open') : handoff.status.isTerminal = false := by
  cases active with
  | inl queued => simp [queued, TargetedHandoffStatus.isTerminal]
  | inr delivered => simp [delivered, TargetedHandoffStatus.isTerminal]

theorem step_open (handoff next : TargetedHandoff) (step : TargetedStep handoff next) : handoff.open' := by
  cases step with
  | delivered _ queued => exact .inl queued
  | consumed _ _ delivered => exact .inr delivered
  | rejected _ _ _ _ active => exact active
  | revoked _ active => exact active
  | expired _ active => exact active

theorem bump_counted (counted : Counted handoff) : bumpVersion handoff.version = handoff.version + 1 := by
  have low : handoff.version ≤ 2 := by
    rw [counted]
    split <;> split <;> omega
  unfold bumpVersion u64Max
  omega

theorem step_counted (inv : TargetedInvariant handoff) (counted : Counted handoff)
    (step : TargetedStep handoff next) : Counted next ∧ next.version = handoff.version + 1 := by
  have bumped := bump_counted counted
  have stage : handoff.version = if handoff.deliveredAt.isSome then 1 else 0 := by
    simpa [Counted, open_not_terminal (step_open handoff next step)] using counted
  have raised : bumpVersion handoff.version = (if handoff.deliveredAt.isSome then 1 else 0) + 1 := by
    rw [bumped, ← stage]
  cases step with
  | delivered deliveredAt queued later live =>
    have absent := (queued_empty inv queued).1
    exact ⟨by simp [Counted, raised, TargetedHandoffStatus.isTerminal, absent], bumped⟩
  | consumed _ _ _ recorded =>
    exact ⟨by simp [Counted, raised, TargetedHandoffStatus.isTerminal], bumped⟩
  | rejected status _ _ coded =>
    have terminal : status.isTerminal = true := by
      rcases coded with declined | failed
      · simp [declined, TargetedHandoffStatus.isTerminal]
      · simp [failed, TargetedHandoffStatus.isTerminal]
    exact ⟨by simp [Counted, raised, terminal], bumped⟩
  | revoked => exact ⟨by simp [Counted, raised, TargetedHandoffStatus.isTerminal], bumped⟩
  | expired => exact ⟨by simp [Counted, raised, TargetedHandoffStatus.isTerminal], bumped⟩

def Sound (handoff : TargetedHandoff) : Prop := TargetedInvariant handoff ∧ Counted handoff

theorem perform_sound (handoff : TargetedHandoff) (op : TargetedOp) (sound : Sound handoff) :
    Sound (after op.perform handoff) := by
  rcases after_cases handoff op with same | step
  · rw [same]
    exact sound
  · exact ⟨step_invariant handoff _ sound.1 step, (step_counted sound.1 sound.2 step).1⟩

def recordedTimes (handoff : TargetedHandoff) : List UtcMillis :=
  handoff.queuedAt :: (handoff.deliveredAt.toList ++ handoff.consumedAt.toList ++ handoff.resolvedAt.toList)

theorem delivered_between (inv : TargetedInvariant handoff) {deliveredAt : UtcMillis}
    (recorded : handoff.deliveredAt = some deliveredAt) :
    handoff.queuedAt ≤ deliveredAt ∧ deliveredAt < handoff.fields.expiresAt := by
  have stages := inv.stages
  simp only [stagesAreInvalid, recorded, Option.any_some, Bool.or_eq_false_iff, decide_eq_false_iff_not] at stages
  exact ⟨(UtcMillis.not_lt_iff _ _).mp stages.1.1, (UtcMillis.not_le_iff _ _).mp stages.1.2⟩

theorem consumed_between (inv : TargetedInvariant handoff) {consumedAt : UtcMillis}
    (recorded : handoff.consumedAt = some consumedAt) :
    (∃ deliveredAt, handoff.deliveredAt = some deliveredAt ∧ deliveredAt ≤ consumedAt) ∧
      consumedAt < handoff.fields.expiresAt ∧ handoff.resolvedAt = some consumedAt ∧ handoff.status = .consumed := by
  have stages := inv.stages
  have shape := inv.shape
  have status : handoff.status = .consumed := by
    by_contra other
    cases status : handoff.status <;> simp [shapeIsValid, status, recorded] at shape other
  cases delivered : handoff.deliveredAt with
  | none => simp [shapeIsValid, status, delivered] at shape
  | some deliveredAt =>
    simp only [stagesAreInvalid, recorded, delivered, Option.any_some, Option.all_some, Bool.or_eq_false_iff,
      decide_eq_false_iff_not] at stages
    simp only [shapeIsValid, status, recorded, Bool.and_eq_true, beq_iff_eq] at shape
    exact ⟨⟨deliveredAt, rfl, (UtcMillis.not_lt_iff _ _).mp stages.2.1⟩, (UtcMillis.not_le_iff _ _).mp stages.2.2,
      shape.1.2, status⟩

-- Where nothing was consumed, a resolution follows the last stage, and only an
-- expiry is not inside the authorised period.
theorem resolved_between (inv : TargetedInvariant handoff) {resolvedAt : UtcMillis}
    (unread : handoff.consumedAt = none) (recorded : handoff.resolvedAt = some resolvedAt) :
    handoff.latestTargetedActiveTime ≤ resolvedAt ∧
      (handoff.status ≠ .expired → resolvedAt < handoff.fields.expiresAt) := by
  have shape := inv.shape
  have latest : handoff.latestTargetedActiveTime < handoff.fields.expiresAt := by
    rw [latestTargetedActiveTime]
    cases delivered : handoff.deliveredAt with
    | none => exact inv.queuedIn.2
    | some deliveredAt => exact (delivered_between inv delivered).2
  cases status : handoff.status with
  | queued => simp [shapeIsValid, status, recorded] at shape
  | delivered => simp [shapeIsValid, status, recorded] at shape
  | consumed => simp [shapeIsValid, status, recorded, unread] at shape
  | declined | failed | revoked =>
    simp only [shapeIsValid, status, recorded, activeResolutionIsValid, Option.any_some, Bool.and_eq_true,
      decide_eq_true_eq] at shape
    exact ⟨shape.1.2.1, fun _ => shape.1.2.2⟩
  | expired =>
    simp only [shapeIsValid, status, recorded, Option.any_some, Bool.and_eq_true, decide_eq_true_eq] at shape
    exact ⟨Nat.le_of_lt (Nat.lt_of_lt_of_le latest shape.1.2), fun live => (live rfl).elim⟩

theorem recorded_times_ordered (handoff : TargetedHandoff) (inv : TargetedInvariant handoff) :
    handoff.recordedTimes.Pairwise (· ≤ ·) ∧
      (handoff.status ≠ .expired → ∀ time ∈ handoff.recordedTimes, time < handoff.fields.expiresAt) := by
  have queued := inv.queuedIn.2
  rw [recordedTimes]
  cases consumed : handoff.consumedAt with
  | some consumedAt =>
    obtain ⟨⟨deliveredAt, delivered, later⟩, live, resolved, _⟩ := consumed_between inv consumed
    obtain ⟨after, before⟩ := delivered_between inv delivered
    have whole := UtcMillis.le_trans _ _ _ after later
    have last := UtcMillis.le_refl consumedAt
    simp [delivered, resolved, after, before, later, whole, live, queued, last]
  | none =>
    cases resolved : handoff.resolvedAt with
    | none =>
      cases delivered : handoff.deliveredAt with
      | none => simp [queued]
      | some deliveredAt =>
        obtain ⟨after, before⟩ := delivered_between inv delivered
        simp [queued, after, before]
    | some resolvedAt =>
      obtain ⟨later, live⟩ := resolved_between inv consumed resolved
      unfold latestTargetedActiveTime at later
      cases delivered : handoff.deliveredAt with
      | none =>
        rw [delivered] at later
        have last : handoff.queuedAt ≤ resolvedAt := later
        simpa [last, queued] using live
      | some deliveredAt =>
        obtain ⟨after, before⟩ := delivered_between inv delivered
        rw [delivered] at later
        have last : deliveredAt ≤ resolvedAt := later
        have whole := UtcMillis.le_trans _ _ _ after last
        simpa [last, after, before, whole, queued] using live

theorem terminal_stays {handoff : TargetedHandoff} (terminal : handoff.status.isTerminal = true) (op : TargetedOp) :
    after op.perform handoff = handoff := by
  rcases after_cases handoff op with same | step
  · exact same
  · rw [open_not_terminal (step_open handoff _ step)] at terminal
    cases terminal

theorem terminal_run_stays {handoff : TargetedHandoff} (terminal : handoff.status.isTerminal = true)
    (ops : List TargetedOp) : runAll TargetedOp.perform handoff ops = handoff := by
  refine run_all_invariant TargetedOp.perform (· = handoff) ?_ ops handoff rfl
  rintro _ op rfl
  exact terminal_stays terminal op

theorem queued_runs_keep_the_lifecycle (fields : TargetedHandoffFields) (start : TargetedHandoff)
    (queued : queue fields = .ok start) (ops : List TargetedOp) : let handoff := runAll TargetedOp.perform start ops
    restore handoff.fields handoff.status handoff.queuedAt handoff.deliveredAt handoff.consumedAt handoff.resolvedAt
        handoff.failureCode handoff.version = .ok handoff ∧
      handoff.recordedTimes.Pairwise (· ≤ ·) ∧
      (handoff.status ≠ .expired → ∀ time ∈ handoff.recordedTimes, time < handoff.fields.expiresAt) ∧
      (handoff.status.isTerminal = true → ∀ later, runAll TargetedOp.perform handoff later = handoff) ∧
      handoff.version = start.version + changes TargetedOp.perform start ops := by
  intro handoff
  obtain ⟨inv, counted, _⟩ := queue_invariant queued
  have sound : Sound handoff := run_all_invariant TargetedOp.perform Sound perform_sound ops start ⟨inv, counted⟩
  obtain ⟨ordered, live⟩ := recorded_times_ordered handoff sound.1
  have versions : handoff.version = start.version + changes TargetedOp.perform start ops := by
    refine counter_of_changes TargetedOp.perform Sound TargetedHandoff.version perform_sound ?_ ops start ⟨inv, counted⟩
    intro state op stateSound
    rcases after_cases state op with same | step
    · exact .inl same
    · exact .inr (step_counted stateSound.1 stateSound.2 step).2
  exact ⟨invariant_restores sound.1, ordered, live, terminal_run_stays, versions⟩

def sampleFields : TargetedHandoffFields where
  id := ⟨1⟩
  principalId := ⟨2⟩
  sourceMessageId := ⟨3⟩
  targetAgentId := ⟨4⟩
  targetInstanceId := ⟨5⟩
  contentId := ⟨6⟩
  createdAt := 100
  expiresAt := 200

def sampleQueued : TargetedHandoff where
  fields := sampleFields
  status := .queued
  queuedAt := 100
  deliveredAt := none
  consumedAt := none
  resolvedAt := none
  failureCode := none
  version := 0

theorem lifecycle_of_a_consumed_handoff :
    let ops : List TargetedOp := [.markDelivered ⟨120, by decide⟩, .markDelivered ⟨130, by decide⟩,
      .consume ⟨110, by decide⟩, .consume ⟨150, by decide⟩, .revoke ⟨160, by decide⟩]
    (runAll TargetedOp.perform sampleQueued ops).version = 2 ∧ (runAll TargetedOp.perform sampleQueued ops).version =
        sampleQueued.version + changes TargetedOp.perform sampleQueued ops :=
  ⟨by decide, (queued_runs_keep_the_lifecycle sampleFields sampleQueued (by decide) _).2.2.2.2⟩

end TargetedHandoff

end AgentRoom
