import AgentRoom.Federation.Ingress

namespace AgentRoom.Federation

open Library

namespace FederationIngressGuard

def exhausted (guard : FederationIngressGuard) (key : RateKey) (now : UtcMillis) (limit : Nat) : Bool :=
  (guard.counters key).any fun counter =>
    now.value - counter.startedAt.value < guard.limits.window.value && limit ≤ counter.count

def charged (guard : FederationIngressGuard) (key : RateKey) (now : UtcMillis) : WindowCounter :=
  let counter := counterAt (guard.counters key) now guard.limits.window
  { counter with count := min (counter.count + 1) u32Max }

def charge (guard : FederationIngressGuard) (key : RateKey) (now : UtcMillis) : FederationIngressGuard :=
  { guard with counters := Function.update guard.counters key (some (guard.charged key now)) }

section

variable (guard : FederationIngressGuard) (key other : RateKey) (now : UtcMillis) (limit : Nat)

theorem charge_same : (guard.charge key now).counters key = some (guard.charged key now) :=
  Function.update_self ..

theorem charge_other (apart : other ≠ key) : (guard.charge key now).counters other = guard.counters other :=
  Function.update_of_ne apart ..

theorem exhausted_charge_other (apart : other ≠ key) :
    (guard.charge key now).exhausted other now limit = guard.exhausted other now limit := by
  rw [exhausted, exhausted, charge_other guard key other now apart]
  rfl

theorem counter_in_window (held : guard.counters key = some counter)
    (current : now.value - counter.startedAt.value < guard.limits.window.value) :
    counterAt (guard.counters key) now guard.limits.window = counter := by
  have running : ¬ guard.limits.window.value ≤ now.value - counter.startedAt.value := by omega
  simp [counterAt, held, running]

theorem not_exhausted_count (positive : 0 < limit) (free : guard.exhausted key now limit = false) :
    (counterAt (guard.counters key) now guard.limits.window).count < limit := by
  cases held : guard.counters key with
  | none => simpa [counterAt] using positive
  | some counter =>
    by_cases gone : guard.limits.window.value ≤ now.value - counter.startedAt.value
    · simpa [counterAt, gone] using positive
    · have room : ¬ limit ≤ counter.count := by
        intro full
        simp only [exhausted, held, Option.any_some, Bool.and_eq_false_iff, decide_eq_false_iff_not] at free
        omega
      simp only [counterAt, if_neg gone]
      omega

theorem charged_differs (positive : 0 < limit) (fits : limit ≤ u32Max) (free : guard.exhausted key now limit = false) :
    (guard.charge key now).counters key ≠ guard.counters key := by
  rw [charge_same]
  intro same
  have below := not_exhausted_count guard key now limit positive free
  by_cases current : now.value - (guard.charged key now).startedAt.value < guard.limits.window.value
  · have held := counter_in_window guard key now same.symm current
    have counts : (guard.charged key now).count = min ((guard.charged key now).count + 1) u32Max := by
      conv_lhs => rw [charged, held]
    rw [held] at below
    omega
  · have elapsed : guard.limits.window.value ≤ now.value - (guard.charged key now).startedAt.value := by omega
    have started : (guard.charged key now).startedAt = now := by
      rw [charged, ← same]
      simp [counterAt, elapsed]
    rw [started] at elapsed
    have := guard.limits.window.positive
    omega

theorem consume_exhausted (fits : guard.limits.window.value ≤ i64Max) (full : guard.exhausted key now limit = true) :
    (consumeWindow key now limit).run guard = .ok false guard := by
  cases held : guard.counters key with
  | none => simp [exhausted, held] at full
  | some counter =>
    have parts : now.value - counter.startedAt.value < guard.limits.window.value ∧ limit ≤ counter.count := by
      simpa [exhausted, held] using full
    have same := counter_in_window guard key now held parts.1
    have representable : ¬ i64Max < guard.limits.window.value := by omega
    have kept : Function.update guard.counters key (some counter) = guard.counters := by
      rw [← held]
      exact Function.update_eq_self ..
    change (if i64Max < guard.limits.window.value then throw DomainError.timeOverflow else _ :
      IngressMethod Bool) guard = _
    rw [if_neg representable]
    simp only [same, if_pos parts.2, kept]
    rfl

theorem consume_free (fits : guard.limits.window.value ≤ i64Max) (positive : 0 < limit)
    (free : guard.exhausted key now limit = false) :
    (consumeWindow key now limit).run guard = .ok true (guard.charge key now) := by
  have below := not_exhausted_count guard key now limit positive free
  have representable : ¬ i64Max < guard.limits.window.value := by omega
  have spare : ¬ limit ≤ (counterAt (guard.counters key) now guard.limits.window).count := by omega
  change (if i64Max < guard.limits.window.value then throw DomainError.timeOverflow else _ :
    IngressMethod Bool) guard = _
  rw [if_neg representable]
  simp only [if_neg spare]
  rfl

theorem consume_overflow (long : i64Max < guard.limits.window.value) :
    (consumeWindow key now limit).run guard = .error .timeOverflow guard := by
  change (if i64Max < guard.limits.window.value then throw DomainError.timeOverflow else _ :
    IngressMethod Bool) guard = _
  rw [if_pos long]
  rfl

theorem windows_exhausted
    (fits : guard.limits.window.value ≤ i64Max) (full : guard.exhausted key now (max (base / divisor) 1) = true) :
    (consumeWindows now divisor ((key, base, scope) :: rest)).run guard = .ok (some scope) guard := by
  have consumed := consume_exhausted guard key now _ fits full
  simp only [EStateM.run] at consumed ⊢
  simp only [consumeWindows, bind, EStateM.bind]
  rw [consumed]
  rfl

theorem windows_free (scope : FederationRateScope) (rest : List (RateKey × Nat × FederationRateScope))
    (fits : guard.limits.window.value ≤ i64Max) (free : guard.exhausted key now (max (base / divisor) 1) = false) :
    (consumeWindows now divisor ((key, base, scope) :: rest)).run guard =
      (consumeWindows now divisor rest).run (guard.charge key now) := by
  have positive : 0 < max (base / divisor) 1 := by omega
  have consumed := consume_free guard key now _ fits positive free
  simp only [EStateM.run] at consumed ⊢
  simp only [consumeWindows, bind, EStateM.bind]
  rw [consumed]
  rfl

theorem windows_overflow (divisor base : Nat) (scope : FederationRateScope)
    (rest : List (RateKey × Nat × FederationRateScope)) (long : i64Max < guard.limits.window.value) :
    (consumeWindows now divisor ((key, base, scope) :: rest)).run guard = .error .timeOverflow guard := by
  have consumed := consume_overflow guard key now (max (base / divisor) 1) long
  simp only [EStateM.run] at consumed ⊢
  simp only [consumeWindows, bind, EStateM.bind]
  rw [consumed]

end

section

variable (guard : FederationIngressGuard) (call : Call)

def Call.governance (call : Call) : FederationGovernanceDecision :=
  call.policies.evaluate call.event.peer call.event.roomId call.event.senderUserId call.event.receivedAt

def Call.limit (call : Call) (base : Nat) : Nat :=
  max (base / rateDivisor call.governance.disposition call.reputation.tier) 1

def Call.peerKey (call : Call) : RateKey := .peer call.event.peer.value

def Call.roomKey (call : Call) : RateKey := .room call.event.peer.value call.event.roomId

def Call.userKey (call : Call) : RateKey := .user call.event.peer.value call.event.senderUserId

def peerExhausted : Bool := guard.exhausted call.peerKey call.event.receivedAt (call.limit guard.limits.peerPerWindow)

def roomExhausted : Bool := guard.exhausted call.roomKey call.event.receivedAt (call.limit guard.limits.roomPerWindow)

def userExhausted : Bool := guard.exhausted call.userKey call.event.receivedAt (call.limit guard.limits.userPerWindow)

structure Reaches (guard : FederationIngressGuard) (call : Call) : Prop where
  open_ : call.governance.disposition ≠ .block ∧ call.governance.disposition ≠ .quarantine
  trusted : call.reputation.tier ≠ .hostile
  fresh : (guard.prune call.event.receivedAt).replayExpirations call.event.eventId = none

theorem limit_positive : 0 < call.limit base := by
  rw [Call.limit]
  omega

theorem limit_fits (fits : base ≤ u32Max) : call.limit base ≤ u32Max := by
  have smaller : base / rateDivisor call.governance.disposition call.reputation.tier ≤ base := Nat.div_le_self ..
  have one : 1 ≤ u32Max := by decide
  rw [Call.limit]
  omega

def budgets : IngressMethod (Option FederationRateScope) :=
  consumeWindows call.event.receivedAt (rateDivisor call.governance.disposition call.reputation.tier)
    (rateChecks guard.limits call.event)

def decided (call : Call) : Option FederationRateScope → IngressMethod FederationIngressOutcome
  | some scope => return .reject (.rateLimited scope) call.governance.matchingRuleIds
  | none => settle call.event call.governance.matchingRuleIds

theorem inspect_reaching (reaches : Reaches guard call) :
    (perform call).run guard = (budgets guard call >>= decided call).run (guard.prune call.event.receivedAt) := by
  have held : ¬ ((guard.prune call.event.receivedAt).replayExpirations call.event.eventId).isSome = true := by
    simp [reaches.fresh]
  change (if call.governance.disposition = .block then _
    else if call.governance.disposition = .quarantine then _
    else if call.reputation.tier = .hostile then _
    else _ : IngressMethod FederationIngressOutcome) (guard.prune call.event.receivedAt) = _
  rw [if_neg reaches.open_.1, if_neg reaches.open_.2, if_neg reaches.trusted]
  change (if ((guard.prune call.event.receivedAt).replayExpirations call.event.eventId).isSome = true then _ else _ :
    IngressMethod FederationIngressOutcome) (guard.prune call.event.receivedAt) = _
  rw [if_neg held]
  rfl

theorem keys_apart : call.roomKey ≠ call.peerKey ∧ call.userKey ≠ call.peerKey ∧ call.userKey ≠ call.roomKey :=
  ⟨fun same => (nomatch same), fun same => (nomatch same), fun same => (nomatch same)⟩

def chargePeer : FederationIngressGuard := guard.charge call.peerKey call.event.receivedAt

def chargeRoom : FederationIngressGuard := (guard.chargePeer call).charge call.roomKey call.event.receivedAt

def chargeUser : FederationIngressGuard := (guard.chargeRoom call).charge call.userKey call.event.receivedAt

theorem room_after_peer :
    (guard.chargePeer call).exhausted call.roomKey call.event.receivedAt (call.limit guard.limits.roomPerWindow) =
      guard.roomExhausted call :=
  exhausted_charge_other guard _ _ _ _ (keys_apart call).1

theorem user_after_room :
    (guard.chargeRoom call).exhausted call.userKey call.event.receivedAt (call.limit guard.limits.userPerWindow) =
      guard.userExhausted call := by
  rw [chargeRoom, exhausted_charge_other _ _ _ _ _ (keys_apart call).2.2, chargePeer,
    exhausted_charge_other _ _ _ _ _ (keys_apart call).2.1]
  rfl

variable (fits : guard.limits.window.value ≤ i64Max)

include fits

theorem budgets_peer (full : guard.peerExhausted call = true) : (budgets guard call).run guard = .ok (some .peer) guard :=
  windows_exhausted guard call.peerKey call.event.receivedAt fits full

theorem budgets_room (free : guard.peerExhausted call = false) (full : guard.roomExhausted call = true) :
    (budgets guard call).run guard = .ok (some .room) (guard.chargePeer call) := by
  rw [← room_after_peer] at full
  have first := windows_free guard call.peerKey call.event.receivedAt .peer
    [(call.roomKey, guard.limits.roomPerWindow, .room), (call.userKey, guard.limits.userPerWindow, .user)] fits free
  exact first.trans (windows_exhausted (guard.chargePeer call) call.roomKey call.event.receivedAt fits full)

variable (peerFree : guard.peerExhausted call = false) (roomFree : guard.roomExhausted call = false)

include peerFree roomFree

theorem budgets_last : (budgets guard call).run guard =
      (consumeWindows call.event.receivedAt (rateDivisor call.governance.disposition call.reputation.tier)
        [(call.userKey, guard.limits.userPerWindow, .user)]).run (guard.chargeRoom call) := by
  rw [← room_after_peer] at roomFree
  have first := windows_free guard call.peerKey call.event.receivedAt .peer
    [(call.roomKey, guard.limits.roomPerWindow, .room), (call.userKey, guard.limits.userPerWindow, .user)] fits peerFree
  have second := windows_free (guard.chargePeer call) call.roomKey call.event.receivedAt .room
    [(call.userKey, guard.limits.userPerWindow, .user)] fits roomFree
  exact first.trans second

theorem budgets_user (full : guard.userExhausted call = true) :
    (budgets guard call).run guard = .ok (some .user) (guard.chargeRoom call) := by
  rw [budgets_last guard call fits peerFree roomFree]
  rw [← user_after_room] at full
  exact windows_exhausted (guard.chargeRoom call) call.userKey call.event.receivedAt fits full

theorem budgets_free (free : guard.userExhausted call = false) :
    (budgets guard call).run guard = .ok none (guard.chargeUser call) := by
  rw [budgets_last guard call fits peerFree roomFree]
  rw [← user_after_room] at free
  exact windows_free (guard.chargeRoom call) call.userKey call.event.receivedAt .user [] fits free

end

section

variable (guard : FederationIngressGuard) (event : FederationIngressEvent) {ids : List FederationRuleId}

def remembering (expiration : UtcMillis) : FederationIngressGuard :=
  { guard with replayExpirations := Function.update guard.replayExpirations event.eventId (some expiration) }

theorem remember_run : (rememberReplay event).run guard =
      match event.receivedAt.checkedAdd guard.limits.replayTtl with
      | .ok expiration => .ok () (guard.remembering event expiration)
      | .error failure => .error failure guard := by
  change (lift (event.receivedAt.checkedAdd guard.limits.replayTtl) >>= fun expiration =>
    set (guard.remembering event expiration) : IngressMethod Unit) guard = _
  cases event.receivedAt.checkedAdd guard.limits.replayTtl <;> rfl

theorem remember_leaves (reason : FederationQuarantineReason) {post : FederationIngressOutcome → FederationIngressGuard → Prop}
    (remembered : ∀ expiration, event.receivedAt.checkedAdd guard.limits.replayTtl = .ok expiration →
      post (.quarantine reason ids) (guard.remembering event expiration)) (overflow : failed guard) :
    Leaves (rememberReplay event >>= fun _ => pure (.quarantine reason ids)) guard post failed := by
  refine leaves_bind (fun _ next => ∃ expiration,
    event.receivedAt.checkedAdd guard.limits.replayTtl = .ok expiration ∧ next = guard.remembering event expiration) ?_ ?_
  · rw [Leaves]
    rw [remember_run]
    cases time : event.receivedAt.checkedAdd guard.limits.replayTtl with
    | ok expiration => exact ⟨expiration, rfl, rfl⟩
    | error failure => exact overflow
  · intro _ next found
    obtain ⟨expiration, time, rfl⟩ := found
    exact leaves_pure (remembered expiration time)

theorem settle_run : (settle event ids).run guard =
      match event.receivedAt.checkedAdd guard.limits.replayTtl with
      | .error failure => .error failure guard
      | .ok expiration =>
        if guard.hasStateConflict event then .ok (.quarantine .stateConflict ids) (guard.remembering event expiration)
        else .ok (accepting event.eventType ids) (rememberState event (guard.remembering event expiration)) := by
  have remembered := remember_run guard event
  simp only [EStateM.run] at remembered ⊢
  change (if guard.hasStateConflict event = true then
      rememberReplay event >>= fun _ => pure (.quarantine .stateConflict ids)
    else rememberReplay event >>= fun _ => modify (rememberState event) >>= fun _ =>
      pure (accepting event.eventType ids) : IngressMethod FederationIngressOutcome) guard = _
  by_cases conflict : guard.hasStateConflict event = true
  · simp only [if_pos conflict, bind, EStateM.bind]
    rw [remembered]
    cases event.receivedAt.checkedAdd guard.limits.replayTtl <;> rfl
  · simp only [if_neg conflict, bind, EStateM.bind]
    rw [remembered]
    cases event.receivedAt.checkedAdd guard.limits.replayTtl <;> rfl

theorem accepting_not_rejected : (accepting eventType ids).rejected = false := by
  rw [accepting]
  cases EventCompatibility.classify eventType <;> rfl

structure Stopped (guard : FederationIngressGuard) (call : Call) (outcome : FederationIngressOutcome)
    (next : FederationIngressGuard) : Prop where
  refused : outcome.accepted = false ∧ outcome.rateLimited = false
  rejected : outcome.rejected = true → next = guard.prune call.event.receivedAt
  remembered : next = guard.prune call.event.receivedAt ∨ ∃ expiration,
    call.event.receivedAt.checkedAdd guard.limits.replayTtl = .ok expiration ∧
      next = (guard.prune call.event.receivedAt).remembering call.event expiration

theorem inspect_stopped {call : Call} (stopped : ¬ Reaches guard call) :
    Leaves (perform call) guard (Stopped guard call) (fun next => next = guard.prune call.event.receivedAt) := by
  have start : Leaves (perform call) guard (Stopped guard call) (fun next => next = guard.prune call.event.receivedAt) =
      Leaves (if call.governance.disposition = .block then
          pure (.reject .governanceBlock call.governance.matchingRuleIds)
        else if call.governance.disposition = .quarantine then
          rememberReplay call.event >>= fun _ => pure (.quarantine .governanceRule call.governance.matchingRuleIds)
        else if call.reputation.tier = .hostile then
          rememberReplay call.event >>= fun _ => pure (.quarantine .hostileReputation call.governance.matchingRuleIds)
        else do
          let guard ← get
          if (guard.replayExpirations call.event.eventId).isSome then
            return .reject .replay call.governance.matchingRuleIds
          else budgets guard call >>= decided call : IngressMethod FederationIngressOutcome)
        (guard.prune call.event.receivedAt) (Stopped guard call)
        (fun next => next = guard.prune call.event.receivedAt) := rfl
  rw [start]
  have quarantined (reason : FederationQuarantineReason) :
      Leaves (rememberReplay call.event >>= fun _ => pure (.quarantine reason call.governance.matchingRuleIds) :
        IngressMethod FederationIngressOutcome) (guard.prune call.event.receivedAt) (Stopped guard call)
        (fun next => next = guard.prune call.event.receivedAt) := by
    refine remember_leaves _ _ reason ?_ rfl
    intro expiration time
    exact ⟨⟨rfl, rfl⟩, fun rejected => (nomatch rejected), .inr ⟨expiration, time, rfl⟩⟩
  by_cases blocked : call.governance.disposition = .block
  · rw [if_pos blocked]
    exact leaves_pure ⟨⟨rfl, rfl⟩, fun _ => rfl, .inl rfl⟩
  · rw [if_neg blocked]
    by_cases held : call.governance.disposition = .quarantine
    · rw [if_pos held]
      exact quarantined .governanceRule
    · rw [if_neg held]
      by_cases hostile : call.reputation.tier = .hostile
      · rw [if_pos hostile]
        exact quarantined .hostileReputation
      · rw [if_neg hostile]
        apply leaves_get
        cases known : (guard.prune call.event.receivedAt).replayExpirations call.event.eventId with
        | none => exact absurd ⟨⟨blocked, held⟩, hostile, known⟩ stopped
        | some expiration => exact leaves_pure ⟨⟨rfl, rfl⟩, fun _ => rfl, .inl rfl⟩

end

end FederationIngressGuard

end AgentRoom.Federation
