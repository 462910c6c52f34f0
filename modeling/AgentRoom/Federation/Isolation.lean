import AgentRoom.Federation.Budgets

namespace AgentRoom.Federation

open Library

namespace FederationIngressGuard

def RejectionIsFree (guard : FederationIngressGuard) (call : Call) : Prop :=
  ∀ scope ids next, (perform call).run guard = .ok (.reject (.rateLimited scope) ids) next → next.counters = guard.counters

structure Overdraws (guard : FederationIngressGuard) (call : Call) : Prop where
  reaches : Reaches guard call
  fits : guard.limits.window.value ≤ i64Max
  peerFree : guard.peerExhausted call = false
  laterFull : guard.roomExhausted call = true ∨ guard.userExhausted call = true

section

variable (guard : FederationIngressGuard) (call : Call)

theorem reaching_budgets (reaches : Reaches guard call)
    (budgeted : (budgets guard call).run (guard.prune call.event.receivedAt) = .ok scope next) :
    (perform call).run guard = (decided call scope).run next := by
  rw [inspect_reaching guard call reaches]
  simp only [EStateM.run] at budgeted ⊢
  simp only [bind, EStateM.bind]
  rw [budgeted]

theorem overflow_fails (reaches : Reaches guard call) (long : i64Max < guard.limits.window.value) :
    (perform call).run guard = .error .timeOverflow (guard.prune call.event.receivedAt) := by
  have overflow := windows_overflow (guard.prune call.event.receivedAt) call.peerKey call.event.receivedAt
    (rateDivisor call.governance.disposition call.reputation.tier) guard.limits.peerPerWindow .peer
    [(call.roomKey, guard.limits.roomPerWindow, .room), (call.userKey, guard.limits.userPerWindow, .user)] long
  have budgeted : (budgets guard call).run (guard.prune call.event.receivedAt) =
      .error .timeOverflow (guard.prune call.event.receivedAt) := overflow
  rw [inspect_reaching guard call reaches]
  simp only [EStateM.run] at budgeted ⊢
  simp only [bind, EStateM.bind]
  rw [budgeted]

theorem settled_not_rejected (run : (settle call.event call.governance.matchingRuleIds).run start = .ok outcome next) :
    outcome.rejected = false := by
  rw [settle_run] at run
  cases time : call.event.receivedAt.checkedAdd start.limits.replayTtl with
  | error failure =>
    rw [time] at run
    cases run
  | ok expiration =>
    rw [time] at run
    by_cases conflict : start.hasStateConflict call.event = true
    · simp only [if_pos conflict] at run
      cases run
      rfl
    · simp only [if_neg conflict] at run
      cases run
      exact accepting_not_rejected

structure Affords (guard : FederationIngressGuard) (call : Call) : Prop where
  reaches : Reaches guard call
  fits : guard.limits.window.value ≤ i64Max
  peerFree : guard.peerExhausted call = false
  roomFree : guard.roomExhausted call = false
  userFree : guard.userExhausted call = false

theorem affordable_settles (affords : Affords guard call) : (perform call).run guard =
      (settle call.event call.governance.matchingRuleIds).run
        ((guard.prune call.event.receivedAt).chargeUser call) :=
  reaching_budgets guard call affords.reaches
    (budgets_free (guard.prune call.event.receivedAt) call affords.fits affords.peerFree affords.roomFree
      affords.userFree)

theorem reaching_split (reaches : Reaches guard call) :
    (perform call).run guard = .error .timeOverflow (guard.prune call.event.receivedAt) ∨
      (perform call).run guard = .ok (.reject (.rateLimited .peer) call.governance.matchingRuleIds)
        (guard.prune call.event.receivedAt) ∨
      Overdraws guard call ∨ Affords guard call := by
  by_cases fits : guard.limits.window.value ≤ i64Max
  · by_cases peerFull : guard.peerExhausted call = true
    · exact .inr (.inl (reaching_budgets guard call reaches
        (budgets_peer (guard.prune call.event.receivedAt) call fits peerFull)))
    · rw [Bool.not_eq_true] at peerFull
      by_cases roomFull : guard.roomExhausted call = true
      · exact .inr (.inr (.inl ⟨reaches, fits, peerFull, .inl roomFull⟩))
      · by_cases userFull : guard.userExhausted call = true
        · exact .inr (.inr (.inl ⟨reaches, fits, peerFull, .inr userFull⟩))
        · rw [Bool.not_eq_true] at roomFull userFull
          exact .inr (.inr (.inr ⟨reaches, fits, peerFull, roomFull, userFull⟩))
  · exact .inl (overflow_fails guard call reaches (by omega))

theorem rejected_only_prunes (within : ¬ Overdraws guard call) (run : (perform call).run guard = .ok outcome next)
    (rejected : outcome.rejected = true) : next = guard.prune call.event.receivedAt := by
  by_cases reaches : Reaches guard call
  · rcases reaching_split guard call reaches with failed | peerFull | gone | affords
    · rw [failed] at run
      cases run
    · rw [peerFull] at run
      cases run
      rfl
    · exact absurd gone within
    · rw [affordable_settles guard call affords] at run
      have passed := settled_not_rejected call run
      rw [rejected] at passed
      cases passed
  · have stopped := leaves_ok guard next outcome _ _ (inspect_stopped guard reaches) run
    exact stopped.rejected rejected

theorem peer_charge_differs :
    ((guard.prune call.event.receivedAt).chargePeer call).counters call.peerKey ≠ guard.counters call.peerKey ∨
      guard.peerExhausted call = true := by
  by_cases full : guard.peerExhausted call = true
  · exact .inr full
  · rw [Bool.not_eq_true] at full
    left
    exact charged_differs (guard.prune call.event.receivedAt) call.peerKey call.event.receivedAt _
      (limit_positive call) (limit_fits call guard.limits.fits) full

theorem overdraw_charges (gone : Overdraws guard call) :
    ∃ scope counters, (perform call).run guard = .ok (.reject (.rateLimited scope) call.governance.matchingRuleIds)
        { guard.prune call.event.receivedAt with counters } ∧
      counters call.peerKey ≠ guard.counters call.peerKey := by
  have differs : ((guard.prune call.event.receivedAt).chargePeer call).counters call.peerKey ≠
      guard.counters call.peerKey := by
    rcases peer_charge_differs guard call with differs | full
    · exact differs
    · rw [gone.peerFree] at full
      cases full
  by_cases roomFull : guard.roomExhausted call = true
  · exact ⟨.room, _, reaching_budgets guard call gone.reaches
      (budgets_room (guard.prune call.event.receivedAt) call gone.fits gone.peerFree roomFull), differs⟩
  · have userFull : guard.userExhausted call = true := gone.laterFull.resolve_left roomFull
    rw [Bool.not_eq_true] at roomFull
    refine ⟨.user, _, reaching_budgets guard call gone.reaches
      (budgets_user (guard.prune call.event.receivedAt) call gone.fits gone.peerFree roomFull userFull), ?_⟩
    have kept := charge_other ((guard.prune call.event.receivedAt).chargePeer call) call.roomKey call.peerKey
      call.event.receivedAt (keys_apart call).1.symm
    exact fun same => differs (kept.symm.trans same)

theorem rejection_is_free_iff : RejectionIsFree guard call ↔ ¬ Overdraws guard call := by
  constructor
  · intro free gone
    obtain ⟨scope, counters, run, differs⟩ := overdraw_charges guard call gone
    exact differs (congrFun (free scope _ _ run) call.peerKey)
  · intro within scope ids next run
    rw [rejected_only_prunes guard call within run rfl]
    rfl

end

structure Spared (guard other : FederationIngressGuard) : Prop where
  limits : other.limits = guard.limits
  counters : other.counters = guard.counters
  acceptedState : other.acceptedState = guard.acceptedState
  replays : ∀ eventId, other.replayExpirations eventId = none ∨ other.replayExpirations eventId = guard.replayExpirations eventId

theorem spared_refl (guard : FederationIngressGuard) : Spared guard guard := ⟨rfl, rfl, rfl, fun _ => .inr rfl⟩

theorem spared_prune (guard other : FederationIngressGuard) (now : UtcMillis) (spared : Spared guard other) :
    Spared guard (other.prune now) := by
  refine ⟨spared.limits, spared.counters, spared.acceptedState, fun eventId => ?_⟩
  cases kept : (other.prune now).replayExpirations eventId with
  | none => exact .inl rfl
  | some expiration =>
    have held : other.replayExpirations eventId = some expiration := (Option.filter_eq_some_iff.mp kept).1
    rcases spared.replays eventId with missing | same
    · rw [missing] at held
      cases held
    · exact .inr (by rw [← same, held])

def RejectedThroughout (guard : FederationIngressGuard) : List Call → Prop
  | [] => True
  | call :: rest =>
    ¬ Overdraws guard call ∧ (∃ outcome next, (perform call).run guard = .ok outcome next ∧ outcome.rejected = true) ∧
      RejectedThroughout (after (perform call) guard) rest

theorem rejected_run_spares (start guard : FederationIngressGuard) (noisy : List Call) (spared : Spared start guard)
    (rejected : RejectedThroughout guard noisy) : Spared start (runAll perform guard noisy) := by
  induction noisy generalizing guard with
  | nil => exact spared
  | cons call rest ih =>
    obtain ⟨within, ⟨outcome, next, run, refused⟩, later⟩ := rejected
    refine ih _ ?_ later
    have pruned := rejected_only_prunes guard call within run refused
    change Spared start (finalState ((perform call).run guard))
    rw [run, final_state_ok, pruned]
    exact spared_prune start guard _ spared

section

variable (guard other : FederationIngressGuard) (call : Call) (spared : Spared guard other)

include spared

theorem spared_reaches (reaches : Reaches guard call) : Reaches other call := by
  refine ⟨reaches.open_, reaches.trusted, ?_⟩
  have fresh := reaches.fresh
  rcases spared.replays call.event.eventId with missing | same
  · simp [prune, missing]
  · simp only [prune] at fresh ⊢
    rw [same]
    exact fresh

theorem spared_exhausted (key : RateKey) (now : UtcMillis) (limit : Nat) :
    other.exhausted key now limit = guard.exhausted key now limit := by
  rw [exhausted, exhausted, spared.counters, spared.limits]

theorem spared_affords (affords : Affords guard call) : Affords other call := by
  refine ⟨spared_reaches guard other call spared affords.reaches, ?_, ?_, ?_, ?_⟩
  · rw [spared.limits]
    exact affords.fits
  · rw [peerExhausted, spared_exhausted guard other spared, spared.limits]
    exact affords.peerFree
  · rw [roomExhausted, spared_exhausted guard other spared, spared.limits]
    exact affords.roomFree
  · rw [userExhausted, spared_exhausted guard other spared, spared.limits]
    exact affords.userFree

theorem accepted_alike (run : (perform call).run guard = .ok outcome next) (accepted : outcome.accepted = true) :
    ∃ left, (perform call).run other = .ok outcome left := by
  by_cases reaches : Reaches guard call
  · rcases reaching_split guard call reaches with failed | peerFull | gone | affords
    · rw [failed] at run
      cases run
    · rw [peerFull] at run
      cases run
      cases accepted
    · obtain ⟨scope, left, limited, _⟩ := overdraw_charges guard call gone
      rw [limited] at run
      cases run
      cases accepted
    · rw [affordable_settles guard call affords, settle_run] at run
      rw [affordable_settles other call (spared_affords guard other call spared affords), settle_run]
      have conflict : ((other.prune call.event.receivedAt).chargeUser call).hasStateConflict call.event =
          ((guard.prune call.event.receivedAt).chargeUser call).hasStateConflict call.event := by
        change other.hasStateConflict call.event = guard.hasStateConflict call.event
        rw [hasStateConflict, hasStateConflict, spared.acceptedState]
      have ttl : ((other.prune call.event.receivedAt).chargeUser call).limits.replayTtl =
          ((guard.prune call.event.receivedAt).chargeUser call).limits.replayTtl :=
        congrArg FederationIngressLimits.replayTtl spared.limits
      rw [conflict, ttl]
      cases time : call.event.receivedAt.checkedAdd
          ((guard.prune call.event.receivedAt).chargeUser call).limits.replayTtl with
      | error failure =>
        rw [time] at run
        cases run
      | ok expiration =>
        rw [time] at run
        by_cases stale : ((guard.prune call.event.receivedAt).chargeUser call).hasStateConflict call.event = true
        · simp only [if_pos stale] at run
          cases run
          cases accepted
        · simp only [if_neg stale] at run ⊢
          cases run
          exact ⟨_, rfl⟩
  · have stopped := leaves_ok guard next outcome _ _ (inspect_stopped guard reaches) run
    rw [stopped.refused.1] at accepted
    cases accepted

end

-- In every reached state a rate rejection is free exactly short of an overdraw,
-- and events rejected that way do not keep out what would have been accepted.
theorem rate_limits_spare_others (limits : FederationIngressLimits) (calls : List Call) :
    let guard := runAll perform (new limits) calls
    (∀ call, RejectionIsFree guard call ↔ ¬ Overdraws guard call) ∧
      ∀ noisy quiet outcome next, RejectedThroughout guard noisy → (perform quiet).run guard = .ok outcome next →
        outcome.accepted = true → ∃ left, (perform quiet).run (runAll perform guard noisy) = .ok outcome left := by
  intro guard
  refine ⟨rejection_is_free_iff guard, ?_⟩
  intro noisy quiet outcome next rejected run accepted
  have spared := rejected_run_spares guard guard noisy (spared_refl guard) rejected
  exact accepted_alike guard _ quiet spared run accepted

def floodLimits : FederationIngressLimits where
  peerPerWindow := 12
  roomPerWindow := 8
  userPerWindow := 4
  window := ⟨60000, by decide⟩
  replayTtl := ⟨300000, by decide⟩
  fits := by decide
  positive := by decide
  layered := by decide

def peerExample : FederationServerName := ⟨"peer.example", by decide +kernel⟩

def previewFrom (eventId senderUserId : String) : Call where
  policies := ⟨[]⟩
  reputation := .default
  event :=
    { eventId
      peer := peerExample
      roomId := "!room:local.example"
      senderUserId
      eventType := "io.github.rainyflash.agentroom.message.preview.v1"
      receivedAt := ⟨100, by decide⟩
      state := none }

def noisyEvents (eventIds : List String) : List Call :=
  eventIds.map fun eventId => previewFrom eventId "@noisy:peer.example"

def answer (guard : FederationIngressGuard) (call : Call) : Option FederationIngressOutcome :=
  match (perform call).run guard with
  | .ok outcome _ => some outcome
  | .error _ _ => none

theorem answer_run (guard : FederationIngressGuard) (call : Call) (outcome : FederationIngressOutcome)
    (answered : answer guard call = some outcome) : ∃ next, (perform call).run guard = .ok outcome next := by
  cases run : (perform call).run guard with
  | ok given next =>
    simp only [answer, run, Option.some.injEq] at answered
    exact ⟨next, by rw [answered]⟩
  | error failure next => simp [answer, run] at answered

def floodedGuard : FederationIngressGuard :=
  runAll perform (new floodLimits) (noisyEvents ["$0:peer.example", "$1:peer.example", "$2:peer.example",
    "$3:peer.example"])

def overflowing : List Call :=
  noisyEvents ["$4:peer.example", "$5:peer.example", "$6:peer.example", "$7:peer.example"]

-- Four more events of a user whose budget is spent use up the room's as well.
theorem flood_keeps_a_quiet_user_out : (overflowing.map fun call => answer floodedGuard call) =
        List.replicate 4 (some (.reject (.rateLimited .user) [])) ∧
      answer floodedGuard (previewFrom "$8:peer.example" "@quiet:peer.example") = some (.acceptReadWrite []) ∧
      answer (runAll perform floodedGuard overflowing) (previewFrom "$8:peer.example" "@quiet:peer.example") =
        some (.reject (.rateLimited .room) []) ∧
      ¬ RejectionIsFree floodedGuard (previewFrom "$4:peer.example" "@noisy:peer.example") := by
  refine ⟨by decide +kernel, by decide +kernel, by decide +kernel, fun free => ?_⟩
  have reaches : Reaches floodedGuard (previewFrom "$4:peer.example" "@noisy:peer.example") :=
    ⟨by decide +kernel, by decide +kernel, by decide +kernel⟩
  exact (rejection_is_free_iff _ _).mp free
    ⟨reaches, by decide +kernel, by decide +kernel, .inr (by decide +kernel)⟩

theorem repeats_spare_a_quiet_user : ∃ left, (perform (previewFrom "$8:peer.example" "@quiet:peer.example")).run
      (runAll perform floodedGuard (noisyEvents ["$0:peer.example"])) = .ok (.acceptReadWrite []) left := by
  have seen : ¬ Overdraws floodedGuard (previewFrom "$0:peer.example" "@noisy:peer.example") := fun gone =>
    absurd gone.reaches.fresh (by decide +kernel)
  obtain ⟨_, refused⟩ := answer_run floodedGuard (previewFrom "$0:peer.example" "@noisy:peer.example")
    (.reject .replay []) (by decide +kernel)
  obtain ⟨_, accepted⟩ := answer_run floodedGuard (previewFrom "$8:peer.example" "@quiet:peer.example")
    (.acceptReadWrite []) (by decide +kernel)
  have spares := (rate_limits_spare_others floodLimits (noisyEvents ["$0:peer.example", "$1:peer.example",
    "$2:peer.example", "$3:peer.example"])).2
  exact spares _ _ _ _ ⟨seen, ⟨_, _, refused, rfl⟩, trivial⟩ accepted rfl

end FederationIngressGuard

end AgentRoom.Federation
