import AgentRoom.Federation.Isolation

namespace AgentRoom.Federation

open Library

namespace FederationIngressGuard

structure Remembers (guard : FederationIngressGuard) (call : Call) (next : FederationIngressGuard) : Prop where
  limits : next.limits = guard.limits
  replays : ∀ eventId expiration, guard.replayExpirations eventId = some expiration →
    call.event.receivedAt < expiration → ∃ later, next.replayExpirations eventId = some later ∧
      (later = expiration ∨ call.event.receivedAt.checkedAdd guard.limits.replayTtl = .ok later)
  states : ∀ slot held, guard.acceptedState slot = some held →
    ∃ later, next.acceptedState slot = some later ∧ held.revision ≤ later.revision

structure Accepts (guard : FederationIngressGuard) (call : Call) (next : FederationIngressGuard) : Prop where
  fresh : ∀ expiration, guard.replayExpirations call.event.eventId = some expiration → expiration ≤ call.event.receivedAt
  remembered : ∃ expiration, call.event.receivedAt.checkedAdd guard.limits.replayTtl = .ok expiration ∧
    next.replayExpirations call.event.eventId = some expiration
  newer : ∀ state held, call.event.state = some state →
    guard.acceptedState (stateKey call.event state) = some held → held.revision < state.revision
  recorded : ∀ state, call.event.state = some state →
    ∃ held, next.acceptedState (stateKey call.event state) = some held ∧ held.revision = state.revision

section

variable (guard : FederationIngressGuard) (call : Call)

theorem pruned_remembers (limits : next.limits = guard.limits)
    (replays : next.replayExpirations = (guard.prune call.event.receivedAt).replayExpirations)
    (states : next.acceptedState = guard.acceptedState) : Remembers guard call next := by
  refine ⟨limits, fun eventId expiration held current => ?_, fun slot held accepted => ?_⟩
  · refine ⟨expiration, ?_, .inl rfl⟩
    rw [replays]
    simp [prune, held, current]
  · exact ⟨held, by rw [states]; exact accepted, UInt64.le_refl _⟩

theorem remembering_replays (next : FederationIngressGuard)
    (time : call.event.receivedAt.checkedAdd guard.limits.replayTtl = .ok expiration) (replays : next.replayExpirations =
      Function.update (guard.prune call.event.receivedAt).replayExpirations call.event.eventId (some expiration))
    (eventId : String) (held : UtcMillis) (known : guard.replayExpirations eventId = some held)
    (current : call.event.receivedAt < held) : ∃ later, next.replayExpirations eventId = some later ∧
      (later = held ∨ call.event.receivedAt.checkedAdd guard.limits.replayTtl = .ok later) := by
  by_cases same : eventId = call.event.eventId
  · exact ⟨expiration, by rw [replays, same, Function.update_self], .inr time⟩
  · refine ⟨held, ?_, .inl rfl⟩
    rw [replays, Function.update_of_ne same]
    simp [prune, known, current]

variable {start : FederationIngressGuard} {expiration : UtcMillis}

theorem remembering_remembers (next : FederationIngressGuard)
    (time : call.event.receivedAt.checkedAdd guard.limits.replayTtl = .ok expiration) (limits : next.limits = guard.limits)
    (replays : next.replayExpirations =
      Function.update (guard.prune call.event.receivedAt).replayExpirations call.event.eventId (some expiration))
    (states : next.acceptedState = guard.acceptedState) : Remembers guard call next :=
  ⟨limits, remembering_replays guard call next time replays,
    fun _ held accepted => ⟨held, by rw [states]; exact accepted, UInt64.le_refl _⟩⟩

theorem fresh_expired (reaches : Reaches guard call) (expiration : UtcMillis)
    (held : guard.replayExpirations call.event.eventId = some expiration) : expiration ≤ call.event.receivedAt := by
  have fresh := reaches.fresh
  simp only [prune, held, Option.filter_some] at fresh
  by_cases current : call.event.receivedAt < expiration
  · simp [current] at fresh
  · exact (UtcMillis.not_lt_iff _ _).mp current

theorem no_conflict_newer (peaceful : guard.hasStateConflict call.event = false) (state : FederationStateRevision)
    (held : AcceptedState) (stated : call.event.state = some state)
    (known : guard.acceptedState (stateKey call.event state) = some held) : held.revision < state.revision := by
  simpa [hasStateConflict, stated, known] using peaceful

theorem remember_state_slot (slot : StateSlot) : (rememberState call.event guard).acceptedState slot = guard.acceptedState slot ∨
      ∃ state, call.event.state = some state ∧ slot = stateKey call.event state ∧
        (rememberState call.event guard).acceptedState slot =
          some { revision := state.revision, eventId := call.event.eventId } := by
  cases stated : call.event.state with
  | none => exact .inl (by simp [rememberState, stated])
  | some state =>
    by_cases same : slot = stateKey call.event state
    · exact .inr ⟨state, rfl, same, by simp [rememberState, stated, same]⟩
    · exact .inl (by simp [rememberState, stated, same])

theorem settle_leaves (overflow : failed start)
    (conflict : ∀ expiration, event.receivedAt.checkedAdd start.limits.replayTtl = .ok expiration →
      post (.quarantine .stateConflict ids) (start.remembering event expiration))
    (accept : ∀ expiration, event.receivedAt.checkedAdd start.limits.replayTtl = .ok expiration →
      start.hasStateConflict event = false →
      post (accepting event.eventType ids) (rememberState event (start.remembering event expiration))) :
    Leaves (settle event ids) start post failed := by
  rw [Leaves]
  rw [settle_run]
  cases time : event.receivedAt.checkedAdd start.limits.replayTtl with
  | error failure => exact overflow
  | ok expiration =>
    by_cases stale : start.hasStateConflict event = true
    · simp only [if_pos stale]
      exact conflict expiration time
    · simp only [if_neg stale]
      rw [Bool.not_eq_true] at stale
      exact accept expiration time stale

theorem remember_state_remembers (peaceful : guard.hasStateConflict call.event = false)
    (states : start.acceptedState = guard.acceptedState) (remembers : Remembers guard call start) :
    Remembers guard call (rememberState call.event start) := by
  have limits : (rememberState call.event start).limits = start.limits := by
    rw [rememberState]
    cases call.event.state <;> rfl
  have replays : (rememberState call.event start).replayExpirations = start.replayExpirations := by
    rw [rememberState]
    cases call.event.state <;> rfl
  refine ⟨limits.trans remembers.limits, ?_, ?_⟩
  · rw [replays]
    exact remembers.replays
  · intro slot held known
    rcases remember_state_slot start call slot with same | ⟨state, stated, rfl, now⟩
    · exact ⟨held, by rw [same, states]; exact known, UInt64.le_refl _⟩
    · exact ⟨_, now, UInt64.le_of_lt (no_conflict_newer guard call peaceful state held stated known)⟩

theorem settled_accepts (reaches : Reaches guard call)
    (time : call.event.receivedAt.checkedAdd guard.limits.replayTtl = .ok expiration)
    (peaceful : guard.hasStateConflict call.event = false) :
    Accepts guard call (rememberState call.event (start.remembering call.event expiration)) := by
  refine ⟨fresh_expired guard call reaches, ⟨expiration, time, ?_⟩, no_conflict_newer guard call peaceful, ?_⟩
  · have known : (start.remembering call.event expiration).replayExpirations call.event.eventId = some expiration :=
      Function.update_self ..
    rw [← known]
    rw [rememberState]
    cases call.event.state <;> rfl
  · intro state stated
    exact ⟨{ revision := state.revision, eventId := call.event.eventId }, by simp [rememberState, stated], rfl⟩

theorem inspect_remembers : Leaves (perform call) guard
      (fun outcome next => Remembers guard call next ∧ (outcome.accepted = true → Accepts guard call next))
      (Remembers guard call) := by
  have pruned : Remembers guard call (guard.prune call.event.receivedAt) := pruned_remembers guard call rfl rfl rfl
  by_cases reaches : Reaches guard call
  · rw [Leaves]
    rcases reaching_split guard call reaches with failed | peerFull | gone | affords
    · rw [failed]
      exact pruned
    · rw [peerFull]
      exact ⟨pruned, fun accepted => by cases accepted⟩
    · obtain ⟨scope, counters, run, _⟩ := overdraw_charges guard call gone
      rw [run]
      exact ⟨pruned_remembers guard call rfl rfl rfl, fun accepted => by cases accepted⟩
    · rw [affordable_settles guard call affords]
      refine settle_leaves ?_ ?_ ?_
      · exact pruned_remembers guard call rfl rfl rfl
      · intro expiration time
        exact ⟨remembering_remembers guard call _ time rfl rfl rfl, fun accepted => by cases accepted⟩
      · intro expiration time peaceful
        have remembers := remembering_remembers guard call
          (((guard.prune call.event.receivedAt).chargeUser call).remembering call.event expiration) time
          rfl rfl rfl
        exact ⟨remember_state_remembers guard call peaceful rfl remembers,
          fun _ => settled_accepts guard call reaches time peaceful⟩
  · refine leaves_mono ?_ ?_ (inspect_stopped guard reaches)
    · intro outcome next stopped
      refine ⟨?_, fun accepted => ?_⟩
      · rcases stopped.remembered with same | ⟨expiration, time, same⟩
        · rw [same]
          exact pruned
        · rw [same]
          exact remembering_remembers guard call _ time rfl rfl rfl
      · rw [stopped.refused.1] at accepted
        cases accepted
    · intro next same
      rw [same]
      exact pruned

theorem after_remembers : Remembers guard call (after (perform call) guard) := by
  have remembers := inspect_remembers guard call
  unfold Leaves at remembers
  rw [after]
  cases run : (perform call).run guard with
  | ok outcome next =>
    rw [run] at remembers
    exact remembers.1
  | error failure next =>
    rw [run] at remembers
    exact remembers

end

section

variable (guard : FederationIngressGuard) (calls : List Call)

theorem run_limits : (runAll perform guard calls).limits = guard.limits := by
  induction calls generalizing guard with
  | nil => rfl
  | cons call rest ih => exact (ih _).trans (after_remembers guard call).limits

theorem run_replays (eventId : String) (accepted : UtcMillis) (end_ : deadline = accepted.value + guard.limits.replayTtl.value)
    (known : ∃ expiration, guard.replayExpirations eventId = some expiration ∧ deadline ≤ expiration.value)
    (between : ∀ call ∈ calls, accepted ≤ call.event.receivedAt ∧ call.event.receivedAt.value < deadline) :
    ∃ expiration, (runAll perform guard calls).replayExpirations eventId = some expiration ∧
      deadline ≤ expiration.value := by
  induction calls generalizing guard with
  | nil => exact known
  | cons call rest ih =>
    obtain ⟨expiration, held, late⟩ := known
    obtain ⟨ordered, early⟩ := between call List.mem_cons_self
    have remembers := after_remembers guard call
    have current : call.event.receivedAt < expiration := by
      rw [UtcMillis.lt_iff]
      omega
    obtain ⟨later, kept, which⟩ := remembers.replays eventId expiration held current
    refine ih (after (perform call) guard) ?_ ⟨later, kept, ?_⟩ fun other listed =>
      between other (List.mem_cons_of_mem _ listed)
    · rw [remembers.limits]
      exact end_
    · rcases which with same | time
      · rw [same]
        exact late
      · have value := UtcMillis.checked_add_value time
        rw [UtcMillis.le_iff] at ordered
        omega

theorem run_states (slot : StateSlot) (held : AcceptedState) (known : guard.acceptedState slot = some held) :
    ∃ later, (runAll perform guard calls).acceptedState slot = some later ∧ held.revision ≤ later.revision := by
  induction calls generalizing guard held with
  | nil => exact ⟨held, known, UInt64.le_refl _⟩
  | cons call rest ih =>
    obtain ⟨next, kept, above⟩ := (after_remembers guard call).states slot held known
    obtain ⟨later, found, further⟩ := ih _ next kept
    exact ⟨later, found, UInt64.le_trans above further⟩

end

def AcceptedAfter (limits : FederationIngressLimits) (before : List Call) (call : Call) : Prop :=
  ∃ outcome next, (perform call).run (runAll perform (new limits) before) = .ok outcome next ∧ outcome.accepted = true

def Ordered (calls : List Call) : Prop :=
  calls.Pairwise fun first second => first.event.receivedAt ≤ second.event.receivedAt

variable {limits : FederationIngressLimits} {before : List Call}

theorem accepted_leaves {call : Call} (accepted : AcceptedAfter limits before call) :
    Accepts (runAll perform (new limits) before) call (runAll perform (new limits) (before ++ [call])) := by
  obtain ⟨outcome, next, run, passed⟩ := accepted
  have accepts := (leaves_ok _ _ _ _ _ (inspect_remembers _ call) run).2 passed
  rw [run_all_append]
  change Accepts _ call (finalState ((perform call).run (runAll perform (new limits) before)))
  rw [run]
  exact accepts

-- In a run whose clock does not go back, an accepted event is not accepted again
-- within its time to live, and the revisions accepted for a slot only rise.
theorem accepted_events_are_not_replayed (limits : FederationIngressLimits) (calls : List Call) (ordered : Ordered calls) :
    ∀ before first between second rest, calls = before ++ first :: (between ++ second :: rest) →
      AcceptedAfter limits before first → AcceptedAfter limits (before ++ first :: between) second →
      (first.event.eventId = second.event.eventId →
        first.event.receivedAt.value + limits.replayTtl.value ≤ second.event.receivedAt.value) ∧
      ∀ older newer, first.event.state = some older → second.event.state = some newer →
        stateKey first.event older = stateKey second.event newer → older.revision < newer.revision := by
  intro before first between second rest shape firstAccepted secondAccepted
  have found := accepted_leaves firstAccepted
  have again := accepted_leaves secondAccepted
  have split : before ++ first :: between = (before ++ [first]) ++ between := by simp
  rw [split, run_all_append] at again
  constructor
  · intro same
    by_contra early
    rw [Nat.not_le] at early
    obtain ⟨expiration, time, known⟩ := found.remembered
    have value := UtcMillis.checked_add_value time
    have sameLimits : (runAll perform (new limits) (before ++ [first])).limits = limits := run_limits (new limits) _
    have startLimits : (runAll perform (new limits) before).limits = limits := run_limits (new limits) _
    rw [startLimits] at value
    have times : ∀ call ∈ between, first.event.receivedAt ≤ call.event.receivedAt ∧
        call.event.receivedAt.value < first.event.receivedAt.value + limits.replayTtl.value := by
      intro call listed
      rw [Ordered, shape] at ordered
      have tail := (List.pairwise_append.mp ordered).2.1
      obtain ⟨afterFirst, later⟩ := List.pairwise_cons.mp tail
      have upTo := (List.pairwise_append.mp later).2.2 call listed second List.mem_cons_self
      rw [UtcMillis.le_iff] at upTo
      exact ⟨afterFirst call (List.mem_append_left _ listed), by omega⟩
    obtain ⟨held, remembered, late⟩ := run_replays _ between first.event.eventId first.event.receivedAt
      (by rw [sameLimits]) ⟨expiration, known, by omega⟩ times
    have expired := again.fresh held (by rw [← same]; exact remembered)
    rw [UtcMillis.le_iff] at expired
    omega
  · intro older newer firstState secondState sameSlot
    obtain ⟨recorded, known, revision⟩ := found.recorded older firstState
    obtain ⟨later, kept, above⟩ := run_states _ between _ recorded known
    rw [sameSlot] at kept
    have newerThan := again.newer newer later secondState kept
    rw [← revision]
    exact UInt64.lt_of_le_of_lt above newerThan

def statusEvent (eventId : String) (receivedAt : UtcMillis) (revision : UInt64) : Call where
  policies := ⟨[]⟩
  reputation := .default
  event :=
    { eventId
      peer := peerExample
      roomId := "!room:local.example"
      senderUserId := "@agent:peer.example"
      eventType := "io.github.rainyflash.agentroom.agent.status.v1"
      receivedAt
      state := some { stateKey := "instance-1", revision } }

theorem answered_accepted {call : Call} (accepted : (answer (runAll perform (new limits) before) call).any (·.accepted) = true) :
    AcceptedAfter limits before call := by
  obtain ⟨outcome, answered, holds⟩ := (Option.any_eq_true _ _).mp accepted
  obtain ⟨next, run⟩ := answer_run _ call outcome answered
  exact ⟨outcome, next, run, holds⟩

def firstStatus : Call := statusEvent "$1:peer.example" 100 7

def laterStatus : Call := statusEvent "$1:peer.example" ⟨400200, by decide⟩ 8

theorem repeated_status_is_late_and_newer :
    firstStatus.event.receivedAt.value + floodLimits.replayTtl.value ≤ laterStatus.event.receivedAt.value ∧
      (7 : UInt64) < 8 := by
  have ordered : Ordered [firstStatus, laterStatus] := by
    refine List.pairwise_pair.mpr ?_
    exact (UtcMillis.le_iff).mpr (by decide)
  have parts := accepted_events_are_not_replayed floodLimits [firstStatus, laterStatus] ordered [] firstStatus []
    laterStatus [] rfl (answered_accepted (by decide +kernel)) (answered_accepted (by decide +kernel))
  exact ⟨parts.1 rfl, parts.2 ⟨"instance-1", 7⟩ ⟨"instance-1", 8⟩ rfl rfl rfl⟩

end FederationIngressGuard

end AgentRoom.Federation
