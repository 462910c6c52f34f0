import AgentRoom.NetworkAgent.Specs

namespace AgentRoom.NetworkAgents

open Library

section

variable {batch : NetworkAgentInboxAppend}

theorem change_books (books : Books old.1.inbox old.1.sequence history) (changed : Changed batch old.1 next.1 change) :
    Books next.1.inbox next.1.sequence (noteChange old change next history) := by
  obtain ⟨old, before⟩ := old
  obtain ⟨next, after⟩ := next
  cases changed with
  | message message inserted delivered =>
    cases delivered with
    | repeated recorded => exact books_congr old.inbox old.sequence history _ books (by simp [noteChange, InboxHistory.owe]) rfl
    | quiet unrecorded kept =>
      have same := books_congr old.inbox old.sequence history
        (noteChange (old, before) (.message message) (old, after) history) books
        (by simp [noteChange, InboxHistory.owe]) rfl
      exact books_later old.inbox old.sequence _ same (Nat.le_succ _)
    | entered unrecorded foreign fresh checked =>
      have entered := books_enter old.inbox old.sequence history
        (inboxRow batch message (old.sequence + 1) (old.beforeJoin.owes message.roomId)) books rfl fresh
      exact books_congr _ _ _ _ entered (by simp [noteChange, InboxHistory.owe]) rfl
  | replace target patch edited events sequence beforeJoin =>
    have same := books_edit old.inbox old.sequence history books edited
    rw [← sequence] at same
    exact same
  | redact target withdrawn =>
    cases withdrawn
    have removed := books_remove old.inbox old.sequence history .redacted (fun row => decide (row.target = target)) books
    have kept : Books (applyRedact target old).inbox old.sequence
        (history.leave .redacted (old.inbox.filter fun row => decide (row.target = target))) := by
      simpa [applyRedact] using removed
    exact books_congr _ _ _ _ kept rfl rfl

theorem append_books (books : Books agent.inbox agent.inboxSequence history) (appended : Appended batch agent history final) :
    Books final.1.inbox final.1.inboxSequence final.2 := by
  cases appended with
  | unchanged => exact books
  | applied writing count noted current run =>
    have written : Books writing.inbox writing.sequence noted :=
      runs_invariant (fun state : (Writing × Nat) × InboxHistory => Books state.1.1.inbox state.1.1.sequence state.2)
        (by
          intro state change next kept stepped
          obtain ⟨applied, same⟩ := (observe_ok ..).mp stepped
          rw [same]
          exact change_books kept (apply_counted_ok applied)) (books_congr _ _ history _ books rfl rfl) run
    exact books_remove writing.inbox writing.sequence noted .trimmed (overCapacity batch writing.inbox) written

end

def StateBooks (state : NetworkAgent × InboxHistory) : Prop := Books state.1.inbox state.1.inboxSequence state.2

theorem call_books (state next : NetworkAgent × InboxHistory) (call : InboxCall) (books : StateBooks state)
    (stepped : InboxStep state call next) : StateBooks next := by
  obtain ⟨agent, history⟩ := state
  rw [stepped]
  cases call with
  | recordRoom room =>
    rw [StateBooks, observedCall, performCall, recordNetworkAgentRoom]
    split <;> exact books
  | append batch => exact append_books books (observed_append)
  | acknowledge eventId room =>
    rw [StateBooks, observedCall, performCall, noteCall, acknowledge]
    cases acknowledgedRow eventId room agent.inbox with
    | none => exact books
    | some row =>
      exact books_congr _ _ _ _ (books_remove agent.inbox agent.inboxSequence history .acknowledged
        (settles room row.sequence) books) rfl rfl
  | pruneAgentCopies now retention catalog =>
    exact books_remove agent.inbox agent.inboxSequence history .pruned (expiredEntry now retention catalog) books

theorem start_books : StateBooks startInbox := empty_books 0

variable {state : NetworkAgent × InboxHistory} {calls : List InboxCall}

theorem run_books : StateBooks (inboxAfter calls) :=
  runs_invariant StateBooks (fun state call next => call_books state next call)
    start_books (inbox_after_run)

def SettledOut (inbox : List InboxRow) (history : InboxHistory) : Prop :=
  ∀ event ∈ history.settled, pendingEvent inbox event = false

theorem pending_event_iff (inbox : List InboxRow) (event : MatrixEventId) :
    pendingEvent inbox event = true ↔ ∃ row ∈ inbox, row.eventId = event := by
  simp [pendingEvent]

theorem settled_out_fewer (settled : SettledOut inbox history)
    (within : ∀ row ∈ fewer, row ∈ inbox) : SettledOut fewer history := by
  intro event listed
  rw [Bool.eq_false_iff, ne_eq, pending_event_iff]
  rintro ⟨row, member, same⟩
  have absent := settled event listed
  rw [Bool.eq_false_iff, ne_eq, pending_event_iff] at absent
  exact absent ⟨row, within row member, same⟩

theorem settled_out_edit (settled : SettledOut inbox history)
    (each : List.Forall₂ SameEntry inbox edited) : SettledOut edited history := by
  intro event listed
  rw [Bool.eq_false_iff, ne_eq, pending_event_iff]
  rintro ⟨row, member, named⟩
  obtain ⟨old, was, same⟩ := related_from each member
  have absent := settled event listed
  rw [Bool.eq_false_iff, ne_eq, pending_event_iff] at absent
  exact absent ⟨old, was, by rw [← same_entry_event old row same, named]⟩

def Remembered (state : (Writing × Nat) × InboxHistory) : NetworkAgentInboxChange → Prop
  | .message message =>
    message.fromMe = false → message.eventId ∈ state.2.settled → recordedEvent state.1.1.messages message.eventId = true
  | _ => True

def RemembersSettled (state : NetworkAgent × InboxHistory) : InboxCall → Prop
  | .append batch =>
    isStale batch state.1 = false → ∀ earlier change later writing, batch.changes = earlier ++ change :: later →
        earlier.foldlM (observedChange batch) (startObserved batch state.1 state.2) = .ok writing → Remembered writing change
  | _ => True

theorem change_settled {batch : NetworkAgentInboxAppend} {old : Writing × Nat} (next : Writing × Nat)
    (settled : SettledOut old.1.inbox history) (remembered : Remembered (old, history) change)
    (changed : Changed batch old.1 next.1 change) : SettledOut next.1.inbox (noteChange old change next history) := by
  obtain ⟨old, before⟩ := old
  obtain ⟨next, after⟩ := next
  cases changed with
  | message message inserted delivered =>
    cases delivered with
    | repeated recorded => exact settled
    | quiet unrecorded kept => exact settled
    | entered unrecorded foreign fresh checked =>
      intro event listed
      have new : message.eventId ≠ event := by
        intro same
        have known := remembered foreign (same ▸ listed)
        rw [unrecorded] at known
        cases known
      have absent := settled event listed
      rw [pendingEvent] at absent
      simpa [pendingEvent, inboxRow, new] using absent
  | replace target patch edited events sequence beforeJoin => exact settled_out_edit settled edited
  | redact target withdrawn =>
    cases withdrawn
    intro event listed
    rcases List.mem_append.mp listed with earlier | taken
    · exact settled_out_fewer settled (fun row member => List.mem_of_mem_filter member) event earlier
    · simpa using (List.mem_filter.mp taken).2

theorem append_settled {batch : NetworkAgentInboxAppend} (settled : SettledOut agent.inbox history)
    (remembers : RemembersSettled (agent, history) (.append batch)) (appended : Appended batch agent history final) :
    SettledOut final.1.inbox final.2 := by
  cases appended with
  | unchanged => exact settled
  | applied writing count noted current run =>
    have guarded := guard_run (Remembered) _ _ _ batch.changes
      (fun earlier change later state split before =>
        remembers current earlier change later state split ((fold_runs ..).mpr before)) run
    have written : SettledOut writing.inbox noted :=
      runs_invariant (fun state : (Writing × Nat) × InboxHistory => SettledOut state.1.1.inbox state.2)
        (by
          rintro state change next kept ⟨remembered, stepped⟩
          obtain ⟨applied, same⟩ := (observe_ok ..).mp stepped
          rw [same]
          exact change_settled next.1 kept remembered
            (apply_counted_ok applied)) settled guarded
    exact settled_out_fewer written fun row member => List.mem_of_mem_filter member

theorem call_settled (books : StateBooks state)
    (settled : SettledOut state.1.inbox state.2) (stepped : Guarded RemembersSettled InboxStep state call next) :
    SettledOut next.1.inbox next.2 := by
  obtain ⟨agent, history⟩ := state
  obtain ⟨remembers, rfl⟩ := stepped
  cases call with
  | recordRoom room =>
    rw [observedCall, performCall, recordNetworkAgentRoom]
    split <;> exact settled
  | append batch => exact append_settled settled remembers (observed_append)
  | acknowledge eventId room =>
    rw [observedCall, performCall, noteCall, acknowledge]
    cases acknowledgedRow eventId room agent.inbox with
    | none => exact settled
    | some row =>
      intro event listed
      rcases List.mem_append.mp listed with earlier | now
      · exact settled_out_fewer settled (fun row member => List.mem_of_mem_filter member) event earlier
      · obtain ⟨gone, removed, named⟩ := List.mem_map.mp now
        obtain ⟨was, settledNow⟩ := List.mem_filter.mp removed
        rw [Bool.eq_false_iff, ne_eq, pending_event_iff]
        rintro ⟨other, stays, same⟩
        obtain ⟨listed', unsettled⟩ := List.mem_filter.mp stays
        have one := key_unique (·.eventId) agent.inbox books.distinct gone other was listed' (named.trans same.symm)
        rw [← one, settledNow] at unsettled
        cases unsettled
  | pruneAgentCopies now retention catalog =>
    exact settled_out_fewer settled fun row member => List.mem_of_mem_filter member

theorem run_settled (run : Runs (Guarded RemembersSettled InboxStep) startInbox calls final) : SettledOut final.1.inbox final.2 :=
  (runs_invariant (fun state => StateBooks state ∧ SettledOut state.1.inbox state.2)
    (fun state call next kept stepped =>
      ⟨call_books state next call kept.1 stepped.2, call_settled kept.1 kept.2 stepped⟩) ⟨start_books, fun event listed => by cases listed⟩ run).2

theorem acknowledge_exact : (∃ row ∈ agent.inbox, row.eventId = eventId ∧ inScope room row = true ∧
      (acknowledge eventId room agent).1.inbox =
        agent.inbox.filter fun other => !(decide (other.sequence ≤ row.sequence) && inScope room other)) ∨
      ((∀ row ∈ agent.inbox, row.eventId = eventId → inScope room row = false) ∧
        (acknowledge eventId room agent).1 = agent) := by
  cases found : acknowledgedRow eventId room agent.inbox with
  | none =>
    right
    rw [acknowledge, found]
    refine ⟨fun row listed named => ?_, rfl⟩
    have missed := List.find?_eq_none.mp found row listed
    simpa [named] using missed
  | some row =>
    left
    have named := List.find?_some found
    simp only [Bool.and_eq_true, decide_eq_true_eq] at named
    rw [acknowledge, found]
    exact ⟨row, List.mem_of_find?_eq_some found, named.1, named.2, rfl⟩

-- Entries are numbered in the order they arrive and an acknowledgement takes the
-- entries of its scope up to its own. What is settled stays out of the inbox as
-- long as the record of messages has every settled event that comes again.
theorem settled_events_stay_out (calls : List InboxCall) : let reached := inboxAfter calls
    (reached.2.arrived.Pairwise fun first later => first.sequence < later.sequence) ∧
      (reached.1.inbox.Pairwise fun first later => first.sequence < later.sequence) ∧
      (∀ eventId room, (∃ row ∈ reached.1.inbox, row.eventId = eventId ∧ inScope room row = true ∧
          (acknowledge eventId room reached.1).1.inbox =
            reached.1.inbox.filter fun other => !(decide (other.sequence ≤ row.sequence) && inScope room other)) ∨
          ((∀ row ∈ reached.1.inbox, row.eventId = eventId → inScope room row = false) ∧
            (acknowledge eventId room reached.1).1 = reached.1)) ∧
      (Runs (Guarded RemembersSettled InboxStep) startInbox calls reached →
        ∀ event ∈ reached.2.settled, pendingEvent reached.1.inbox event = false) := by
  intro reached
  have books : StateBooks reached := run_books
  exact ⟨books.arrivals, books.ordered, fun eventId room => acknowledge_exact, fun guarded => run_settled guarded⟩

theorem single_change_remembers {batch : NetworkAgentInboxAppend} (change : NetworkAgentInboxChange) (only : batch.changes = [change])
    (remembered : Remembered (startObserved batch state.1 state.2) change) : RemembersSettled state (.append batch) := by
  intro _ earlier other later writing split folded
  rw [only] at split
  cases earlier with
  | nil =>
    cases split
    rw [fold_ok_nil] at folded
    exact folded ▸ remembered
  | cons first rest => simp at split

def greeting : NetworkAgentInboxMessage where
  eventId := ⟨"$greeting"⟩
  roomId := ⟨"!hall:matrix.test"⟩
  messageId := ⟨1⟩
  actorKey := "human:@ada:matrix.test"
  actor := ⟨"@ada:matrix.test", "ada"⟩
  fromMe := false
  mentionsMe := false
  preview := .object []
  sentAt := 1000
  gap := none

def synced (known : Option String) (next : String) (changes : List NetworkAgentInboxChange) : InboxCall :=
  .append {
    expectedSyncToken := known.map fun token => ⟨token⟩
    nextSyncToken := ⟨next⟩
    changes := changes
    receivedAt := 2000
    capacity := 500
    historyCapacity := 500
    undecryptableBeforeJoin := [] }

def settledAgain : List InboxCall :=
  [synced none "s1" [.message greeting], .acknowledge ⟨"$greeting"⟩ none, synced (some "s1") "s2" [.message greeting]]

theorem settled_again_stays_out : ∀ event ∈ (inboxAfter settledAgain).2.settled,
    pendingEvent (inboxAfter settledAgain).1.inbox event = false := by
  refine (settled_events_stay_out settledAgain).2.2.2 ?_
  refine ⟨_, ⟨?_, rfl⟩, _, ⟨trivial, rfl⟩, _, ⟨?_, rfl⟩, rfl⟩
  · exact single_change_remembers (.message greeting) rfl fun _ listed => by cases listed
  · exact single_change_remembers (.message greeting) rfl fun _ _ => by decide

def withdrawnAgain : List InboxCall :=
  [synced none "s1" [.message greeting], .acknowledge ⟨"$greeting"⟩ none,
    synced (some "s1") "s2" [.redact greeting.target], synced (some "s2") "s3" [.message greeting]]

theorem withdrawn_message_comes_again : ¬ ∀ event ∈ (inboxAfter withdrawnAgain).2.settled,
    pendingEvent (inboxAfter withdrawnAgain).1.inbox event = false := by
  decide

end AgentRoom.NetworkAgents
