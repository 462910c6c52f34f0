import AgentRoom.Library.Runs
import AgentRoom.NetworkAgent.Inbox

namespace AgentRoom.NetworkAgents

open Library

inductive InboxCall where
  | recordRoom (room : NetworkAgentRoomRecord)
  | append (batch : NetworkAgentInboxAppend)
  | acknowledge (eventId : MatrixEventId) (room : Option MatrixRoomId)
  | pruneAgentCopies (now : UtcMillis) (retention : NetworkAgentMessageRetention) (catalog : MatrixRoomId → Option Nat)

def performCall (agent : NetworkAgent) : InboxCall → NetworkAgent
  | .recordRoom room => recordNetworkAgentRoom room agent
  | .append batch =>
    match append batch agent with
    | .ok (next, _) => next
    | .error _ => agent
  | .acknowledge eventId room => (acknowledge eventId room agent).1
  | .pruneAgentCopies now retention catalog => (pruneAgentCopies now retention catalog agent).1

inductive Leaving where
  | acknowledged
  | redacted
  | trimmed
  | pruned

structure OwedGap where
  roomId : MatrixRoomId
  gap : NetworkAgentTimelineGap
  since : Nat
deriving DecidableEq

-- What happened to the inbox so far: the messages that applied appends carried, the
-- entries as they went in and as they left, the events that an acknowledgement or a
-- redaction by the author settled, and the gaps that became owed.
structure InboxHistory where
  carried : List NetworkAgentInboxMessage
  arrived : List InboxRow
  left : List (Leaving × InboxRow)
  settled : List MatrixEventId
  owed : List OwedGap

def InboxHistory.empty : InboxHistory := ⟨[], [], [], [], []⟩

def InboxHistory.leave (history : InboxHistory) (why : Leaving) (rows : List InboxRow) : InboxHistory :=
  { history with left := history.left ++ rows.map (why, ·) }

def InboxHistory.settle (history : InboxHistory) (events : List MatrixEventId) : InboxHistory :=
  { history with settled := history.settled ++ events }

def InboxHistory.owe (history : InboxHistory) (gaps : List (MatrixRoomId × NetworkAgentTimelineGap)) : InboxHistory :=
  { history with owed := history.owed ++ gaps.map fun gap => ⟨gap.1, gap.2, history.arrived.length⟩ }

def withdrawnEvents (target : RevisionTarget) (inbox : List InboxRow) (carried : List NetworkAgentInboxMessage) :
    List MatrixEventId :=
  ((carried.filter (·.target = target)).map (·.eventId)).filter fun event => !pendingEvent inbox event

def noteChange (before : Writing × Nat) (change : NetworkAgentInboxChange) (after : Writing × Nat)
    (history : InboxHistory) : InboxHistory :=
  match change with
  | .message message =>
    let entered := after.1.inbox.drop before.1.inbox.length
    { history.owe (entered.flatMap fun row => message.gap.toList.map fun gap => (row.roomId, gap)) with
      carried := history.carried ++ [message]
      arrived := history.arrived ++ entered }
  | .replace _ _ => history
  | .redact target =>
    (history.leave .redacted (before.1.inbox.filter (·.target = target))).settle
      (withdrawnEvents target after.1.inbox history.carried)

section

variable (batch : NetworkAgentInboxAppend)

def observedChange :
    (Writing × Nat) × InboxHistory → NetworkAgentInboxChange → RepositoryResult ((Writing × Nat) × InboxHistory) :=
  observe (applyCounted batch) noteChange

def beforeJoin : NetworkAgentTimelineGap := ⟨none, .undecryptableBeforeJoin⟩

-- The rooms that an append marks: the agent is in them, and the join is a new one.
def markedRooms (rooms : List RoomRow) : List MatrixRoomId :=
  (batch.undecryptableBeforeJoin.filter fun gap => rooms.any (BeforeJoinGaps.marks gap)).map (·.roomId)

def startObserved (agent : NetworkAgent) (history : InboxHistory) : (Writing × Nat) × InboxHistory :=
  ((startWriting batch agent, 0), history.owe ((markedRooms batch agent.rooms).map (·, beforeJoin)))

def isStale (agent : NetworkAgent) : Bool :=
  decide (agent.disabled ∨ agent.syncToken ≠ batch.expectedSyncToken)

def noteAppend (agent : NetworkAgent) (history : InboxHistory) : InboxHistory :=
  if isStale batch agent then history
  else
    match batch.changes.foldlM (observedChange batch) (startObserved batch agent history) with
    | .ok ((writing, _), noted) =>
      noted.leave .trimmed (writing.inbox.filter (overCapacity batch writing.inbox))
    | .error _ => history

end

def noteCall (agent : NetworkAgent) (history : InboxHistory) : InboxCall → InboxHistory
  | .recordRoom _ => history
  | .append batch => noteAppend batch agent history
  | .acknowledge eventId room =>
    match acknowledgedRow eventId room agent.inbox with
    | none => history
    | some row =>
      let rows := agent.inbox.filter (settles room row.sequence)
      (history.leave .acknowledged rows).settle (rows.map (·.eventId))
  | .pruneAgentCopies now retention catalog =>
    history.leave .pruned (agent.inbox.filter (expiredEntry now retention catalog))

def observedCall (state : NetworkAgent × InboxHistory) (call : InboxCall) : NetworkAgent × InboxHistory :=
  (performCall state.1 call, noteCall state.1 state.2 call)

def InboxStep (state : NetworkAgent × InboxHistory) (call : InboxCall) (next : NetworkAgent × InboxHistory) : Prop :=
  next = observedCall state call

def startInbox : NetworkAgent × InboxHistory := (.fresh, .empty)

def inboxAfter (calls : List InboxCall) : NetworkAgent × InboxHistory := calls.foldl observedCall startInbox

theorem inbox_after_run : Runs InboxStep startInbox calls (inboxAfter calls) :=
  (foldl_runs observedCall startInbox (inboxAfter calls) calls).mpr rfl

def SameEntry (first later : InboxRow) : Prop := later = { first with preview := later.preview }

theorem same_entry_refl (row : InboxRow) : SameEntry row row := rfl

variable (first : InboxRow)

theorem same_entry_trans (one : SameEntry first second) (other : SameEntry second third) : SameEntry first third := by
  rw [SameEntry] at one other ⊢
  rw [other, one]

theorem same_entry_sequence (later : InboxRow) (same : SameEntry first later) : later.sequence = first.sequence := by rw [same]

theorem same_entry_event (later : InboxRow) (same : SameEntry first later) : later.eventId = first.eventId := by
  rw [same]

-- The inbox and its history agree: numbers only grow, nothing is in the inbox that
-- did not arrive, and what arrived is there or has left.
structure Books (inbox : List InboxRow) (sequence : Nat) (history : InboxHistory) : Prop where
  arrivals : history.arrived.Pairwise fun first later => first.sequence < later.sequence
  bounded : ∀ row ∈ history.arrived, row.sequence ≤ sequence
  ordered : inbox.Pairwise fun first later => first.sequence < later.sequence
  distinct : (inbox.map (·.eventId)).Nodup
  sourced : ∀ row ∈ inbox, ∃ first ∈ history.arrived, SameEntry first row
  conserved : ∀ first ∈ history.arrived, (∃ row ∈ inbox, SameEntry first row) ∨ ∃ gone ∈ history.left, SameEntry first gone.2

section

variable (inbox : List InboxRow) (sequence : Nat) (history : InboxHistory)

theorem empty_books : Books [] sequence .empty where
  arrivals := .nil
  bounded := by simp [InboxHistory.empty]
  ordered := .nil
  distinct := List.nodup_nil
  sourced := by simp
  conserved := by simp [InboxHistory.empty]

theorem inbox_bounded (books : Books inbox sequence history) (row : InboxRow) (listed : row ∈ inbox) :
    row.sequence ≤ sequence := by
  obtain ⟨first, arrived, same⟩ := books.sourced row listed
  rw [same_entry_sequence first row same]
  exact books.bounded first arrived

theorem books_congr (other : InboxHistory) (books : Books inbox sequence history)
    (arrived : other.arrived = history.arrived) (left : other.left = history.left) : Books inbox sequence other := by
  obtain ⟨arrivals, bounded, ordered, distinct, sourced, conserved⟩ := books
  rw [← arrived] at arrivals bounded sourced conserved
  rw [← left] at conserved
  exact ⟨arrivals, bounded, ordered, distinct, sourced, conserved⟩

theorem books_later (books : Books inbox sequence history) (grows : sequence ≤ later) : Books inbox later history :=
  { books with bounded := fun row listed => Nat.le_trans (books.bounded row listed) grows }

theorem books_enter (row : InboxRow) (books : Books inbox sequence history)
    (next : row.sequence = sequence + 1) (fresh : pendingEvent inbox row.eventId = false) :
    Books (inbox ++ [row]) (sequence + 1) { history with arrived := history.arrived ++ [row] } where
  arrivals := by
    rw [List.pairwise_append]
    refine ⟨books.arrivals, List.pairwise_singleton .., ?_⟩
    intro first arrived later last
    rw [List.mem_singleton.mp last, next]
    exact Nat.lt_succ_of_le (books.bounded first arrived)
  bounded := by
    intro first arrived
    rcases List.mem_append.mp arrived with earlier | last
    · exact Nat.le_succ_of_le (books.bounded first earlier)
    · rw [List.mem_singleton.mp last, next]
  ordered := by
    rw [List.pairwise_append]
    refine ⟨books.ordered, List.pairwise_singleton .., ?_⟩
    intro first listed later last
    rw [List.mem_singleton.mp last, next]
    exact Nat.lt_succ_of_le (inbox_bounded inbox sequence history books first listed)
  distinct := by
    apply keys_append books.distinct
    intro old listed same
    rw [pendingEvent, List.any_eq_false] at fresh
    exact fresh old listed (by simpa using same)
  sourced := by
    intro later listed
    rcases List.mem_append.mp listed with old | last
    · obtain ⟨first, arrived, same⟩ := books.sourced later old
      exact ⟨first, List.mem_append_left _ arrived, same⟩
    · exact ⟨row, List.mem_append_right _ (List.mem_singleton_self row), List.mem_singleton.mp last ▸ same_entry_refl row⟩
  conserved := by
    intro first arrived
    rcases List.mem_append.mp arrived with earlier | last
    · rcases books.conserved first earlier with ⟨later, listed, same⟩ | gone
      · exact .inl ⟨later, List.mem_append_left _ listed, same⟩
      · exact .inr gone
    · exact .inl ⟨row, List.mem_append_right _ (List.mem_singleton_self row), List.mem_singleton.mp last ▸ same_entry_refl row⟩

theorem books_edit (books : Books inbox sequence history)
    (each : List.Forall₂ SameEntry inbox edited) : Books edited sequence history where
  arrivals := books.arrivals
  bounded := books.bounded
  ordered := by
    have columns := related_column InboxRow.sequence same_entry_sequence each
    have before : (inbox.map InboxRow.sequence).Pairwise (· < ·) := List.pairwise_map.mpr books.ordered
    rw [← columns] at before
    exact List.pairwise_map.mp before
  distinct := by
    rw [related_column InboxRow.eventId same_entry_event each]
    exact books.distinct
  sourced := by
    intro later listed
    obtain ⟨old, member, same⟩ := related_from each listed
    obtain ⟨first, arrived, sameFirst⟩ := books.sourced old member
    exact ⟨first, arrived, same_entry_trans first sameFirst same⟩
  conserved := by
    intro first arrived
    rcases books.conserved first arrived with ⟨old, member, sameFirst⟩ | gone
    · obtain ⟨later, listed, same⟩ := related_to each member
      exact .inl ⟨later, listed, same_entry_trans first sameFirst same⟩
    · exact .inr gone

theorem books_remove (why : Leaving) (hit : InboxRow → Bool) (books : Books inbox sequence history) :
    Books (inbox.filter fun row => !hit row) sequence (history.leave why (inbox.filter hit)) where
  arrivals := books.arrivals
  bounded := books.bounded
  ordered := books.ordered.filter _
  distinct := books.distinct.sublist (List.filter_sublist.map _)
  sourced := fun row listed => books.sourced row (List.mem_of_mem_filter listed)
  conserved := by
    intro first arrived
    rcases books.conserved first arrived with ⟨row, listed, same⟩ | ⟨gone, listed, same⟩
    · by_cases removed : hit row = true
      · exact .inr ⟨(why, row), List.mem_append_right _ (List.mem_map.mpr ⟨row, List.mem_filter.mpr ⟨listed, removed⟩, rfl⟩), same⟩
      · exact .inl ⟨row, List.mem_filter.mpr ⟨listed, by simpa using removed⟩, same⟩
    · exact .inr ⟨gone, List.mem_append_left _ listed, same⟩

end

open Library

inductive Delivered (batch : NetworkAgentInboxAppend) (message : NetworkAgentInboxMessage) (old : Writing) :
    Writing → Bool → Prop where
  | repeated (recorded : recordedEvent old.messages message.eventId = true) : Delivered batch message old old false
  | quiet (unrecorded : recordedEvent old.messages message.eventId = false)
      (kept : message.fromMe = true ∨ pendingEvent old.inbox message.eventId = true) :
      Delivered batch message old
        { old with
          messages := old.messages ++ [messageRow batch message (old.sequence + 1)]
          sequence := old.sequence + 1 } false
  | entered (unrecorded : recordedEvent old.messages message.eventId = false) (foreign : message.fromMe = false)
      (fresh : pendingEvent old.inbox message.eventId = false) (checked : gapChecks message.gap = true) :
      Delivered batch message old
        { inbox := old.inbox ++ [inboxRow batch message (old.sequence + 1) (old.beforeJoin.owes message.roomId)]
          messages := old.messages ++ [messageRow batch message (old.sequence + 1)]
          sequence := old.sequence + 1
          beforeJoin := old.beforeJoin.told message.roomId } true

section

variable {batch : NetworkAgentInboxAppend} {message : NetworkAgentInboxMessage}

theorem record_message_ok {sequence : Nat} {recorded : Bool} (run : recordMessage batch message sequence messages = .ok (next, recorded)) :
    (recordedEvent messages message.eventId = true ∧ next = messages ∧ recorded = false) ∨
      (recordedEvent messages message.eventId = false ∧ next = messages ++ [messageRow batch message sequence] ∧
        recorded = true) := by
  rw [recordMessage] at run
  by_cases refused : (!(messageChecks message && actorChecks message.actor)) = true
  · rw [if_pos refused] at run
    cases run
  · rw [if_neg refused] at run
    by_cases known : recordedEvent messages message.eventId = true
    · rw [if_pos known] at run
      cases run
      exact .inl ⟨known, rfl, rfl⟩
    · rw [if_neg known] at run
      cases run
      exact .inr ⟨by simpa using known, rfl, rfl⟩

theorem insert_inbox_ok {sequence : Nat} {beforeJoin : Bool} {inbox next : List InboxRow}
    (run : insertInbox batch message sequence beforeJoin inbox = .ok (next, inserted)) :
    (pendingEvent inbox message.eventId = true ∧ next = inbox ∧ inserted = false) ∨
      (pendingEvent inbox message.eventId = false ∧ gapChecks message.gap = true ∧
        next = inbox ++ [inboxRow batch message sequence beforeJoin] ∧ inserted = true) := by
  rw [insertInbox] at run
  by_cases refused : (!(messageChecks message && gapChecks message.gap)) = true
  · rw [if_pos refused] at run
    cases run
  · rw [if_neg refused] at run
    have checked : gapChecks message.gap = true := by
      simp only [Bool.not_eq_true', Bool.not_eq_false, Bool.and_eq_true] at refused
      exact refused.2
    by_cases known : pendingEvent inbox message.eventId = true
    · rw [if_pos known] at run
      cases run
      exact .inl ⟨known, rfl, rfl⟩
    · rw [if_neg known] at run
      cases run
      exact .inr ⟨by simpa using known, checked, rfl, rfl⟩

theorem told_unowed {gaps : BeforeJoinGaps} (unowed : gaps.owes roomId = false) : gaps.told roomId = gaps := by
  rw [BeforeJoinGaps.told, if_neg (by rw [unowed]; decide)]

theorem apply_message_ok {old next : Writing}
    (run : applyMessage batch message old = .ok (next, inserted)) : Delivered batch message old next inserted := by
  rw [applyMessage] at run
  by_cases full : i64Max ≤ old.sequence
  · rw [if_pos full] at run
    cases run
  · rw [if_neg full] at run
    obtain ⟨⟨messages, recorded⟩, recording, rest⟩ := unbind run
    rcases record_message_ok recording with
      ⟨known, rfl, rfl⟩ | ⟨unknown, rfl, rfl⟩
    · cases rest
      exact .repeated known
    · by_cases own : message.fromMe = true
      · simp only [Bool.not_true, Bool.false_eq_true, if_false, if_pos own] at rest
        cases rest
        exact .quiet unknown (.inl own)
      · simp only [Bool.not_true, Bool.false_eq_true, if_false, if_neg own] at rest
        obtain ⟨⟨inbox, entered⟩, inserting, built⟩ := unbind rest
        rcases insert_inbox_ok inserting with
          ⟨waiting, rfl, rfl⟩ | ⟨fresh, checked, rfl, rfl⟩
        · cases built
          exact .quiet unknown (.inr waiting)
        · have done : Delivered batch message old _ true := .entered unknown (by simpa using own) fresh checked
          by_cases owed : old.beforeJoin.owes message.roomId = true
          · simp only [owed, Bool.and_self, if_true] at built
            cases built
            simpa only [owed] using done
          · have unowed : old.beforeJoin.owes message.roomId = false := by simpa using owed
            simp only [unowed, Bool.and_false, Bool.false_eq_true, if_false] at built
            cases built
            simpa only [unowed, told_unowed unowed] using done

end

theorem apply_replace_ok (run : applyReplace target patch old = .ok next) : List.Forall₂ SameEntry old.inbox next.inbox ∧
      next.messages.map (·.eventId) = old.messages.map (·.eventId) ∧ next.sequence = old.sequence ∧
      next.beforeJoin = old.beforeJoin := by
  obtain ⟨inbox, edited, later⟩ := unbind run
  obtain ⟨messages, revised, built⟩ := unbind later
  cases built
  refine ⟨?_, ?_, rfl, rfl⟩
  · apply (update_where_ok _ _ old.inbox inbox edited).imp
    rintro row new (⟨_, wrote⟩ | ⟨_, same⟩)
    · obtain ⟨preview, _, built⟩ := (map_ok _ _ _).mp wrote
      rw [← built]
      rfl
    · exact same ▸ same_entry_refl row
  · apply related_column (·.eventId) _ (update_where_ok _ _ old.messages messages revised)
    rintro row new (⟨_, wrote⟩ | ⟨_, same⟩)
    · obtain ⟨preview, _, built⟩ := (map_ok _ _ _).mp wrote
      rw [← built]
    · rw [same]

-- What one change of an append does, by the kind of the change.
inductive Changed (batch : NetworkAgentInboxAppend) (old next : Writing) : NetworkAgentInboxChange → Prop where
  | message (message : NetworkAgentInboxMessage) (inserted : Bool) (delivered : Delivered batch message old next inserted) :
      Changed batch old next (.message message)
  | replace (target : RevisionTarget) (patch : Json) (edited : List.Forall₂ SameEntry old.inbox next.inbox)
      (events : next.messages.map (·.eventId) = old.messages.map (·.eventId)) (sequence : next.sequence = old.sequence)
      (beforeJoin : next.beforeJoin = old.beforeJoin) : Changed batch old next (.replace target patch)
  | redact (target : RevisionTarget) (withdrawn : next = applyRedact target old) : Changed batch old next (.redact target)

theorem apply_counted_ok {batch : NetworkAgentInboxAppend} {old next : Writing × Nat}
    (run : applyCounted batch old change = .ok next) : Changed batch old.1 next.1 change := by
  obtain ⟨⟨writing, inserted⟩, applied, built⟩ := unbind run
  cases built
  cases change with
  | message message => exact .message message inserted (apply_message_ok applied)
  | replace target patch =>
    obtain ⟨replaced, replacing, same⟩ := (map_ok _ _ _).mp applied
    cases same
    obtain ⟨edited, events, sequence, beforeJoin⟩ := apply_replace_ok replacing
    exact .replace target patch edited events sequence beforeJoin
  | redact target =>
    cases applied
    exact .redact target rfl

theorem append_ok {batch : NetworkAgentInboxAppend} {outcome : NetworkAgentInboxAppendOutcome}
    (run : append batch agent = .ok (next, outcome)) : (isStale batch agent = true ∧ next = agent ∧ outcome = .stale) ∨
      (isStale batch agent = false ∧ ∃ writing appended,
        batch.changes.foldlM (applyCounted batch) (startWriting batch agent, 0) = .ok (writing, appended) ∧
          next = commitWriting batch agent writing ∧ outcome = .applied appended) := by
  rw [append] at run
  by_cases stale : agent.disabled ∨ agent.syncToken ≠ batch.expectedSyncToken
  · rw [if_pos stale] at run
    cases run
    exact .inl ⟨by simpa [isStale] using stale, rfl, rfl⟩
  · rw [if_neg stale] at run
    obtain ⟨⟨writing, appended⟩, folded, built⟩ := unbind run
    cases built
    exact .inr ⟨by simpa [isStale] using stale, writing, appended, folded, rfl, rfl⟩

inductive Appended (batch : NetworkAgentInboxAppend) (agent : NetworkAgent) (history : InboxHistory) :
    NetworkAgent × InboxHistory → Prop where
  | unchanged : Appended batch agent history (agent, history)
  | applied (writing : Writing) (appended : Nat) (noted : InboxHistory) (current : isStale batch agent = false)
      (run : Runs (Fallible (observedChange batch)) (startObserved batch agent history) batch.changes
        ((writing, appended), noted)) :
      Appended batch agent history
        (commitWriting batch agent writing, noted.leave .trimmed (writing.inbox.filter (overCapacity batch writing.inbox)))

theorem observed_append {batch : NetworkAgentInboxAppend} {history : InboxHistory} :
    Appended batch agent history (observedCall (agent, history) (.append batch)) := by
  rw [observedCall, performCall, noteCall, noteAppend]
  cases run : append batch agent with
  | ok answer =>
    obtain ⟨next, outcome⟩ := answer
    rcases append_ok run with ⟨stale, rfl, rfl⟩ | ⟨current, writing, appended, folded, rfl, rfl⟩
    · rw [if_pos stale]
      exact .unchanged
    · obtain ⟨noted, observed⟩ := observed_run (applyCounted batch) noteChange _ _ (startObserved batch agent history).2
        batch.changes folded
      replace observed : batch.changes.foldlM (observedChange batch) (startObserved batch agent history) =
        .ok ((writing, appended), noted) := observed
      rw [if_neg (by rw [current]; decide), observed]
      exact .applied writing appended noted current ((fold_runs ..).mp observed)
  | error failure =>
    by_cases stale : isStale batch agent = true
    · rw [if_pos stale]
      exact .unchanged
    · rw [if_neg stale]
      cases observed : batch.changes.foldlM (observedChange batch) (startObserved batch agent history) with
      | error other => exact .unchanged
      | ok final =>
        have folded := forget_observed (applyCounted batch) noteChange _ final batch.changes observed
        rw [append, if_neg (by simpa [isStale] using stale)] at run
        rw [show batch.changes.foldlM (applyCounted batch) (startWriting batch agent, 0) = .ok final.1 from folded] at run
        cases run

end AgentRoom.NetworkAgents
