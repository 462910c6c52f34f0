import AgentRoom.NetworkAgent.Settled

namespace AgentRoom.NetworkAgents

open Library

def RoomOwes (rooms : List RoomRow) (roomId : MatrixRoomId) : Prop :=
  ∃ row ∈ rooms, row.room.matrixRoomId = roomId ∧ BeforeJoinGaps.isPending row = true

def Carries (row : InboxRow) (owed : OwedGap) : Prop :=
  row.roomId = owed.roomId ∧ owed.gap ∈ (inboxEntry row).gaps

theorem same_entry_carries (same : SameEntry first later) : Carries later owed ↔ Carries first owed := by
  rw [same]
  rfl

def Told (history : InboxHistory) (owed : OwedGap) : Prop := ∃ row ∈ history.arrived.drop owed.since, Carries row owed

theorem mark_cases (gap : NetworkAgentBeforeJoinGap) (listed : row ∈ rooms) :
    ∃ later ∈ BeforeJoinGaps.mark rooms gap, later.room.matrixRoomId = row.room.matrixRoomId ∧
      (later = row ∧ BeforeJoinGaps.marks gap row = false ∨ BeforeJoinGaps.isPending later = true) := by
  refine ⟨_, List.mem_map.mpr ⟨row, listed, rfl⟩, ?_⟩
  by_cases marked : BeforeJoinGaps.marks gap row = true
  · rw [if_pos marked]
    exact ⟨rfl, .inr rfl⟩
  · rw [if_neg marked]
    exact ⟨rfl, .inl ⟨rfl, by simpa using marked⟩⟩

theorem mark_owes (gap : NetworkAgentBeforeJoinGap)
    (owes : RoomOwes rooms roomId) : RoomOwes (BeforeJoinGaps.mark rooms gap) roomId := by
  obtain ⟨row, listed, named, waits⟩ := owes
  obtain ⟨later, member, same, kept | marked⟩ := mark_cases gap listed
  · exact ⟨later, member, same.trans named, kept.1 ▸ waits⟩
  · exact ⟨later, member, same.trans named, marked⟩

theorem marks_owe (gaps : List NetworkAgentBeforeJoinGap) (rooms : List RoomRow) (roomId : MatrixRoomId)
    (owes : RoomOwes rooms roomId) : RoomOwes (gaps.foldl BeforeJoinGaps.mark rooms) roomId := by
  induction gaps generalizing rooms with
  | nil => exact owes
  | cons gap rest ih => exact ih _ (mark_owes gap owes)

theorem marked_owes (gaps : List NetworkAgentBeforeJoinGap) (rooms : List RoomRow) (gap : NetworkAgentBeforeJoinGap)
    (listed : gap ∈ gaps) (row : RoomRow) (member : row ∈ rooms) (marked : BeforeJoinGaps.marks gap row = true) :
    RoomOwes (gaps.foldl BeforeJoinGaps.mark rooms) gap.roomId := by
  have named : row.room.matrixRoomId = gap.roomId := by
    simp only [BeforeJoinGaps.marks, Bool.and_eq_true, decide_eq_true_eq] at marked
    exact marked.1
  induction gaps generalizing rooms with
  | nil => cases listed
  | cons first rest ih =>
    obtain ⟨later, stays, same, ⟨rfl, unmarked⟩ | waits⟩ := mark_cases first member
    · rcases List.mem_cons.mp listed with head | tail
      · rw [← head, marked] at unmarked
        cases unmarked
      · exact ih _ tail stays
    · exact marks_owe rest _ gap.roomId ⟨later, stays, same.trans named, waits⟩

theorem report_owes {gaps : BeforeJoinGaps} (unreported : roomId ∉ gaps.reported) (owes : RoomOwes rooms roomId) :
    RoomOwes (gaps.recordReported rooms) roomId := by
  obtain ⟨row, listed, named, waits⟩ := owes
  refine ⟨row, List.mem_map.mpr ⟨row, listed, ?_⟩, named, waits⟩
  rw [if_neg (by rw [named]; exact unreported)]

-- What an append under way owes: the room is marked and no entry took its mark, or
-- an entry that came since tells of it.
def Pledged (marked : List RoomRow) (gaps : BeforeJoinGaps) (history : InboxHistory) (owed : OwedGap) : Prop :=
  owed.since ≤ history.arrived.length ∧
    ((owed.gap = beforeJoin ∧ RoomOwes marked owed.roomId ∧ owed.roomId ∉ gaps.reported) ∨ Told history owed)

def AllPledged (marked : List RoomRow) (gaps : BeforeJoinGaps) (history : InboxHistory) : Prop :=
  ∀ owed ∈ history.owed, Pledged marked gaps history owed

variable {history : InboxHistory} {agent : NetworkAgent}

variable {owed : OwedGap} {marked : List RoomRow}

theorem told_later (row : InboxRow) (told : Told history owed) :
    Told { history with arrived := history.arrived ++ [row] } owed := by
  obtain ⟨entry, listed, carries⟩ := told
  refine ⟨entry, ?_, carries⟩
  rw [List.drop_append]
  exact List.mem_append_left _ listed

theorem told_now (placed : owed.since ≤ history.arrived.length)
    (carries : Carries row owed) : Told { history with arrived := history.arrived ++ [row] } owed := by
  refine ⟨row, ?_, carries⟩
  rw [List.drop_append, Nat.sub_eq_zero_of_le placed]
  exact List.mem_append_right _ (List.mem_singleton_self row)

section

variable (batch : NetworkAgentInboxAppend) (message : NetworkAgentInboxMessage) (sequence : Nat)

theorem entry_carries_gap (stated : message.gap = some gap) :
    Carries (inboxRow batch message sequence before) ⟨message.roomId, gap, since⟩ := by
  refine ⟨rfl, List.mem_append_right _ ?_⟩
  simp [inboxRow, stated]

theorem entry_carries_join (since : Nat) : Carries (inboxRow batch message sequence true) ⟨message.roomId, beforeJoin, since⟩ :=
  ⟨rfl, List.mem_append_left _ (List.mem_singleton_self _)⟩

theorem told_reports (gaps : BeforeJoinGaps) (roomId other : MatrixRoomId) :
    other ∈ (gaps.told roomId).reported ↔ other ∈ gaps.reported ∨ (gaps.owes roomId = true ∧ other = roomId) := by
  rw [BeforeJoinGaps.told]
  by_cases owed : gaps.owes roomId = true
  · simp [owed]
  · simp [owed]

theorem entered_pledged (old : Writing) (pledged : AllPledged marked old.beforeJoin history) :
    let row := inboxRow batch message sequence (old.beforeJoin.owes message.roomId)
    AllPledged marked (old.beforeJoin.told message.roomId)
      { history.owe (message.gap.toList.map fun gap => (row.roomId, gap)) with
        carried := history.carried ++ [message]
        arrived := history.arrived ++ [row] } := by
  intro row owed listed
  rcases List.mem_append.mp listed with earlier | new
  · obtain ⟨placed, cases⟩ := pledged owed earlier
    refine ⟨by simp only [List.length_append]; omega, ?_⟩
    rcases cases with ⟨named, owes, unreported⟩ | told
    · by_cases taken : old.beforeJoin.owes message.roomId = true ∧ owed.roomId = message.roomId
      · right
        apply told_now placed
        have carries := entry_carries_join batch message sequence owed.since
        rw [← taken.2, ← named] at carries
        simpa only [row, taken.1] using carries
      · left
        refine ⟨named, owes, ?_⟩
        rw [told_reports]
        rintro (was | now)
        · exact unreported was
        · exact taken now
    · exact .inr (told_later row told)
  · obtain ⟨pair, stated, rfl⟩ := List.mem_map.mp new
    obtain ⟨gap, member, rfl⟩ := List.mem_map.mp stated
    refine ⟨by simp, .inr ?_⟩
    have known : message.gap = some gap := by simpa using member
    exact told_now (Nat.le_refl _) (entry_carries_gap batch message sequence known)

end

theorem pledged_congr (owed : other.owed = history.owed) (arrived : other.arrived = history.arrived)
    (pledged : AllPledged marked gaps history) : AllPledged marked gaps other := by
  intro gap listed
  rw [owed] at listed
  have kept := pledged gap listed
  rw [Pledged, Told] at kept ⊢
  rw [arrived]
  exact kept

theorem change_pledged {batch : NetworkAgentInboxAppend} {old next : Writing × Nat}
    (pledged : AllPledged marked old.1.beforeJoin history) (changed : Changed batch old.1 next.1 change) :
    AllPledged marked next.1.beforeJoin (noteChange old change next history) := by
  obtain ⟨old, before⟩ := old
  obtain ⟨next, after⟩ := next
  cases changed with
  | message message inserted delivered =>
    cases delivered with
    | repeated recorded =>
      exact pledged_congr (by simp [noteChange, InboxHistory.owe])
        (by simp [noteChange, InboxHistory.owe]) pledged
    | quiet unrecorded kept =>
      exact pledged_congr (by simp [noteChange, InboxHistory.owe])
        (by simp [noteChange, InboxHistory.owe]) pledged
    | entered unrecorded foreign fresh checked =>
      have entered := entered_pledged batch message (old.sequence + 1) old pledged
      simpa [noteChange] using entered
  | replace target patch edited events sequence beforeJoin =>
    rw [beforeJoin]
    exact pledged
  | redact target withdrawn =>
    cases withdrawn
    exact pledged_congr rfl rfl pledged

def GapsOwed (state : NetworkAgent × InboxHistory) : Prop :=
  ∀ owed ∈ state.2.owed, owed.since ≤ state.2.arrived.length ∧
    ((owed.gap = beforeJoin ∧ RoomOwes state.1.rooms owed.roomId) ∨ Told state.2 owed)

theorem start_pledged (batch : NetworkAgentInboxAppend) (owes : GapsOwed (agent, history)) :
    AllPledged (BeforeJoinGaps.load batch agent.rooms).1 (BeforeJoinGaps.load batch agent.rooms).2
      (startObserved batch agent history).2 := by
  intro owed listed
  rcases List.mem_append.mp listed with earlier | new
  · obtain ⟨placed, ⟨named, room⟩ | told⟩ := owes owed earlier
    · exact ⟨placed, .inl ⟨named, marks_owe _ _ _ room, List.not_mem_nil⟩⟩
    · exact ⟨placed, .inr told⟩
  · obtain ⟨pair, stated, rfl⟩ := List.mem_map.mp new
    obtain ⟨roomId, marked, rfl⟩ := List.mem_map.mp stated
    obtain ⟨gap, kept, rfl⟩ := List.mem_map.mp marked
    obtain ⟨member, matched⟩ := List.mem_filter.mp kept
    obtain ⟨row, held, marks⟩ := List.any_eq_true.mp matched
    exact ⟨Nat.le_refl _, .inl ⟨rfl, marked_owes _ _ gap member row held marks, List.not_mem_nil⟩⟩

theorem append_owes {batch : NetworkAgentInboxAppend} {final : NetworkAgent × InboxHistory} (owes : GapsOwed (agent, history))
    (appended : Appended batch agent history final) : GapsOwed final := by
  cases appended with
  | unchanged => exact owes
  | applied writing count noted current run =>
    have pledged : AllPledged (BeforeJoinGaps.load batch agent.rooms).1 writing.beforeJoin noted :=
      runs_invariant
        (fun state : (Writing × Nat) × InboxHistory =>
          AllPledged (BeforeJoinGaps.load batch agent.rooms).1 state.1.1.beforeJoin state.2)
        (by
          intro state change next kept stepped
          obtain ⟨applied, same⟩ := (observe_ok ..).mp stepped
          rw [same]
          exact change_pledged kept
            (apply_counted_ok applied)) (start_pledged batch owes) run
    intro owed listed
    obtain ⟨placed, ⟨named, room, unreported⟩ | told⟩ := pledged owed listed
    · exact ⟨placed, .inl ⟨named, report_owes unreported room⟩⟩
    · exact ⟨placed, .inr told⟩

theorem call_owes (state next : NetworkAgent × InboxHistory) (call : InboxCall) (owes : GapsOwed state)
    (stepped : InboxStep state call next) : GapsOwed next := by
  obtain ⟨agent, history⟩ := state
  rw [stepped]
  cases call with
  | recordRoom room =>
    rw [observedCall, performCall, recordNetworkAgentRoom]
    split
    · exact owes
    · intro owed listed
      obtain ⟨placed, ⟨named, row, held, rest⟩ | told⟩ := owes owed listed
      · exact ⟨placed, .inl ⟨named, row, List.mem_append_left _ held, rest⟩⟩
      · exact ⟨placed, .inr told⟩
  | append batch => exact append_owes owes (observed_append)
  | acknowledge eventId room =>
    rw [observedCall, performCall, noteCall, acknowledge]
    cases acknowledgedRow eventId room agent.inbox with
    | none => exact owes
    | some row => exact owes
  | pruneAgentCopies now retention catalog => exact owes

theorem run_owes (calls : List InboxCall) : GapsOwed (inboxAfter calls) :=
  runs_invariant GapsOwed (fun state call next => call_owes state next call)
    (fun _ listed => by cases listed) (inbox_after_run)

-- The room owes the gap, or an entry that came in since tells of it, and is in the
-- inbox still or has left it by one of the four ways out.
def StillOwed (state : NetworkAgent × InboxHistory) (owed : OwedGap) : Prop :=
  (owed.gap = beforeJoin ∧ RoomOwes state.1.rooms owed.roomId) ∨ ∃ first ∈ state.2.arrived.drop owed.since, Carries first owed ∧
      ((∃ row ∈ state.1.inbox, row.sequence = first.sequence ∧ Carries row owed) ∨
        ∃ gone ∈ state.2.left, gone.2.sequence = first.sequence ∧ Carries gone.2 owed)

theorem owed_gaps_reach_the_inbox (calls : List InboxCall) (owed : OwedGap)
    (listed : owed ∈ (inboxAfter calls).2.owed) : StillOwed (inboxAfter calls) owed := by
  obtain ⟨_, room | ⟨first, arrived, carries⟩⟩ := run_owes calls owed listed
  · exact .inl room
  · right
    refine ⟨first, arrived, carries, ?_⟩
    have books : StateBooks (inboxAfter calls) := run_books
    rcases books.conserved first (List.mem_of_mem_drop arrived) with ⟨row, held, same⟩ | ⟨gone, filed, same⟩
    · exact .inl ⟨row, held, same_entry_sequence first row same, (same_entry_carries same).mpr carries⟩
    · exact .inr ⟨gone, filed, same_entry_sequence first gone.2 same, (same_entry_carries same).mpr carries⟩

def hall : MatrixRoomId := ⟨"!hall:matrix.test"⟩

def joinedHall (changes : List NetworkAgentInboxChange) : List InboxCall :=
  [.recordRoom ⟨⟨1⟩, hall, 500⟩, .append {
      expectedSyncToken := none
      nextSyncToken := ⟨"s1"⟩
      changes := changes
      receivedAt := 2000
      capacity := 500
      historyCapacity := 500
      undecryptableBeforeJoin := [⟨hall, 400⟩] }]

def ownGreeting : NetworkAgentInboxMessage := { greeting with fromMe := true }

def missed : NetworkAgentTimelineGap := ⟨some ⟨"$earlier"⟩, .tooMany⟩

-- Owed by the room, carried by a pending entry, and gone with an entry taken back.
theorem joined_hall_is_owed : StillOwed (inboxAfter (joinedHall [.message ownGreeting])) ⟨hall, beforeJoin, 0⟩ ∧
    StillOwed (inboxAfter (joinedHall [.message { greeting with gap := some missed }])) ⟨hall, missed, 0⟩ ∧
    StillOwed (inboxAfter (joinedHall [.message { greeting with gap := some missed }] ++
      [synced (some "s1") "s2" [.redact greeting.target]])) ⟨hall, missed, 0⟩ :=
  ⟨owed_gaps_reach_the_inbox _ _ (by decide), owed_gaps_reach_the_inbox _ _ (by decide),
    owed_gaps_reach_the_inbox _ _ (by decide)⟩

def GapKept (agent : NetworkAgent) (gap : NetworkAgentTimelineGap) : Prop :=
  (∃ row ∈ agent.inbox, row.roomId = hall ∧ gap ∈ (inboxEntry row).gaps) ∨ RoomOwes agent.rooms hall

instance (agent : NetworkAgent) (gap : NetworkAgentTimelineGap) : Decidable (GapKept agent gap) := by
  unfold GapKept RoomOwes
  infer_instance

-- A gap in front of the agent's own message is not kept, and an entry that is taken
-- back takes its gaps with it.
theorem gaps_go_with_their_message :
    ¬ GapKept (inboxAfter [synced none "s1" [.message { ownGreeting with gap := some missed }]]).1 missed ∧
      ¬ GapKept (inboxAfter (joinedHall [.message { greeting with gap := some missed }] ++
        [synced (some "s1") "s2" [.redact greeting.target]])).1 missed ∧
      ¬ GapKept (inboxAfter (joinedHall [.message greeting] ++
        [synced (some "s1") "s2" [.redact greeting.target]])).1 beforeJoin := by
  decide

end AgentRoom.NetworkAgents
