import AgentRoom.NetworkAgent.Settled
import Mathlib.Logic.Function.Basic

namespace AgentRoom.NetworkAgents

open Library

structure Reading where
  room : Option MatrixRoomId
  limit : Nat
  counter : Option MatrixSyncToken × Nat
  entries : Option (List NetworkAgentInboxEntry)

structure Desk where
  agent : NetworkAgent
  readings : Nat → Option Reading

def Desk.fresh : Desk := ⟨.fresh, fun _ => none⟩

inductive DeskStep where
  | call (call : InboxCall)
  | beginPending (reader : Nat) (room : Option MatrixRoomId) (limit : Nat)
  | readEntries (reader : Nat)
  | finishPending (reader : Nat)
  | abandonPending (reader : Nat)

def Desk.put (desk : Desk) (reader : Nat) (reading : Option Reading) : Desk :=
  { desk with readings := Function.update desk.readings reader reading }

def pageOf (desk : Desk) (reader : Nat) : Option NetworkAgentInboxPage :=
  (desk.readings reader).bind fun reading => reading.entries.map fun entries => {
    syncToken := reading.counter.1
    entries := entries
    pending := countPending reading.room desk.agent.inbox
    dropped := reading.counter.2 }

def performDesk (desk : Desk) : DeskStep → Desk
  | .call call => { desk with agent := performCall desk.agent call }
  | .beginPending reader room limit => desk.put reader (some ⟨room, limit, pendingCounter desk.agent, none⟩)
  | .readEntries reader =>
    match desk.readings reader with
    | some reading =>
      desk.put reader (some { reading with entries := some (pendingEntries reading.room reading.limit desk.agent) })
    | none => desk
  | .finishPending reader => if (pageOf desk reader).isSome then desk.put reader none else desk
  | .abandonPending reader => desk.put reader none

def isDrop : Leaving → Bool
  | .trimmed | .pruned => true
  | _ => false

def dropsOf (agent : NetworkAgent) (call : InboxCall) : List Nat :=
  ((noteCall agent .empty call).left.filter fun gone => isDrop gone.1).map (·.2.sequence)

def resets (agent : NetworkAgent) : InboxCall → Bool
  | .acknowledge eventId room => (acknowledgedRow eventId room agent.inbox).isSome
  | _ => false

-- Beside the desk: the drops since the counter was last set to zero, those that each
-- reading counted, the pages that were returned with those they count, and the
-- drops that no page had counted when the counter was set to zero. A reading is
-- current, and the drops are shown, when nothing was dropped since.
structure DropHistory where
  dropped : List Nat
  counted : Nat → List Nat
  pages : List (NetworkAgentInboxPage × List Nat)
  lost : List Nat
  current : Nat → Bool
  shown : Bool

def DropHistory.empty : DropHistory where
  dropped := []
  counted := fun _ => []
  pages := []
  lost := []
  current := fun _ => false
  shown := true

def reported (history : DropHistory) : List Nat := history.pages.flatMap Prod.snd

def noteDesk (desk : Desk) (history : DropHistory) : DeskStep → DropHistory
  | .call call =>
    if resets desk.agent call then
      { history with
        dropped := []
        lost := history.lost ++ history.dropped.filter (· ∉ reported history)
        shown := true }
    else if dropsOf desk.agent call = [] then history
    else
      { history with
        dropped := history.dropped ++ dropsOf desk.agent call
        current := fun _ => false
        shown := false }
  | .beginPending reader _ _ =>
    { history with
      counted := Function.update history.counted reader history.dropped
      current := Function.update history.current reader true }
  | .finishPending reader =>
    match pageOf desk reader with
    | some page =>
      { history with
        pages := history.pages ++ [(page, history.counted reader)]
        shown := history.shown || history.current reader }
    | none => history
  | .readEntries _ | .abandonPending _ => history

def observedDesk (state : Desk × DropHistory) (step : DeskStep) : Desk × DropHistory :=
  (performDesk state.1 step, noteDesk state.1 state.2 step)

def DeskMove (state : Desk × DropHistory) (step : DeskStep) (next : Desk × DropHistory) : Prop :=
  next = observedDesk state step

def deskAfter (steps : List DeskStep) : Desk × DropHistory := steps.foldl observedDesk (.fresh, .empty)

structure Counts (state : Desk × DropHistory) : Prop where
  counter : state.1.agent.droppedMessages = state.2.dropped.length
  readings : ∀ reader reading, state.1.readings reader = some reading → reading.counter.2 = (state.2.counted reader).length
  pages : ∀ page ∈ state.2.pages, page.1.dropped = page.2.length

theorem drops_of_append (appended : Appended batch agent .empty (next, noted)) : next.droppedMessages = agent.droppedMessages +
      ((noted.left.filter fun gone => isDrop gone.1).map (·.2.sequence)).length := by
  cases appended with
  | unchanged => simp [InboxHistory.empty]
  | applied writing count noted current run =>
    have kept : noted.left.filter (fun gone => isDrop gone.1) = [] := by
      refine runs_invariant
        (fun state : (Writing × Nat) × InboxHistory => state.2.left.filter (fun gone => isDrop gone.1) = [])
        ?_ rfl run
      intro state change after before stepped
      rw [((observe_ok ..).mp stepped).2]
      cases change with
      | message message => exact before
      | replace target patch => exact before
      | redact target =>
        simp only [noteChange, InboxHistory.leave, InboxHistory.settle, List.filter_append, before, List.nil_append]
        rw [List.filter_eq_nil_iff]
        intro gone listed
        obtain ⟨row, _, rfl⟩ := List.mem_map.mp listed
        exact Bool.false_ne_true
    have trimmed : ((writing.inbox.filter (overCapacity batch writing.inbox)).map ((Leaving.trimmed, ·))).filter
        (fun gone => isDrop gone.1) = (writing.inbox.filter (overCapacity batch writing.inbox)).map ((Leaving.trimmed, ·)) := by
      rw [List.filter_eq_self]
      intro gone listed
      obtain ⟨row, _, rfl⟩ := List.mem_map.mp listed
      rfl
    simp [InboxHistory.leave, kept, trimmed, commitWriting, trimToCapacity]

theorem dropped_after (agent : NetworkAgent) (call : InboxCall) (going : resets agent call = false) :
    (performCall agent call).droppedMessages = agent.droppedMessages + (dropsOf agent call).length := by
  cases call with
  | recordRoom room =>
    rw [performCall, recordNetworkAgentRoom]
    split <;> rfl
  | append batch =>
    exact drops_of_append (observed_append)
  | acknowledge eventId room =>
    rw [resets] at going
    have missed : acknowledgedRow eventId room agent.inbox = none := by simpa using going
    rw [performCall, acknowledge, dropsOf, noteCall, missed]
    rfl
  | pruneAgentCopies now retention catalog =>
    have pruned : ((agent.inbox.filter (expiredEntry now retention catalog)).map ((Leaving.pruned, ·))).filter
        (fun gone => isDrop gone.1) = (agent.inbox.filter (expiredEntry now retention catalog)).map ((Leaving.pruned, ·)) := by
      rw [List.filter_eq_self]
      intro gone listed
      obtain ⟨row, _, rfl⟩ := List.mem_map.mp listed
      rfl
    simp [performCall, pruneAgentCopies, dropsOf, noteCall, InboxHistory.leave, InboxHistory.empty, pruned]

theorem reset_dropped (reset : resets agent call = true) : (performCall agent call).droppedMessages = 0 := by
  cases call with
  | acknowledge eventId room =>
    obtain ⟨row, found⟩ := Option.isSome_iff_exists.mp reset
    rw [performCall, acknowledge, found]
  | recordRoom room => cases reset
  | append batch => cases reset
  | pruneAgentCopies now retention catalog => cases reset

theorem desk_counts (state next : Desk × DropHistory) (step : DeskStep) (counts : Counts state)
    (moved : DeskMove state step next) : Counts next := by
  obtain ⟨desk, history⟩ := state
  rw [moved, observedDesk]
  cases step with
  | call call =>
    rw [noteDesk]
    by_cases reset : resets desk.agent call = true
    · rw [if_pos reset]
      exact ⟨reset_dropped reset, counts.readings, counts.pages⟩
    · rw [if_neg reset]
      have counted := dropped_after desk.agent call (by simpa using reset)
      by_cases nothing : dropsOf desk.agent call = []
      · rw [if_pos nothing]
        rw [nothing] at counted
        exact ⟨counted.trans counts.counter, counts.readings, counts.pages⟩
      · rw [if_neg nothing]
        refine ⟨?_, counts.readings, counts.pages⟩
        rw [performDesk, List.length_append, counted]
        exact congrArg (· + _) counts.counter
  | beginPending reader room limit =>
    refine ⟨counts.counter, ?_, counts.pages⟩
    intro other reading found
    by_cases same : other = reader
    · simp only [performDesk, Desk.put, same, Function.update_self, Option.some.injEq] at found
      simp only [noteDesk, same, Function.update_self, ← found]
      exact counts.counter
    · simp only [performDesk, Desk.put, Function.update_of_ne same] at found
      simp only [noteDesk, Function.update_of_ne same]
      exact counts.readings other reading found
  | readEntries reader =>
    rw [performDesk]
    cases under : desk.readings reader with
    | none => exact counts
    | some old =>
      refine ⟨counts.counter, ?_, counts.pages⟩
      intro other reading found
      by_cases same : other = reader
      · simp only [Desk.put, same, Function.update_self, Option.some.injEq] at found
        rw [← found, same]
        exact counts.readings reader old under
      · simp only [Desk.put, Function.update_of_ne same] at found
        exact counts.readings other reading found
  | finishPending reader =>
    rw [performDesk, noteDesk]
    cases answer : pageOf desk reader with
    | none => exact counts
    | some page =>
      refine ⟨counts.counter, ?_, ?_⟩
      · intro other reading found
        by_cases same : other = reader
        · simp [Desk.put, same] at found
        · simp only [Option.isSome_some, if_true, Desk.put, Function.update_of_ne same] at found
          exact counts.readings other reading found
      · intro listed member
        rcases List.mem_append.mp member with earlier | last
        · exact counts.pages listed earlier
        · rw [List.mem_singleton.mp last]
          simp only [pageOf, Option.bind_eq_some_iff, Option.map_eq_some_iff] at answer
          obtain ⟨reading, under, entries, _, built⟩ := answer
          rw [← built]
          exact counts.readings reader reading under
  | abandonPending reader =>
    refine ⟨counts.counter, ?_, counts.pages⟩
    intro other reading found
    by_cases same : other = reader
    · simp [performDesk, Desk.put, same] at found
    · simp only [performDesk, Desk.put, Function.update_of_ne same] at found
      exact counts.readings other reading found

-- An acknowledgement that sets the counter to zero comes after a page whose
-- counter was read since the last drop.
def AcknowledgesShown (state : Desk × DropHistory) : DeskStep → Prop
  | .call call => resets state.1.agent call = true → state.2.shown = true
  | _ => True

-- A current reading counts every drop so far, and drops that are shown are on a page.
structure Covers (history : DropHistory) : Prop where
  lost : history.lost = []
  current : ∀ reader, history.current reader = true → ∀ drop ∈ history.dropped, drop ∈ history.counted reader
  shown : history.shown = true → ∀ drop ∈ history.dropped, drop ∈ reported history

theorem desk_covers (state next : Desk × DropHistory) (step : DeskStep) (covers : Covers state.2)
    (moved : Guarded AcknowledgesShown DeskMove state step next) : Covers next.2 := by
  obtain ⟨desk, history⟩ := state
  obtain ⟨meets, rfl⟩ := moved
  rw [observedDesk]
  cases step with
  | call call =>
    rw [noteDesk]
    by_cases reset : resets desk.agent call = true
    · rw [if_pos reset]
      refine ⟨?_, fun _ _ _ listed => (by cases listed), fun _ _ listed => (by cases listed)⟩
      have all := covers.shown (meets reset)
      have none : history.dropped.filter (· ∉ reported history) = [] := by
        rw [List.filter_eq_nil_iff]
        intro drop listed
        simpa using all drop listed
      rw [none, covers.lost]
      rfl
    · rw [if_neg reset]
      by_cases nothing : dropsOf desk.agent call = []
      · rw [if_pos nothing]
        exact covers
      · rw [if_neg nothing]
        exact ⟨covers.lost, fun _ stale => (by cases stale), fun stale => (by cases stale)⟩
  | beginPending reader room limit =>
    refine ⟨covers.lost, ?_, covers.shown⟩
    intro other current drop listed
    by_cases same : other = reader
    · simp only [noteDesk, same, Function.update_self]
      exact listed
    · simp only [noteDesk, Function.update_of_ne same] at current ⊢
      exact covers.current other current drop listed
  | readEntries reader => exact covers
  | finishPending reader =>
    rw [noteDesk]
    cases pageOf desk reader with
    | none => exact covers
    | some page =>
      refine ⟨covers.lost, covers.current, ?_⟩
      intro shown drop listed
      simp only [reported, List.flatMap_append, List.mem_append]
      rcases Bool.or_eq_true_iff.mp shown with before | now
      · exact .inl (covers.shown before drop listed)
      · exact .inr (by simpa using covers.current reader now drop listed)
  | abandonPending reader => exact covers

-- The counter and every page count drops; none goes unreported where each
-- acknowledgement comes after a page that was read since the last drop.
theorem drops_are_reported_before_reset (steps : List DeskStep) : let reached := deskAfter steps
    reached.1.agent.droppedMessages = reached.2.dropped.length ∧ (∀ page ∈ reached.2.pages, page.1.dropped = page.2.length) ∧
      (Runs (Guarded AcknowledgesShown DeskMove) (.fresh, .empty) steps reached → reached.2.lost = []) := by
  intro reached
  have run : Runs DeskMove (.fresh, .empty) steps reached := (foldl_runs ..).mpr rfl
  have counts : Counts reached := by
    refine runs_invariant Counts (fun state step next => desk_counts state next step) ?_ run
    exact ⟨rfl, fun _ _ found => (by cases found), fun _ listed => (by cases listed)⟩
  refine ⟨counts.counter, counts.pages, fun guarded => ?_⟩
  have covers : Covers reached.2 := by
    refine runs_invariant (fun state => Covers state.2) (fun state step next => desk_covers state next step) ?_ guarded
    exact ⟨rfl, fun _ current => (by cases current), fun _ _ listed => (by cases listed)⟩
  exact covers.lost

def farewell : NetworkAgentInboxMessage :=
  { greeting with eventId := ⟨"$farewell"⟩, messageId := ⟨2⟩, sentAt := 172800000 }

def pruneAtTwoDays : InboxCall := .pruneAgentCopies 172800000 ⟨1, 0⟩ fun _ => none

-- The page that is acknowledged may have been read before or after the first
-- message ran out of time.
def readThenPrune : List DeskStep :=
  [.call (synced none "s1" [.message greeting, .message farewell]), .beginPending 0 none 20, .readEntries 0,
    .finishPending 0, .call pruneAtTwoDays, .call (.acknowledge ⟨"$farewell"⟩ none)]

def pruneThenRead : List DeskStep :=
  [.call (synced none "s1" [.message greeting, .message farewell]), .call pruneAtTwoDays, .beginPending 0 none 20,
    .readEntries 0, .finishPending 0, .call (.acknowledge ⟨"$farewell"⟩ none)]

theorem prune_then_read_reports : (deskAfter pruneThenRead).2.lost = [] := by
  refine (drops_are_reported_before_reset pruneThenRead).2.2 ?_
  refine ⟨_, ⟨fun reset => (by cases reset), rfl⟩, _, ⟨fun reset => (by cases reset), rfl⟩, _, ⟨trivial, rfl⟩, _,
    ⟨trivial, rfl⟩, _, ⟨trivial, rfl⟩, _, ⟨fun _ => ?_, rfl⟩, rfl⟩
  decide

theorem pruned_message_goes_unreported : ¬ (deskAfter readThenPrune).2.lost = [] := by
  decide

end AgentRoom.NetworkAgents
