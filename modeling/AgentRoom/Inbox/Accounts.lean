import AgentRoom.Inbox.Waits

namespace AgentRoom.Inbox

open Library

structure WaitCall where
  rounds : Nat
  wait : MessageWait

abbrev Outcome := Except BridgeToolFailure (Option WokenBatch)

def perform (backend : Backend) (call : WaitCall) (session : Session) : Outcome × Session :=
  match (next backend call.rounds call.wait).run session with
  | .ok batch later => (.ok batch, later)
  | .error failure later => (.error failure, later)

def runCalls (backend : Backend) : List WaitCall → Session → List Outcome × Session
  | [], session => ([], session)
  | call :: rest, session =>
    let performed := perform backend call session
    let later := runCalls backend rest performed.2
    (performed.1 :: later.1, later.2)

def batchOf : Outcome → Option WokenBatch
  | .ok batch => batch
  | .error _ => none

def batches (outcomes : List Outcome) : List WokenBatch := outcomes.filterMap batchOf

def Plain (backend : Backend) : Session → List WaitCall → Prop
  | _, [] => True
  | session, call :: rest =>
    (call.wait = .forDuration 0 → Level session.waiter) ∧ Plain backend (perform backend call session).2 rest

structure Fresh (inbox : InboxLog) (waiter : InboxWaiter) : Prop where
  roomId : waiter.roomId = inbox.roomId
  fromAck : (waiter.start = .acknowledged) = (inbox.fromAck = true)
  scope : waiter.options.roomId = none ∨ waiter.options.roomId = waiter.roomId
  placed : waiter.unplacedCursor = none
  suits : inbox.suits waiter.deliveredThrough
  fetched : waiter.fetchedThrough = waiter.deliveredThrough
  after : waiter.heldAfter = waiter.deliveredThrough
  held : waiter.held = []
  dropped : waiter.dropped = 0

-- Where a message of somebody else is, after a run: handed over in a batch, counted as
-- skipped by one, dropped to be counted by the next, held, or not fetched yet.
structure Accounts (inbox : InboxLog) (start : Option String → Nat) (result : List Outcome × Session)
    (ledger : Ledger) : Prop where
  delivered : ledger.delivered = (batches result.1).flatMap fun batch => batch.previews.map (·.eventId)
  counted : ledger.counted.map List.length = (batches result.1).map (·.skipped)
  dropped : ledger.dropped.length = result.2.waiter.dropped
  once : (ledger.delivered ++ ledger.counted.flatten ++ ledger.dropped ++ result.2.waiter.heldIds).Nodup
  whole : ∀ event, inbox.due start result.2.moment event →
    (event ∈ ledger.delivered ++ ledger.counted.flatten ++ ledger.dropped ++ result.2.waiter.heldIds ↔
      inbox.place event < inbox.frontier result.2.waiter.fetchedThrough (inbox.lane event))
  genuine : ∀ event ∈ ledger.delivered ++ ledger.counted.flatten ++ ledger.dropped ++ result.2.waiter.heldIds,
    inbox.arrived result.2.moment event ∧ inbox.mine event = false ∧ start (inbox.lane event) ≤ inbox.place event

section

variable {inbox : InboxLog} {backend : Backend} {ledger : Ledger}

theorem new_fresh (single : inbox.everyRoom = false) (room : inbox.roomId = roomId) (earliest : inbox.fromAck = false)
    (scope : rules.options.roomId = none ∨ rules.options.roomId = roomId) :
    Fresh inbox (InboxWaiter.new roomId afterEventId limit rules clock) where
  roomId := room.symm
  fromAck := by simp [InboxWaiter.new, earliest]
  scope := scope
  placed := rfl
  suits := single
  fetched := rfl
  after := rfl
  held := rfl
  dropped := rfl

variable (backend) in

theorem fresh_kept {session : Session} (fresh : Fresh inbox session.waiter) :
    Kept inbox (inbox.frontier session.waiter.deliveredThrough) (inbox.frontier session.waiter.deliveredThrough)
      session.moment session.waiter.book {} where
  roomId := fresh.roomId
  fromAck := fresh.fromAck
  scope := fresh.roomId ▸ fresh.scope
  placed := fresh.placed
  deliveredSuits := fresh.suits
  fetchedSuits := by
    have suits := fresh.suits
    rw [← fresh.fetched] at suits
    exact suits
  heldSuits := by
    have suits := fresh.suits
    rw [← fresh.after] at suits
    exact suits
  covers := by
    have empty : session.waiter.book.held = [] := by simp [InboxWaiter.book, fresh.held]
    have level : session.waiter.book.fetchedThrough = session.waiter.book.heldAfter :=
      fresh.fetched.trans fresh.after.symm
    rw [empty, level]
    exact covers_refl
  settled := by
    have level : session.waiter.book.heldAfter = session.waiter.deliveredThrough := fresh.after
    rw [level]
    exact settled_start
  begun := fun _ => Nat.le_refl _
  based := fun _ => Nat.le_refl _
  lags := by
    have level : session.waiter.book.heldAfter = session.waiter.deliveredThrough := fresh.after
    rw [level]
    exact fun _ => Nat.le_refl _
  deliveredReached := fun _ => .inl rfl
  fetchedReached := by
    have level : session.waiter.book.fetchedThrough = session.waiter.deliveredThrough := fresh.fetched
    rw [level]
    exact fun _ => .inl rfl
  heldReached := by
    have level : session.waiter.book.heldAfter = session.waiter.deliveredThrough := fresh.after
    rw [level]
    exact fun _ => .inl rfl
  genuine := by
    intro preview listed
    have empty : session.waiter.book.held = [] := by simp [InboxWaiter.book, fresh.held]
    rw [empty] at listed
    cases listed
  recorded := fun event listed => nomatch listed
  counting := fresh.dropped.symm

structure EnteredAll (ledger later : Ledger) (batches : List WokenBatch) : Prop where
  delivered : later.delivered = ledger.delivered ++ batches.flatMap fun batch => batch.previews.map (·.eventId)
  counted : ∃ lists, later.counted = ledger.counted ++ lists ∧ lists.map List.length = batches.map (·.skipped)

theorem entered_nothing : EnteredAll ledger { ledger with dropped := ledger.dropped ++ more } [] := ⟨by simp, [], by simp⟩

theorem entered_all_trans (before : EnteredAll first second earlier) (after : EnteredAll second third later) :
    EnteredAll first third (earlier ++ later) := by
  obtain ⟨lists, counted, lengths⟩ := before.counted
  obtain ⟨others, counted', lengths'⟩ := after.counted
  refine ⟨?_, lists ++ others, ?_, ?_⟩
  · rw [after.delivered, before.delivered, List.flatMap_append, List.append_assoc]
  · rw [counted', counted, List.append_assoc]
  · rw [List.map_append, List.map_append, lengths, lengths']

theorem perform_keeps (honest : Honest inbox backend) (call : WaitCall)
    (kept : Kept inbox start base session.moment session.waiter.book ledger)
    (level : call.wait = .forDuration 0 → Level session.waiter) :
    ∃ later, Kept inbox start base (perform backend call session).2.moment
        (perform backend call session).2.waiter.book later ∧
      EnteredAll ledger later (batches [(perform backend call session).1]) ∧
      ((perform backend call session).1.isOk = true → session.waiter.held.length ≤ heldCapacity →
        (perform backend call session).2.waiter.held.length ≤ heldCapacity) := by
  have keeps := next_keeps honest call.rounds call.wait (session.waiter.held.length ≤ heldCapacity) kept
    (fun bound => bound) level
  unfold Leaves at keeps
  rw [perform]
  cases run : (next backend call.rounds call.wait).run session with
  | error failure later =>
    rw [run] at keeps
    obtain ⟨more, stillKept⟩ := keeps
    exact ⟨_, stillKept, entered_nothing, fun impossible => Bool.noConfusion impossible⟩
  | ok batch later =>
    rw [run] at keeps
    cases batch with
    | none =>
      obtain ⟨⟨more, stillKept⟩, bound⟩ := keeps
      exact ⟨_, stillKept, entered_nothing, fun _ => bound⟩
    | some batch =>
      obtain ⟨⟨next, stillKept, entered⟩, bound⟩ := keeps
      obtain ⟨skipped, counted, length⟩ := entered.counted
      refine ⟨next, stillKept, ⟨?_, [skipped], counted, ?_⟩, fun _ => bound⟩
      · simpa [batches, batchOf] using entered.delivered
      · simpa [batches, batchOf] using length

theorem run_keeps (honest : Honest inbox backend) (calls : List WaitCall) (session : Session)
    (kept : Kept inbox start base session.moment session.waiter.book ledger) (plain : Plain backend session calls) :
    ∃ later, Kept inbox start base (runCalls backend calls session).2.moment
        (runCalls backend calls session).2.waiter.book later ∧
      EnteredAll ledger later (batches (runCalls backend calls session).1) ∧
      ((∀ outcome ∈ (runCalls backend calls session).1, outcome.isOk = true) → session.waiter.held.length ≤ heldCapacity →
        (runCalls backend calls session).2.waiter.held.length ≤ heldCapacity) := by
  induction calls generalizing session ledger with
  | nil => exact ⟨ledger, kept, ⟨by simp [batches, runCalls], [], by simp [batches, runCalls]⟩, fun _ bound => bound⟩
  | cons call rest ih =>
    obtain ⟨level, others⟩ := plain
    obtain ⟨next, stillKept, entered, bounded⟩ := perform_keeps honest call kept level
    obtain ⟨last, finally_, enteredRest, boundedRest⟩ := ih _ stillKept others
    refine ⟨last, finally_, ?_, ?_⟩
    · have both := entered_all_trans entered enteredRest
      simpa [batches, runCalls, ← List.filterMap_append] using both
    · intro succeed bound
      exact boundedRest (fun outcome listed => succeed outcome (List.mem_cons_of_mem _ listed))
        (bounded (succeed _ List.mem_cons_self) bound)

theorem run_calls_append (first second : List WaitCall) (session : Session) : runCalls backend (first ++ second) session =
      ((runCalls backend first session).1 ++ (runCalls backend second (runCalls backend first session).2).1,
        (runCalls backend second (runCalls backend first session).2).2) := by
  induction first generalizing session with
  | nil => rfl
  | cons call rest ih => simp [runCalls, ih]

theorem plain_append (first second : List WaitCall) (session : Session) (plain : Plain backend session (first ++ second)) :
    Plain backend session first ∧ Plain backend (runCalls backend first session).2 second := by
  induction first generalizing session with
  | nil => exact ⟨trivial, plain⟩
  | cons call rest ih =>
    obtain ⟨before, after⟩ := ih _ plain.2
    exact ⟨⟨plain.1, before⟩, after⟩

theorem kept_accounts (kept : Kept inbox start base result.2.moment result.2.waiter.book ledger)
    (entered : EnteredAll {} ledger (batches result.1)) : Accounts inbox start result ledger := by
  obtain ⟨lists, counted, lengths⟩ := entered.counted
  have covers : Covers inbox.lane inbox.place (inbox.due start result.2.moment)
      (inbox.frontier result.2.waiter.heldAfter) result.2.waiter.heldIds
      (inbox.frontier result.2.waiter.fetchedThrough) := by
    rw [held_ids_book]
    exact kept.covers
  have settled : Settled inbox.lane inbox.place (inbox.due start result.2.moment) start
      (inbox.frontier result.2.waiter.heldAfter) ledger.settled := kept.settled
  refine {
    delivered := by simpa using entered.delivered
    counted := by simpa [counted] using lengths
    dropped := kept.counting
    once := ?_
    whole := ?_
    genuine := ?_ }
  · refine List.nodup_append.mpr ⟨settled.once, covers_once covers, ?_⟩
    intro event listed other held same
    have below := (settled.within event listed).2
    have above := (covers_mem covers held).1
    subst same
    omega
  · intro event expected
    constructor
    · intro listed
      rcases List.mem_append.mp listed with before | held
      · exact Nat.lt_of_lt_of_le (settled.within event before).2 (covers_le covers _)
      · exact (covers_mem covers held).2
    · intro below
      by_cases earlier : inbox.place event < inbox.frontier result.2.waiter.heldAfter (inbox.lane event)
      · exact List.mem_append_left _ (settled.whole event expected expected.2.2 earlier)
      · exact List.mem_append_right _ (covers_whole covers expected (Nat.le_of_not_lt earlier) below)
  · intro event listed
    rcases List.mem_append.mp listed with before | held
    · obtain ⟨arrived, other⟩ := kept.recorded event before
      exact ⟨arrived, other, (settled.within event before).1⟩
    · rw [held_ids_book] at held
      obtain ⟨arrived, other⟩ := held_mem kept [] (List.append_nil _).symm event held
      have above := (covers_mem kept.covers held).1
      exact ⟨arrived, other, Nat.le_trans (Nat.le_trans (kept.begun _) (kept.lags _)) above⟩

-- At every point of every run each message of somebody else is in exactly one
-- place, stays settled where it was settled, and the cursor only moves forward.
theorem inbox_waiter_accounts_for_every_message (honest : Honest inbox backend) (session : Session)
    (fresh : Fresh inbox session.waiter) (first second : List WaitCall) (plain : Plain backend session (first ++ second)) :
    ∃ before after : Ledger,
      Accounts inbox (inbox.frontier session.waiter.deliveredThrough) (runCalls backend first session) before ∧
      Accounts inbox (inbox.frontier session.waiter.deliveredThrough) (runCalls backend (first ++ second) session)
        after ∧
      before.delivered <+: after.delivered ∧ before.counted <+: after.counted ∧
      (∀ lane, inbox.frontier (runCalls backend first session).2.waiter.deliveredThrough lane ≤
        inbox.frontier (runCalls backend (first ++ second) session).2.waiter.deliveredThrough lane) ∧
      ((∀ outcome ∈ (runCalls backend (first ++ second) session).1, outcome.isOk = true) →
        (runCalls backend (first ++ second) session).2.waiter.held.length ≤ heldCapacity) := by
  obtain ⟨plainFirst, plainSecond⟩ := plain_append first second session plain
  obtain ⟨before, keptBefore, enteredBefore, boundedBefore⟩ :=
    run_keeps honest first session (fresh_kept fresh) plainFirst
  obtain ⟨after, keptAfter, enteredAfter, boundedAfter⟩ :=
    run_keeps honest second _ (kept_rebase keptBefore) plainSecond
  have whole := entered_all_trans enteredBefore enteredAfter
  rw [run_calls_append]
  obtain ⟨lists, counted, lengths⟩ := enteredAfter.counted
  refine ⟨before, after, kept_accounts keptBefore enteredBefore, kept_accounts keptAfter ?_,
    ⟨_, enteredAfter.delivered.symm⟩, ⟨lists, counted.symm⟩, keptAfter.based, ?_⟩
  · simpa [batches] using whole
  · intro succeed
    have room : session.waiter.held.length ≤ heldCapacity := by simp [fresh.held]
    exact boundedAfter (fun outcome listed => succeed outcome (List.mem_append_right _ listed))
      (boundedBefore (fun outcome listed => succeed outcome (List.mem_append_left _ listed)) room)

end

def guest (number : Nat) : IpcMessagePreviewSummary where
  messageId := "message"
  eventId := String.singleton (Char.ofNat (number + 1000))
  roomId := "room"
  actor := .human "principal" "guest" "@guest"
  createdAtUnixMs := 0
  title := ""
  summary := ""

def guests (count : Nat) : List IpcMessagePreviewSummary := (List.range count).map guest

def guestPlace (event : String) : Nat := (event.toList.headD 'a').toNat - 1000

theorem guests_indexed (count : Nat) (few : count ≤ 201) : Indexed (guests count) "room" guestPlace where
  placed := by
    intro index preview found
    have each : ∀ number, number < 201 → guestPlace (guest number).eventId = number := by decide +kernel
    obtain ⟨within, rfl⟩ := List.getElem?_eq_some_iff.mp found
    have below : index < count := by simpa [guests] using within
    simpa [guests] using each index (by omega)
  others := by
    intro preview listed
    obtain ⟨number, -, rfl⟩ := List.mem_map.mp listed
    exact ⟨rfl, rfl⟩

def guestBridge (count : Nat) : Backend := served (guests count) guestPlace fun _ => 0

def guestSession (wake : WakeRule) : Session :=
  ⟨InboxWaiter.new (some "room") none 50 ⟨{ wake, settle := 0 }, false⟩ ⟨0, 0⟩, 0⟩

theorem guest_session_fresh : Fresh (servedLog (guests count) "room" guestPlace) (guestSession wake).waiter :=
  new_fresh rfl rfl rfl (.inl rfl)

-- The second names the reader.
def visitors : List IpcMessagePreviewSummary := [guest 0, { guest 1 with mentionsMe := true }, guest 2]

theorem visitors_indexed : Indexed visitors "room" guestPlace where
  placed := by
    intro index preview found
    rcases index with _ | _ | _ | index <;> cases found <;> decide
  others := by
    intro preview listed
    rcases List.mem_cons.mp listed with rfl | later
    · exact ⟨rfl, rfl⟩
    · rcases List.mem_cons.mp later with rfl | last
      · exact ⟨rfl, rfl⟩
      · rw [List.mem_singleton.mp last]
        exact ⟨rfl, rfl⟩

def visitorLog : InboxLog := servedLog visitors "room" guestPlace

def oneAtATime : Session := ⟨InboxWaiter.new (some "room") none 1 ⟨{ wake := .mentions, settle := 0 }, false⟩ ⟨0, 0⟩, 0⟩

def visitorsRead (calls : List WaitCall) : List Outcome × Session :=
  runCalls (served visitors guestPlace fun _ => 0) calls oneAtATime

-- The first is passed over, the second handed over, and the last one waits.
theorem a_guest_is_accounted_for : ∃ before after : Ledger,
      Accounts visitorLog (visitorLog.frontier oneAtATime.waiter.deliveredThrough) (visitorsRead [⟨1, .untilMessage⟩]) before ∧
      Accounts visitorLog (visitorLog.frontier oneAtATime.waiter.deliveredThrough)
        (visitorsRead [⟨1, .untilMessage⟩, ⟨1, .untilMessage⟩]) after ∧
      before.delivered = [(guest 1).eventId] ∧ before.counted.map List.length = [1] ∧
      (visitorsRead [⟨1, .untilMessage⟩]).2.waiter.heldIds = [(guest 2).eventId] ∧ before.delivered <+: after.delivered := by
  have plain : Plain (served visitors guestPlace fun _ => 0) oneAtATime ([⟨1, .untilMessage⟩] ++ [⟨1, .untilMessage⟩]) :=
    ⟨fun look => (nomatch look), fun look => (nomatch look), trivial⟩
  obtain ⟨before, after, early, late, grown, -⟩ := inbox_waiter_accounts_for_every_message
    (served_honest visitors_indexed fun _ => 0) oneAtATime (new_fresh rfl rfl rfl (.inl rfl))
    [⟨1, .untilMessage⟩] [⟨1, .untilMessage⟩] plain
  have delivered : (batches (visitorsRead [⟨1, .untilMessage⟩]).1).flatMap (fun batch => batch.previews.map (·.eventId)) =
    [(guest 1).eventId] := rfl
  have skipped : (batches (visitorsRead [⟨1, .untilMessage⟩]).1).map (·.skipped) = [1] := rfl
  exact ⟨before, after, early, late, early.delivered.trans delivered, early.counted.trans skipped, rfl, grown⟩

def crowdedRun : List Outcome × Session := runCalls (guestBridge 201) [⟨1, .untilMessage⟩] (guestSession .mentions)

theorem full_buffer_loses_sight_of_the_first : Honest (servedLog (guests 201) "room" guestPlace) (guestBridge 201) ∧
      Fresh (servedLog (guests 201) "room" guestPlace) (guestSession .mentions).waiter ∧
      (servedLog (guests 201) "room" guestPlace).due (fun _ => 0) crowdedRun.2.moment (guest 0).eventId ∧
      batches crowdedRun.1 = [] ∧ (guest 0).eventId ∉ crowdedRun.2.waiter.heldIds ∧
      crowdedRun.2.waiter.fetchedThrough.cursor = some (guest 200).eventId := by
  have checked : ((batches crowdedRun.1).isEmpty && !crowdedRun.2.waiter.heldIds.contains (guest 0).eventId &&
      Decidable.decide (crowdedRun.2.waiter.fetchedThrough.cursor = some (guest 200).eventId)) = true := by
    decide +kernel
  obtain ⟨⟨none, unheld⟩, fetched⟩ := by simpa only [Bool.and_eq_true] using checked
  have listed : guest 0 ∈ guests 201 := List.mem_map_of_mem (List.mem_range.mpr (by omega))
  exact ⟨served_honest (guests_indexed 201 (Nat.le_refl _)) _, guest_session_fresh,
    ⟨⟨⟨guest 0, listed, rfl⟩, fun gone => gone⟩, rfl, Nat.zero_le _⟩, List.isEmpty_iff.mp none,
    by simpa using unheld, of_decide_eq_true fetched⟩

end AgentRoom.Inbox
