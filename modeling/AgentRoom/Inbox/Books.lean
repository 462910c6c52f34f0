import AgentRoom.Library.Lanes
import AgentRoom.Library.Relation
import AgentRoom.Inbox.Waiter

namespace AgentRoom.Inbox

open Library

def laneOf (everyRoom : Bool) (room : String → String) (event : String) : Option String :=
  if everyRoom then some (room event) else none

-- The inbox a wait reads, over all moments: one lane for each room, or a single
-- one. What comes in later stands behind what came before, and nothing that
-- was withdrawn comes back.
structure InboxLog where
  everyRoom : Bool
  roomId : Option String
  fromAck : Bool
  room : String → String
  mine : String → Bool
  place : String → Nat
  origin : Option String → Nat
  arrived : Nat → String → Prop
  withdrawn : Nat → String → Prop
  stays : ∀ moment later event, moment ≤ later → arrived moment event → arrived later event
  gone : ∀ moment later event, moment ≤ later → withdrawn moment event → withdrawn later event
  behind : ∀ moment later first second, moment ≤ later → laneOf everyRoom room first = laneOf everyRoom room second →
    arrived moment first → ¬ arrived moment second → arrived later second → place first < place second

namespace InboxLog

variable (inbox : InboxLog)

def lane : String → Option String := laneOf inbox.everyRoom inbox.room

def present (moment : Nat) (event : String) : Prop := inbox.arrived moment event ∧ ¬ inbox.withdrawn moment event

def due (start : Option String → Nat) (moment : Nat) (event : String) : Prop :=
  inbox.present moment event ∧ inbox.mine event = false ∧ start (inbox.lane event) ≤ inbox.place event

def frontier : Position → Option String → Nat
  | .room passed, none => (passed.map (inbox.place · + 1)).getD (inbox.origin none)
  | .room _, some room => inbox.origin (some room)
  | .everyRoom _, none => inbox.origin none
  | .everyRoom rooms, some room => ((rooms[room]?).map (inbox.place · + 1)).getD (inbox.origin (some room))

def requestFrontier (request : IpcListPreviewsRequest) : Option String → Nat
  | none => (request.afterEventId.map (inbox.place · + 1)).getD (inbox.origin none)
  | some room => ((request.roomCursors.find? (·.roomId = room)).map (inbox.place ·.afterEventId + 1)).getD
      (inbox.origin (some room))

def suits : Position → Prop
  | .room _ => inbox.everyRoom = false
  | .everyRoom _ => inbox.everyRoom = true

structure Genuine (moment : Nat) (preview : IpcMessagePreviewSummary) : Prop where
  arrived : inbox.arrived moment preview.eventId
  room : inbox.room preview.eventId = preview.roomId
  mine : inbox.mine preview.eventId = preview.fromMe
  asked : inbox.roomId.all (· = preview.roomId) = true

def InOrder (moment : Nat) : (Option String → Nat) → List IpcMessagePreviewSummary → Prop
  | _, [] => True
  | frontier, preview :: rest =>
    inbox.Genuine moment preview ∧ NextIn inbox.lane inbox.place (inbox.present moment) frontier preview.eventId ∧
      InOrder moment (advance inbox.lane inbox.place frontier preview.eventId) rest

end InboxLog

section

variable (inbox : InboxLog)

variable (position : Position)

theorem request_reads_on (roomId : Option String) (limit : Nat) (fromAck : Bool) :
    inbox.requestFrontier (position.request roomId limit fromAck) = inbox.frontier position := by
  funext lane
  cases position with
  | room passed => cases lane <;> rfl
  | everyRoom rooms =>
    cases lane with
    | none => rfl
    | some room =>
      simp only [InboxLog.requestFrontier, InboxLog.frontier, Position.request]
      have distinct : ((rooms.toList.map fun known => (⟨known.1, known.2⟩ : IpcRoomCursor)).map (·.roomId)).Nodup := by
        rw [List.map_map]
        refine List.pairwise_map.mpr (Std.ExtTreeMap.distinct_keys_toList.imp fun apart same => ?_)
        exact apart (Std.LawfulEqCmp.compare_eq_iff_eq.mpr same)
      cases known : rooms[room]? with
      | none =>
        have missing : (rooms.toList.map fun known => (⟨known.1, known.2⟩ : IpcRoomCursor)).find?
            (·.roomId = room) = none := by
          refine List.find?_eq_none.mpr fun cursor listed => ?_
          obtain ⟨entry, member, rfl⟩ := List.mem_map.mp listed
          have value := Std.ExtTreeMap.mem_toList_iff_getElem?_eq_some.mp member
          intro same
          have equal : entry.1 = room := of_decide_eq_true same
          rw [equal, known] at value
          cases value
        rw [missing]
        rfl
      | some event =>
        have member := Std.ExtTreeMap.mem_toList_iff_getElem?_eq_some.mpr known
        have found := find_key distinct (⟨room, event⟩ : IpcRoomCursor)
          (List.mem_map.mpr ⟨(room, event), member, rfl⟩)
        rw [found]
        rfl

section

variable (suits : inbox.suits position)
include suits

theorem frontier_pass (preview : IpcMessagePreviewSummary) (room : inbox.room preview.eventId = preview.roomId) :
    inbox.frontier (position.pass preview) =
      advance inbox.lane inbox.place (inbox.frontier position) preview.eventId := by
  funext lane
  cases position with
  | room passed =>
    have single : inbox.lane preview.eventId = none := by
      simp only [InboxLog.suits] at suits
      simp [InboxLog.lane, laneOf, suits]
    cases lane with
    | none =>
      rw [← single, advance_same, single]
      rfl
    | some other =>
      rw [advance_other _ _ _ (by rw [single]; simp)]
      rfl
  | everyRoom rooms =>
    have several : inbox.lane preview.eventId = some preview.roomId := by
      simp only [InboxLog.suits] at suits
      simp [InboxLog.lane, laneOf, suits, room]
    cases lane with
    | none =>
      rw [advance_other _ _ _ (by rw [several]; simp)]
      rfl
    | some other =>
      by_cases same : other = preview.roomId
      · subst same
        rw [← several, advance_same, several]
        simp [Position.pass, InboxLog.frontier]
      · rw [advance_other _ _ _ (by rw [several]; simpa using same)]
        simp [Position.pass, InboxLog.frontier, Std.ExtTreeMap.getElem?_insert, Ne.symm same]

theorem suits_pass (preview : IpcMessagePreviewSummary) : inbox.suits (position.pass preview) := by
  cases position with
  | room passed => exact suits
  | everyRoom rooms => exact suits

theorem suits_pass_all (arrivals : List Arrival) : inbox.suits (position.passAll arrivals) := by
  induction arrivals generalizing position with
  | nil => exact suits
  | cons arrival rest ih => exact ih _ (suits_pass inbox position suits arrival.preview)

theorem frontier_pass_all (arrivals : List Arrival)
    (rooms : ∀ arrival ∈ arrivals, inbox.room arrival.preview.eventId = arrival.preview.roomId) :
    inbox.frontier (position.passAll arrivals) =
      (arrivals.map (·.preview.eventId)).foldl (advance inbox.lane inbox.place) (inbox.frontier position) := by
  induction arrivals generalizing position with
  | nil => rfl
  | cons arrival rest ih =>
    have passed := frontier_pass inbox position suits arrival.preview (rooms arrival List.mem_cons_self)
    rw [List.map_cons, List.foldl_cons, ← passed]
    exact ih _ (suits_pass inbox position suits arrival.preview) fun other listed =>
      rooms other (List.mem_cons_of_mem _ listed)

end

end

-- What a call settled so far: handed over, counted as skipped in one of the
-- batches, or dropped for lack of room and still to be counted.
structure Ledger where
  delivered : List String := []
  counted : List (List String) := []
  dropped : List String := []

def Ledger.settled (ledger : Ledger) : List String := ledger.delivered ++ ledger.counted.flatten ++ ledger.dropped

structure Book where
  roomId : Option String
  start : Start
  heardRoom : Option String
  unplacedCursor : Option String
  deliveredThrough : Position
  fetchedThrough : Position
  heldAfter : Position
  held : List IpcMessagePreviewSummary
  dropped : Nat

def InboxWaiter.book (waiter : InboxWaiter) : Book where
  roomId := waiter.roomId
  start := waiter.start
  heardRoom := waiter.options.roomId
  unplacedCursor := waiter.unplacedCursor
  deliveredThrough := waiter.deliveredThrough
  fetchedThrough := waiter.fetchedThrough
  heldAfter := waiter.heldAfter
  held := waiter.held.map (·.preview)
  dropped := waiter.dropped

def Reached (inbox : InboxLog) (start : Option String → Nat) (moment : Nat) (frontier : Option String → Nat) : Prop :=
  ∀ lane, frontier lane = start lane ∨
    ∃ event, inbox.arrived moment event ∧ inbox.lane event = lane ∧ frontier lane = inbox.place event + 1

structure Kept (inbox : InboxLog) (start base : Option String → Nat) (moment : Nat) (book : Book) (ledger : Ledger) : Prop where
  roomId : book.roomId = inbox.roomId
  fromAck : (book.start = .acknowledged) = (inbox.fromAck = true)
  scope : book.heardRoom = none ∨ book.heardRoom = inbox.roomId
  placed : book.unplacedCursor = none
  deliveredSuits : inbox.suits book.deliveredThrough
  fetchedSuits : inbox.suits book.fetchedThrough
  heldSuits : inbox.suits book.heldAfter
  covers : Covers inbox.lane inbox.place (inbox.due start moment) (inbox.frontier book.heldAfter)
    (book.held.map (·.eventId)) (inbox.frontier book.fetchedThrough)
  settled : Settled inbox.lane inbox.place (inbox.due start moment) start (inbox.frontier book.heldAfter) ledger.settled
  begun : ∀ lane, start lane ≤ inbox.frontier book.deliveredThrough lane
  based : ∀ lane, base lane ≤ inbox.frontier book.deliveredThrough lane
  lags : ∀ lane, inbox.frontier book.deliveredThrough lane ≤ inbox.frontier book.heldAfter lane
  deliveredReached : Reached inbox start moment (inbox.frontier book.deliveredThrough)
  fetchedReached : Reached inbox start moment (inbox.frontier book.fetchedThrough)
  heldReached : Reached inbox start moment (inbox.frontier book.heldAfter)
  genuine : ∀ preview ∈ book.held, inbox.Genuine moment preview ∧ preview.fromMe = false
  recorded : ∀ event ∈ ledger.settled, inbox.arrived moment event ∧ inbox.mine event = false
  counting : ledger.dropped.length = book.dropped

section

variable {inbox : InboxLog} {start base frontier : Option String → Nat} {moment later : Nat} {book : Book} {ledger : Ledger}

section

variable (reached : Reached inbox start moment frontier)
include reached

theorem reached_later (ordered : moment ≤ later) : Reached inbox start later frontier := by
  intro lane
  rcases reached lane with initial | ⟨event, arrived, same, ends⟩
  · exact .inl initial
  · exact .inr ⟨event, inbox.stays moment later event ordered arrived, same, ends⟩

theorem reached_advance (event : String) (arrived : inbox.arrived moment event) :
    Reached inbox start moment (advance inbox.lane inbox.place frontier event) := by
  intro lane
  by_cases same : lane = inbox.lane event
  · subst same
    exact .inr ⟨event, arrived, rfl, advance_same frontier event⟩
  · rw [advance_other _ _ _ same]
    exact reached lane

theorem due_later (ordered : moment ≤ later) (event : String) (expected : inbox.due start later event) :
    inbox.due start moment event ∨ frontier (inbox.lane event) ≤ inbox.place event := by
  obtain ⟨⟨arrived, kept⟩, other, above⟩ := expected
  by_cases earlier : inbox.arrived moment event
  · have still : ¬ inbox.withdrawn moment event := fun gone => kept (inbox.gone moment later event ordered gone)
    exact .inl ⟨⟨earlier, still⟩, other, above⟩
  · rcases reached (inbox.lane event) with initial | ⟨first, before, same, ends⟩
    · exact .inr (initial ▸ above)
    · have ahead := inbox.behind moment later first event ordered same before earlier arrived
      exact .inr (by omega)

end

theorem kept_later (kept : Kept inbox start base moment book ledger) (ordered : moment ≤ later) :
    Kept inbox start base later book ledger where
  roomId := kept.roomId
  fromAck := kept.fromAck
  scope := kept.scope
  placed := kept.placed
  deliveredSuits := kept.deliveredSuits
  fetchedSuits := kept.fetchedSuits
  heldSuits := kept.heldSuits
  covers := covers_later kept.covers (due_later kept.fetchedReached ordered)
  settled := settled_later kept.settled (due_later kept.heldReached ordered)
  begun := kept.begun
  based := kept.based
  lags := kept.lags
  deliveredReached := reached_later kept.deliveredReached ordered
  fetchedReached := reached_later kept.fetchedReached ordered
  heldReached := reached_later kept.heldReached ordered
  genuine := fun preview listed =>
    ⟨{ (kept.genuine preview listed).1 with
        arrived := inbox.stays _ _ _ ordered (kept.genuine preview listed).1.arrived },
      (kept.genuine preview listed).2⟩
  recorded := fun event listed =>
    ⟨inbox.stays _ _ _ ordered (kept.recorded event listed).1, (kept.recorded event listed).2⟩
  counting := kept.counting

theorem kept_rebase (kept : Kept inbox start base moment book ledger) :
    Kept inbox start (inbox.frontier book.deliveredThrough) moment book ledger :=
  { kept with based := fun _ => Nat.le_refl _ }

theorem next_due (next : NextIn inbox.lane inbox.place (inbox.present moment) frontier event) :
    NextIn inbox.lane inbox.place (inbox.due start moment) frontier event :=
  next_fewer next fun _ expected => expected.1

section

variable (kept : Kept inbox start base moment book ledger)
include kept

theorem kept_over (genuine : inbox.Genuine moment preview) (own : preview.fromMe = true)
    (next : NextIn inbox.lane inbox.place (inbox.present moment) (inbox.frontier book.fetchedThrough) preview.eventId) :
    Kept inbox start base moment { book with fetchedThrough := book.fetchedThrough.pass preview } ledger := by
  have passed := frontier_pass inbox book.fetchedThrough kept.fetchedSuits preview genuine.room
  have spare : ¬ inbox.due start moment preview.eventId := by
    intro expected
    have mine := genuine.mine
    rw [expected.2.1, own] at mine
    cases mine
  exact {
    kept with
    fetchedSuits := suits_pass inbox _ kept.fetchedSuits preview
    covers := by
      rw [passed]
      exact covers_over kept.covers (next_due next) spare
    fetchedReached := by
      rw [passed]
      exact reached_advance kept.fetchedReached preview.eventId genuine.arrived }

theorem kept_own (genuine : inbox.Genuine moment preview) (own : preview.fromMe = true)
    (next : NextIn inbox.lane inbox.place (inbox.present moment) (inbox.frontier book.fetchedThrough) preview.eventId)
    (unheld : ∀ event ∈ book.held.map (·.eventId), inbox.lane event ≠ inbox.lane preview.eventId) :
    Kept inbox start base moment { book with
      fetchedThrough := book.fetchedThrough.pass preview
      deliveredThrough := book.deliveredThrough.pass preview
      heldAfter := book.heldAfter.pass preview } ledger := by
  have fetched := frontier_pass inbox book.fetchedThrough kept.fetchedSuits preview genuine.room
  have delivered := frontier_pass inbox book.deliveredThrough kept.deliveredSuits preview genuine.room
  have held := frontier_pass inbox book.heldAfter kept.heldSuits preview genuine.room
  have spare : ¬ inbox.due start moment preview.eventId := by
    intro expected
    have mine := genuine.mine
    rw [expected.2.1, own] at mine
    cases mine
  have nextHeld := next_unheld kept.covers (next_due next) unheld
  have forward (lane : Option String) := le_advance (Nat.le_trans (kept.lags _) nextHeld.1) lane
  exact {
    kept with
    deliveredSuits := suits_pass inbox _ kept.deliveredSuits preview
    fetchedSuits := suits_pass inbox _ kept.fetchedSuits preview
    heldSuits := suits_pass inbox _ kept.heldSuits preview
    covers := by
      rw [fetched, held]
      exact covers_unheld kept.covers unheld
    settled := by
      rw [held]
      exact settled_over kept.settled nextHeld spare
    begun := by
      rw [delivered]
      exact fun lane => Nat.le_trans (kept.begun lane) (forward lane)
    based := by
      rw [delivered]
      exact fun lane => Nat.le_trans (kept.based lane) (forward lane)
    lags := by
      rw [delivered, held]
      exact advance_mono kept.lags preview.eventId
    deliveredReached := by
      rw [delivered]
      exact reached_advance kept.deliveredReached preview.eventId genuine.arrived
    fetchedReached := by
      rw [fetched]
      exact reached_advance kept.fetchedReached preview.eventId genuine.arrived
    heldReached := by
      rw [held]
      exact reached_advance kept.heldReached preview.eventId genuine.arrived }

theorem kept_hold (genuine : inbox.Genuine moment preview) (other : preview.fromMe = false)
    (next : NextIn inbox.lane inbox.place (inbox.present moment) (inbox.frontier book.fetchedThrough) preview.eventId) :
    Kept inbox start base moment { book with
      fetchedThrough := book.fetchedThrough.pass preview
      held := book.held ++ [preview] } ledger := by
  have passed := frontier_pass inbox book.fetchedThrough kept.fetchedSuits preview genuine.room
  exact {
    kept with
    fetchedSuits := suits_pass inbox _ kept.fetchedSuits preview
    covers := by
      rw [passed, List.map_append]
      exact covers_push kept.covers (next_due next)
    fetchedReached := by
      rw [passed]
      exact reached_advance kept.fetchedReached preview.eventId genuine.arrived
    genuine := by
      intro one listed
      rcases List.mem_append.mp listed with earlier | last
      · exact kept.genuine one earlier
      · obtain rfl : one = preview := by simpa using last
        exact ⟨genuine, other⟩ }

theorem kept_rewind : Kept inbox start base moment { book with held := [], fetchedThrough := book.heldAfter } ledger :=
  { kept with
    fetchedSuits := kept.heldSuits
    covers := covers_refl
    fetchedReached := kept.heldReached
    genuine := fun _ listed => nomatch listed }

end

theorem reached_fold (frontier : Option String → Nat) (reached : Reached inbox start moment frontier)
    (events : List String) (arrived : ∀ event ∈ events, inbox.arrived moment event) :
    Reached inbox start moment (events.foldl (advance inbox.lane inbox.place) frontier) := by
  induction events generalizing frontier with
  | nil => exact reached
  | cons event rest ih =>
    exact ih _ (reached_advance reached event (arrived event List.mem_cons_self)) fun other listed =>
      arrived other (List.mem_cons_of_mem _ listed)

theorem kept_catch_up (kept : Kept inbox start base moment book ledger) (nothing : book.held = []) :
    Kept inbox start base moment { book with
      deliveredThrough := book.fetchedThrough
      heldAfter := book.fetchedThrough } ledger := by
  have clear := kept.covers
  rw [nothing] at clear
  have forward (lane : Option String) := Nat.le_trans (kept.lags lane) (clear.1 lane)
  exact {
    kept with
    deliveredSuits := kept.fetchedSuits
    heldSuits := kept.fetchedSuits
    covers := by
      rw [nothing]
      exact covers_refl
    settled := settled_clear kept.settled clear
    begun := fun lane => Nat.le_trans (kept.begun lane) (forward lane)
    based := fun lane => Nat.le_trans (kept.based lane) (forward lane)
    lags := fun _ => Nat.le_refl _
    deliveredReached := kept.fetchedReached
    heldReached := kept.fetchedReached }

end

end AgentRoom.Inbox
