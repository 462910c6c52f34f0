import AgentRoom.Inbox.Handing

namespace AgentRoom.Inbox

open Library

-- A Bridge that answers a read with a page in cursor order, as the inbox is at that moment.
structure Honest (inbox : InboxLog) (backend : Backend) : Prop where
  pages : ∀ moment method request previews nextCursor typing gaps, method = .readInbox request ∨ method = .waitInbox request →
    request.everyRoom = inbox.everyRoom → request.roomId = inbox.roomId → request.fromAck = inbox.fromAck →
    backend.invoke moment method = .ok (.messagePreviews previews nextCursor typing gaps) →
    inbox.InOrder moment (inbox.requestFrontier request) previews

section

variable {inbox : InboxLog} {start : Option String → Nat} {moment later : Nat}

theorem order_later (ordered : moment ≤ later) (frontier : Option String → Nat)
    (previews : List IpcMessagePreviewSummary) (inOrder : inbox.InOrder moment frontier previews) :
    inbox.InOrder later frontier previews := by
  induction previews generalizing frontier with
  | nil => trivial
  | cons preview rest ih =>
    obtain ⟨genuine, ⟨reached, nothing⟩, others⟩ := inOrder
    refine ⟨{ genuine with arrived := inbox.stays _ _ _ ordered genuine.arrived }, ⟨reached, ?_⟩, ih _ others⟩
    intro other expected same above
    by_cases before : inbox.arrived moment other
    · have still : ¬ inbox.withdrawn moment other := fun gone => expected.2 (inbox.gone _ _ _ ordered gone)
      exact nothing other ⟨before, still⟩ same above
    · exact .inr (inbox.behind _ _ _ _ ordered same.symm genuine.arrived before expected.1)

end

def Owes (inbox : InboxLog) (start base : Option String → Nat) (ledger : Ledger) (session : Session) : Prop :=
  ∃ more, Kept inbox start base session.moment session.waiter.book { ledger with dropped := ledger.dropped ++ more }

variable {session next : Session}

theorem owes_of_kept
    (kept : Kept inbox start base session.moment session.waiter.book ledger) : Owes inbox start base ledger session :=
  ⟨[], by simpa using kept⟩

structure Same (session next : Session) : Prop where
  book : next.waiter.book = session.waiter.book
  ordered : session.moment ≤ next.moment

def Still {α : Type} (method : Waiting α) : Prop :=
  ∀ session, Leaves method session (fun _ => Same session) (Same session)

theorem same_trans (before : Same first second) (after : Same second third) :
    Same first third := ⟨after.book.trans before.book, Nat.le_trans before.ordered after.ordered⟩

theorem same_kept (same : Same session next) (kept : Kept inbox start base session.moment session.waiter.book ledger) :
    Kept inbox start base next.moment next.waiter.book ledger := same.book ▸ kept_later kept same.ordered

theorem same_owes
    (same : Same session next) (owes : Owes inbox start base ledger session) : Owes inbox start base ledger next := by
  obtain ⟨more, kept⟩ := owes
  exact ⟨more, same_kept same kept⟩

section

theorem still_pure : Still (pure value) := fun _ =>
  leaves_pure ⟨rfl, Nat.le_refl _⟩

theorem still_throw {failure : BridgeToolFailure} : Still (throw failure : Waiting α) := fun _ =>
  leaves_throw ⟨rfl, Nat.le_refl _⟩

theorem still_bind (begins : Still first) (continues : ∀ value, Still (rest value)) : Still (first >>= rest) := by
  intro session
  have opened := leaves_mono (fun _ _ same => same) (fun _ same => same)
    (begins session)
  refine leaves_bind _ opened fun value next same => ?_
  exact leaves_mono (fun _ _ later => same_trans same later)
    (fun _ later => same_trans same later) (continues value next)

theorem still_get : Still (get : Waiting Session) := fun _ => ⟨rfl, Nat.le_refl _⟩

theorem still_edit (same : ∀ waiter, (change waiter).book = waiter.book) :
    Still (edit change) := fun session => ⟨same session.waiter, Nat.le_refl _⟩

theorem still_tick : Still tick := fun session => ⟨rfl, Nat.le_succ session.moment⟩

theorem still_lift {result : Except BridgeToolFailure α} : Still (lift result) := by
  cases result with
  | ok value => exact still_pure
  | error failure => exact still_throw

variable (backend : Backend)

theorem still_now : Still (now backend) := still_bind still_tick fun _ => still_pure

theorem still_read_page : Still (readPage backend method cutOff) :=
  still_bind still_tick fun _ => still_lift

theorem still_resolve_mentioned : Still (resolveMentioned backend) := by
  refine still_bind still_get fun session => ?_
  by_cases waits : session.waiter.waitForMentioned = true
  · rw [if_pos waits]
    refine still_bind (still_edit fun _ => rfl) fun _ => still_bind (still_read_page backend) fun page => ?_
    dsimp only
    by_cases nobody : (mentionedPeople (page.previews.find? (·.fromMe))).isEmpty = true
    · rw [if_pos nobody]
      exact still_throw
    · rw [if_neg nobody]
      exact still_edit fun _ => rfl
  · rw [if_neg waits]
    exact still_pure

theorem still_find_owner : Still (findOwner backend) := by
  refine still_bind still_get fun session => ?_
  by_cases asks : session.waiter.lookupOwner = true
  · rw [if_pos asks]
    refine still_bind still_tick fun moment => still_edit fun waiter => ?_
    split <;> rfl
  · rw [if_neg asks]
    exact still_pure

theorem still_passed_deadline (deadline : Option Duration) : Still (passedDeadline backend deadline) := by
  cases deadline with
  | none => exact still_pure
  | some deadline => exact still_bind (still_now backend) fun _ => still_pure

theorem still_next_block (recheckAtMs : Option Millis) (deadline : Option Duration) :
    Still (nextBlock backend recheckAtMs deadline) :=
  still_bind (still_now backend) fun _ => still_bind (still_now backend) fun _ =>
    still_bind still_get fun _ => still_pure

end

section

variable {inbox : InboxLog} {start base : Option String → Nat} {ledger : Ledger} {backend : Backend}

theorem request_every_room (suits : inbox.suits position)
    : (position.request roomId limit fromAck).everyRoom = inbox.everyRoom := by
  cases position with
  | room passed => exact Eq.symm suits
  | everyRoom rooms => exact Eq.symm suits

variable {page : InboxPage}

theorem page_of_ok (answered : pageOf response = .ok page) :
    ∃ nextCursor, response = .messagePreviews page.previews nextCursor page.typing page.gaps := by
  cases response with
  | messagePreviews previews nextCursor typing gaps =>
    obtain rfl := Except.ok.inj answered
    exact ⟨nextCursor, rfl⟩
  | messages messages more => cases answered
  | selfSummary owner => cases answered
  | other => cases answered

theorem read_page_at_ok (read : readPageAt backend moment method cutOff = .ok page) :
    ∃ nextCursor, backend.invoke moment method = .ok (.messagePreviews page.previews nextCursor page.typing page.gaps) := by
  simp only [readPageAt] at read
  split at read
  · cases read
  · split at read
    · cases read
    · split at read
      · cases read
      · rename_i response invoked
        obtain ⟨nextCursor, rfl⟩ := page_of_ok read
        exact ⟨nextCursor, invoked⟩

theorem read_page_ordered (honest : Honest inbox backend) (session : Session)
    (kept : Kept inbox start base session.moment session.waiter.book ledger) (method : IpcMethod)
    (request : IpcListPreviewsRequest) (asks : method = .readInbox request ∨ method = .waitInbox request) (position : Position)
    (everyRoom : request.everyRoom = inbox.everyRoom) (roomId : request.roomId = session.waiter.roomId)
    (fromAck : request.fromAck = Decidable.decide (session.waiter.start = .acknowledged))
    (frontier : inbox.requestFrontier request = inbox.frontier position) (cutOff : Option Duration) :
    Leaves (readPage backend method cutOff) session
      (fun page next => Same session next ∧ next.waiter = session.waiter ∧
        inbox.InOrder next.moment (inbox.frontier position) page.previews) (Same session) := by
  have acknowledged : request.fromAck = inbox.fromAck := by
    have started : (session.waiter.start = .acknowledged) = (inbox.fromAck = true) := kept.fromAck
    rw [fromAck]
    simp [started]
  have ticked : Leaves tick session
      (fun moment next => moment = session.moment ∧ next = { session with moment := session.moment + 1 })
      (Same session) := ⟨rfl, rfl⟩
  refine leaves_bind _ ticked ?_
  intro moment next begun
  obtain ⟨rfl, rfl⟩ := begun
  cases read : readPageAt backend session.moment method cutOff with
  | error failure => exact ⟨rfl, Nat.le_succ _⟩
  | ok page =>
    obtain ⟨nextCursor, invoked⟩ := read_page_at_ok read
    have ordered := honest.pages session.moment method request page.previews nextCursor page.typing page.gaps asks
      everyRoom (roomId.trans kept.roomId) acknowledged invoked
    rw [frontier] at ordered
    exact ⟨⟨rfl, Nat.le_succ _⟩, rfl, order_later (Nat.le_succ _) _ _ ordered⟩

theorem fetch_one_ordered (honest : Honest inbox backend) (session : Session)
    (kept : Kept inbox start base session.moment session.waiter.book ledger) (keepWaiting : Bool)
    (waitMs : Option Nat) (cutOff : Option Duration) : Leaves (fetchOne backend keepWaiting waitMs cutOff) session
      (fun page next => Same session next ∧ next.waiter = session.waiter ∧
        inbox.InOrder next.moment (inbox.frontier session.waiter.fetchedThrough) page.previews) (Same session) := by
  have suits : inbox.suits session.waiter.fetchedThrough := kept.fetchedSuits
  have shape (roomId : Option String) (limit : Nat) (fromAck : Bool) :
      (session.waiter.fetchedThrough.request roomId limit fromAck).roomId = roomId ∧
        (session.waiter.fetchedThrough.request roomId limit fromAck).fromAck = fromAck := by
    cases session.waiter.fetchedThrough <;> exact ⟨rfl, rfl⟩
  have frontier := request_reads_on inbox session.waiter.fetchedThrough session.waiter.roomId fetchPage
    (session.waiter.start = .acknowledged)
  let asked (keepWaiting : Bool) : IpcListPreviewsRequest :=
    { session.waiter.fetchedThrough.request session.waiter.roomId fetchPage
        (session.waiter.start = .acknowledged) with keepWaiting, waitMs }
  refine leaves_get ?_
  cases keepWaiting with
  | true =>
    exact read_page_ordered honest session kept _ (asked true) (.inr rfl) _
      (request_every_room suits) (shape _ _ _).1 (shape _ _ _).2 frontier _
  | false =>
    exact read_page_ordered honest session kept _ (asked false) (.inl rfl) _
      (request_every_room suits) (shape _ _ _).1 (shape _ _ _).2 frontier _

end

open Library

section

variable (events : List IpcMessagePreviewSummary) (room : String) (place : String → Nat)

def servedLog : InboxLog where
  everyRoom := false
  roomId := some room
  fromAck := false
  room := fun _ => room
  mine := fun _ => false
  place := place
  origin := fun _ => 0
  arrived := fun _ event => ∃ preview ∈ events, preview.eventId = event
  withdrawn := fun _ _ => False
  stays := fun _ _ _ _ arrived => arrived
  gone := fun _ _ _ _ gone => gone
  behind := fun _ _ _ _ _ _ _ missing arrived => absurd arrived missing

def servedPage (request : IpcListPreviewsRequest) : IpcResponse :=
  let first := (request.afterEventId.map (place · + 1)).getD 0
  let page := (events.drop first).take request.limit
  .messagePreviews page
    (if first + request.limit < events.length then page.getLast?.map (·.eventId) else none) [] []

def served (instant : Nat → Duration) : Backend where
  instant := instant
  late := fun _ _ => false
  invoke := fun _ method =>
    match method with
    | .readInbox request | .waitInbox request => .ok (servedPage events place request)
    | _ => .ok .other

structure Indexed : Prop where
  placed : ∀ index preview, events[index]? = some preview → place preview.eventId = index
  others : ∀ preview ∈ events, preview.fromMe = false ∧ preview.roomId = room

variable {events room place}

theorem served_in_order (indexed : Indexed events room place) (moment count first : Nat)
    (frontier : Option String → Nat) (level : frontier none = first) :
    (servedLog events room place).InOrder moment frontier ((events.drop first).take count) := by
  induction count generalizing first frontier with
  | zero => simp [InboxLog.InOrder]
  | succ count ih =>
    cases shape : events.drop first with
    | nil => simp [InboxLog.InOrder]
    | cons preview rest =>
      have found : events[first]? = some preview := by
        rw [← List.head?_drop, shape]
        rfl
      have listed : preview ∈ events := List.mem_of_getElem? found
      obtain ⟨other, sameRoom⟩ := indexed.others preview listed
      have level' : place preview.eventId = first := indexed.placed first preview found
      have later : events.drop (first + 1) = rest := by
        rw [← List.drop_drop, shape]
        rfl
      have genuine : (servedLog events room place).Genuine moment preview := {
        arrived := ⟨preview, listed, rfl⟩
        room := sameRoom.symm
        mine := other.symm
        asked := by simp [servedLog, sameRoom] }
      refine ⟨genuine, ⟨Nat.le_of_eq (level.trans level'.symm), ?_⟩, ?_⟩
      · intro event expected same above
        obtain ⟨⟨found', member, rfl⟩, -⟩ := expected
        obtain ⟨index, at_⟩ := List.mem_iff_getElem?.mp member
        have placed : place found'.eventId = index := indexed.placed index found' at_
        have reached : frontier none ≤ place found'.eventId := above
        rcases Nat.lt_or_eq_of_le (by omega : first ≤ index) with behind | equal
        · exact .inr (by change place preview.eventId < place found'.eventId; omega)
        · subst equal
          rw [found] at at_
          exact .inl (by cases at_; rfl)
      · rw [← later]
        refine ih (first + 1) _ ?_
        have passed := @advance_same _ _ _ (servedLog events room place).lane (servedLog events room place).place frontier
          preview.eventId
        exact passed.trans (by change place preview.eventId + 1 = first + 1; omega)

theorem served_honest (indexed : Indexed events room place) (instant : Nat → Duration) :
    Honest (servedLog events room place) (served events place instant) where
  pages := by
    intro moment method request previews nextCursor typing gaps asks _ _ _ answered
    have page : servedPage events place request = .messagePreviews previews nextCursor typing gaps := by
      rcases asks with rfl | rfl
      · exact Except.ok.inj answered
      · exact Except.ok.inj answered
    cases page
    exact served_in_order indexed moment request.limit _ _ rfl

end

end AgentRoom.Inbox
