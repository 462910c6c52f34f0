import AgentRoom.Inbox.Calls

namespace AgentRoom.Inbox

open Library

theorem owes_more (owes : Owes inbox start base { ledger with dropped := ledger.dropped ++ more } session) :
    Owes inbox start base ledger session := by
  obtain ⟨others, kept⟩ := owes
  exact ⟨more ++ others, by simpa using kept⟩

section

variable {backend : Backend}

variable {α : Type}

theorem leaves_edit (continues : Leaves (rest ()) { session with waiter := change session.waiter } post failed) :
    Leaves (edit change >>= rest) session post failed := continues

theorem leaves_now_ms (continues : ∀ nowMs, Leaves (rest nowMs) { session with moment := session.moment + 1 } post failed) :
    Leaves (nowMs backend >>= rest) session post failed :=
  continues (session.waiter.clock.nowMs (backend.instant session.moment))

theorem leaves_still (still : Still method) (kept : Kept inbox start base session.moment session.waiter.book ledger) :
    Leaves method session (fun _ next => Same session next) (Owes inbox start base ledger) :=
  leaves_mono (fun _ _ same => same)
    (fun _ same => same_owes same (owes_of_kept kept)) (still session)

theorem fetch_pages_keep (honest : Honest inbox backend) (first keepWaiting : Bool) (known : List String)
    (cutOff : Option Duration) (pages : Nat) (waitMs : Option Nat) (fetchedOwn : Bool) (session : Session)
    (kept : Kept inbox start base session.moment session.waiter.book ledger)
    (held : ∀ event ∈ known, event ∈ session.waiter.heldIds) :
    Leaves (fetchPages backend first keepWaiting known cutOff pages waitMs fetchedOwn) session
      (fun _ next => Kept inbox start base next.moment next.waiter.book ledger) (Owes inbox start base ledger) := by
  induction pages generalizing waitMs fetchedOwn session with
  | zero => exact leaves_pure kept
  | succ pages ih =>
    have read := leaves_mono (fun _ _ ordered => ordered)
      (fun _ same => same_owes same (owes_of_kept kept))
      (fetch_one_ordered honest session kept keepWaiting waitMs cutOff)
    refine leaves_bind _ read ?_
    intro page later ordered
    obtain ⟨same, unchanged, inOrder⟩ := ordered
    refine leaves_now_ms fun nowMs => ?_
    refine leaves_edit ?_
    have tick : later.moment ≤ later.moment + 1 := Nat.le_succ _
    have noted : ((observe keepWaiting page.typing nowMs later.waiter).noteGaps page.gaps).book =
        session.waiter.book := by
      rw [note_gaps_book, observe_book, unchanged]
    have before : Kept inbox start base (later.moment + 1)
        ((observe keepWaiting page.typing nowMs later.waiter).noteGaps page.gaps).book ledger := by
      rw [noted]
      exact kept_later kept (Nat.le_trans same.ordered tick)
    have stillHeld : ∀ event ∈ known,
        event ∈ ((observe keepWaiting page.typing nowMs later.waiter).noteGaps page.gaps).heldIds := by
      intro event listed
      rw [held_ids_book, noted, ← held_ids_book]
      exact held event listed
    have fetched : ((observe keepWaiting page.typing nowMs later.waiter).noteGaps page.gaps).fetchedThrough =
        session.waiter.fetchedThrough := congrArg Book.fetchedThrough noted
    have pageOrder := order_later tick _ _ inOrder
    rw [← fetched] at pageOrder
    obtain ⟨after, afterHeld⟩ := absorb_page_kept before first known stillHeld nowMs pageOrder
    dsimp only
    by_cases more : page.more = true
    · rw [if_pos more]
      exact ih none _ _ after afterHeld
    · rw [if_neg more]
      exact leaves_pure after

theorem fetch_keeps (honest : Honest inbox backend) (keepWaiting : Bool) (block : Duration) (cutOff : Option Duration)
    (kept : Kept inbox start base session.moment session.waiter.book ledger) :
    Leaves (fetch backend keepWaiting block cutOff) session
      (fun _ next => Owes inbox start base ledger next ∧ next.waiter.held.length ≤ heldCapacity)
      (Owes inbox start base ledger) := by
  refine leaves_get ?_
  refine leaves_edit ?_
  refine leaves_bind _
    (fetch_pages_keep honest _ _ session.waiter.heldIds _ _ _ _ _ kept fun event listed => listed) ?_
  intro fetchedOwn fetched later
  refine leaves_edit ?_
  refine leaves_get ?_
  exact leaves_pure ⟨trim_kept later, trim_held⟩

theorem refresh_keeps (honest : Honest inbox backend) (cutOff : Option Duration) (session : Session)
    (kept : Kept inbox start base session.moment session.waiter.book ledger) : Leaves (refresh backend cutOff) session
      (fun _ next => Owes inbox start base ledger next ∧ next.waiter.held.length ≤ heldCapacity)
      (Owes inbox start base ledger) := by
  refine leaves_get ?_
  refine leaves_edit ?_
  refine leaves_bind _ (fetch_keeps honest true 0 cutOff (kept_rewind kept)) ?_
  intro fetchedNew fetched later
  obtain ⟨⟨more, stillKept⟩, bounded⟩ := later
  have restored := restore_arrivals_book fetched.waiter session.waiter.held
  have lengths := congrArg (fun book : Book => book.held.length) restored
  refine ⟨⟨more, ?_⟩, ?_⟩
  · rw [← restored] at stillKept
    exact stillKept
  · simp only [InboxWaiter.book, List.length_map] at lengths
    exact Nat.le_trans (Nat.le_of_eq lengths) bounded

end

section

variable {inbox : InboxLog} {start base : Option String → Nat} {ledger : Ledger} {backend : Backend}

variable {waiter : InboxWaiter} {delivery : Delivery}

theorem held_heard (kept : Kept inbox start base moment waiter.book ledger) :
    ∀ arrival ∈ waiter.held, hears waiter.options arrival = true := by
  intro arrival listed
  obtain ⟨genuine, other⟩ := kept.genuine arrival.preview (List.mem_map_of_mem listed)
  have asked := genuine.asked
  have scope : waiter.options.roomId = none ∨ waiter.options.roomId = inbox.roomId := kept.scope
  rcases scope with everywhere | own
  · simp [hears, other, everywhere]
  · rw [← own] at asked
    simp [hears, other, asked]

theorem decide_at_partitions
    (kept : Kept inbox start base moment waiter.book ledger) {nowMs : Millis} {deadlineMs : Option Millis} (decided : waiter.decideAt nowMs deadlineMs = .deliver delivery) :
    Partition waiter.held.length delivery := by
  have all := held_heard kept
  simp only [InboxWaiter.decideAt] at decided
  split at decided
  · exact decide_partitions all decided
  · exact decide_partitions all decided

def Decided (inbox : InboxLog) (start base : Option String → Nat) (ledger : Ledger) (bounded : Prop)
    (decision : WaitDecision) (next : Session) : Prop :=
  Owes inbox start base ledger next ∧ (bounded → next.waiter.held.length ≤ heldCapacity) ∧
    ∀ delivery, decision = .deliver delivery → Partition next.waiter.held.length delivery

theorem decision_keeps (deadline : Option Duration) (bounded : Prop)
    (owes : Owes inbox start base ledger session) (bound : bounded → session.waiter.held.length ≤ heldCapacity) :
    Leaves (decision backend deadline) session (Decided inbox start base ledger bounded)
      (Owes inbox start base ledger) := by
  obtain ⟨more, kept⟩ := owes
  refine leaves_now_ms fun nowMs => ?_
  have later : Kept inbox start base (session.moment + 2) session.waiter.book _ := kept_later kept (by omega)
  exact ⟨⟨more, later⟩, bound, fun delivery decided => decide_at_partitions later decided⟩

variable {bounded : Prop}

theorem weigh_keeps (honest : Honest inbox backend)
    (owes : Owes inbox start base ledger session) (bound : bounded → session.waiter.held.length ≤ heldCapacity) :
    Leaves (weigh backend deadline cutOff block) session (Decided inbox start base ledger bounded)
      (Owes inbox start base ledger) := by
  have passed := leaves_mono (fun _ _ same => same)
    (fun _ same => same_owes same owes) (still_passed_deadline backend deadline session)
  refine leaves_bind _ passed ?_
  intro expired later same
  have stillOwes := same_owes same owes
  by_cases gone : expired = true
  · rw [if_pos gone]
    have lengths := congrArg (fun book : Book => book.held.length) same.book
    simp only [InboxWaiter.book, List.length_map] at lengths
    exact decision_keeps deadline bounded stillOwes fun given => lengths ▸ bound given
  · rw [if_neg gone]
    obtain ⟨more, kept⟩ := stillOwes
    have fetching := leaves_mono (fun _ _ done => done)
      (fun _ failed => owes_more failed) (fetch_keeps honest true block cutOff kept)
    refine leaves_bind _ fetching ?_
    intro _ fetched done
    refine leaves_bind _
      (decision_keeps deadline True (owes_more done.1) fun _ => done.2) ?_
    intro first decided found
    by_cases delivers : isDeliver first = true
    · rw [if_pos delivers]
      obtain ⟨dropped, again⟩ := found.1
      have rereading := leaves_mono (fun _ _ done => done)
        (fun _ failed => owes_more failed) (refresh_keeps honest none decided again)
      refine leaves_bind _ rereading ?_
      intro _ reread fresh
      exact decision_keeps deadline bounded (owes_more fresh.1) fun _ => fresh.2
    · rw [if_neg delivers]
      exact leaves_pure ⟨found.1, fun _ => found.2.1 trivial, found.2.2⟩

def Settles (inbox : InboxLog) (start base : Option String → Nat) (ledger : Ledger) (bounded : Prop) :
    Option WokenBatch → Session → Prop
  | none, next => Owes inbox start base ledger next ∧ (bounded → next.waiter.held.length ≤ heldCapacity)
  | some batch, next =>
    (∃ later, Kept inbox start base next.moment next.waiter.book later ∧ Entered ledger later batch) ∧
      (bounded → next.waiter.held.length ≤ heldCapacity)

theorem take_held : (waiter.take delivery).2.held.length ≤ waiter.held.length := by
  have shape : (waiter.take delivery).2.held = waiter.held.drop (consumed delivery.picks) := by
    simp only [InboxWaiter.take, InboxWaiter.releaseGaps]
    split <;> split <;> rfl
  rw [shape, List.length_drop]
  omega

theorem answer_take (decided : Decided inbox start base ledger bounded (.deliver delivery) session) :
    Leaves (answer (·.take delivery)) session
      (fun batch next => Settles inbox start base ledger bounded (some batch) next) (Owes inbox start base ledger) := by
  obtain ⟨⟨more, kept⟩, bound, parts⟩ := decided
  obtain ⟨later, taken, entered⟩ := take_kept kept (parts delivery rfl)
  exact ⟨⟨later, taken, ⟨entered.delivered, entered.counted⟩⟩, fun given =>
    Nat.le_trans (take_held) (bound given)⟩

theorem wait_loop_keeps (honest : Honest inbox backend) (rounds : Nat) (block : Duration) (bounded : Prop) (session : Session)
    (owes : Owes inbox start base ledger session) (bound : bounded → session.waiter.held.length ≤ heldCapacity) :
    Leaves (waitLoop backend deadline cutOff rounds block) session (Settles inbox start base ledger bounded)
      (Owes inbox start base ledger) := by
  induction rounds generalizing block session with
  | zero => exact leaves_pure ⟨owes, bound⟩
  | succ rounds ih =>
    refine leaves_bind _
      (weigh_keeps honest owes bound) ?_
    intro decided later found
    cases decided with
    | deliver delivery => exact leaves_map (answer_take found)
    | wait recheckAtMs =>
      have blocking := leaves_mono (fun _ _ same => same)
        (fun _ same => same_owes same found.1) (still_next_block backend recheckAtMs deadline later)
      refine leaves_bind _ blocking ?_
      intro block next same
      have lengths := congrArg (fun book : Book => book.held.length) same.book
      simp only [InboxWaiter.book, List.length_map] at lengths
      exact ih block next (same_owes same found.1) fun given => lengths ▸ found.2.1 given

theorem await_keeps (honest : Honest inbox backend) (owes : Owes inbox start base ledger session)
    (bound : bounded → session.waiter.held.length ≤ heldCapacity) :
    Leaves (await backend rounds wait) session (Settles inbox start base ledger bounded)
      (Owes inbox start base ledger) := by
  have asked := leaves_mono (fun _ _ same => same)
    (fun _ same => same_owes same owes) (still_find_owner backend session)
  refine leaves_bind _ asked ?_
  intro _ known same
  have timed := leaves_mono (fun _ _ later => later)
    (fun _ later => same_owes (same_trans same later) owes) (still_now backend known)
  refine leaves_bind _ timed ?_
  intro started next later
  have whole := same_trans same later
  have lengths := congrArg (fun book : Book => book.held.length) whole.book
  simp only [InboxWaiter.book, List.length_map] at lengths
  exact leaves_get (wait_loop_keeps honest rounds 0 bounded next (same_owes whole owes)
    fun given => lengths ▸ bound given)

def Level (waiter : InboxWaiter) : Prop := waiter.deliveredThrough = waiter.heldAfter ∧ waiter.dropped = 0

theorem peek_keeps (honest : Honest inbox backend)
    (kept : Kept inbox start base session.moment session.waiter.book ledger) (level : Level session.waiter) :
    Leaves (peek backend) session (fun batch next => Settles inbox start base ledger bounded (some batch) next)
      (Owes inbox start base ledger) := by
  have suits : inbox.suits session.waiter.deliveredThrough := kept.deliveredSuits
  have shape (roomId : Option String) (limit : Nat) (fromAck : Bool) :
      (session.waiter.deliveredThrough.request roomId limit fromAck).roomId = roomId ∧
        (session.waiter.deliveredThrough.request roomId limit fromAck).fromAck = fromAck := by
    cases session.waiter.deliveredThrough <;> exact ⟨rfl, rfl⟩
  have frontier := request_reads_on inbox session.waiter.deliveredThrough session.waiter.roomId session.waiter.limit
    (session.waiter.start = .acknowledged)
  refine leaves_get ?_
  have read := leaves_mono (fun _ _ ordered => ordered)
    (fun _ same => same_owes same (owes_of_kept kept))
    (read_page_ordered honest session kept _ _ (.inl rfl) session.waiter.deliveredThrough
      (request_every_room suits) (shape _ _ _).1 (shape _ _ _).2 frontier none)
  refine leaves_bind _ read ?_
  intro page next ordered
  obtain ⟨same, unchanged, inOrder⟩ := ordered
  rw [← unchanged] at inOrder level
  obtain ⟨later, peeked, entered⟩ := peeked_kept (same_kept same kept) page inOrder level.1 level.2
  exact ⟨⟨later, peeked, entered⟩, fun _ => Nat.zero_le _⟩

theorem level_book {next : Session} (same : Same session next) (level : Level session.waiter) : Level next.waiter := by
  have delivered : next.waiter.deliveredThrough = session.waiter.deliveredThrough :=
    congrArg Book.deliveredThrough same.book
  have held : next.waiter.heldAfter = session.waiter.heldAfter := congrArg Book.heldAfter same.book
  have dropped : next.waiter.dropped = session.waiter.dropped := congrArg Book.dropped same.book
  exact ⟨delivered.trans (level.1.trans held.symm), dropped.trans level.2⟩

theorem next_keeps (honest : Honest inbox backend) (rounds : Nat) (wait : MessageWait) (bounded : Prop) {session : Session}
    (kept : Kept inbox start base session.moment session.waiter.book ledger)
    (bound : bounded → session.waiter.held.length ≤ heldCapacity) (level : wait = .forDuration 0 → Level session.waiter) :
    Leaves (next backend rounds wait) session (Settles inbox start base ledger bounded)
      (Owes inbox start base ledger) := by
  have unplaced : session.waiter.unplacedCursor = none := kept.placed
  have placed : Leaves (placeCursor backend rounds) session (fun done next => done = true ∧ next = session)
      (Owes inbox start base ledger) := by
    refine leaves_get ?_
    rw [unplaced]
    exact leaves_pure ⟨rfl, rfl⟩
  refine leaves_bind _ placed ?_
  rintro done begun ⟨rfl, rfl⟩
  rw [if_pos rfl]
  refine leaves_bind _ (leaves_still (still_resolve_mentioned backend) kept) ?_
  intro _ later same
  have lengths := congrArg (fun book : Book => book.held.length) same.book
  simp only [InboxWaiter.book, List.length_map] at lengths
  by_cases look : wait = .forDuration 0
  · rw [if_pos look]
    exact leaves_map
      (peek_keeps honest (same_kept same kept) (level_book same (level look)))
  · rw [if_neg look]
    exact await_keeps honest (owes_of_kept (same_kept same kept))
      fun given => lengths ▸ bound given

end

end AgentRoom.Inbox
