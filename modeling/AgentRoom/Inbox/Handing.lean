import AgentRoom.Inbox.Settling

namespace AgentRoom.Inbox

open Library

section

variable (waiter : InboxWaiter)

theorem note_gaps_book (gaps : List IpcTimelineGap) : (waiter.noteGaps gaps).book = waiter.book := by
  induction gaps generalizing waiter with
  | nil => rfl
  | cons gap rest ih =>
    have noted : (waiter.noteGap gap).book = waiter.book := by
      simp only [InboxWaiter.noteGap]
      split <;> rfl
    exact (ih (waiter.noteGap gap)).trans noted

theorem observe_book (keepWaiting : Bool) (typing : List IpcTyping) (nowMs : Millis) :
    (observe keepWaiting typing nowMs waiter).book = waiter.book := by
  simp only [observe]
  split <;> rfl

theorem arrived_no_later_previews (held : List Arrival) (atMs : Option Millis) :
    (InboxWaiter.arrivedNoLater held atMs).map (·.preview) = held.map (·.preview) := by
  cases atMs with
  | none => rfl
  | some atMs =>
    cases held with
    | nil => rfl
    | cons first rest => rfl

theorem restore_arrival_preview : (InboxWaiter.restoreArrival arrived arrival).preview = arrival.preview := by
  simp only [InboxWaiter.restoreArrival]
  split <;> rfl

theorem restore_arrivals_book (arrived : List Arrival) : (waiter.restoreArrivals arrived).book = waiter.book := by
  have previews : (waiter.restoreArrivals arrived).held.map (·.preview) = waiter.held.map (·.preview) := by
    simp only [InboxWaiter.restoreArrivals, arrived_no_later_previews, List.map_map]
    exact List.map_congr_left fun arrival _ => restore_arrival_preview
  simp only [InboxWaiter.book, previews]
  rfl

theorem held_ids_book : waiter.heldIds = waiter.book.held.map (·.eventId) := by
  simp [InboxWaiter.heldIds, InboxWaiter.book, Function.comp_def]

end

section

variable {inbox : InboxLog} {start base : Option String → Nat} {moment : Nat} {waiter : InboxWaiter} {ledger : Ledger}

variable {preview : IpcMessagePreviewSummary}

theorem absorb_fetched (first : Bool) (known : List String) (nowMs : Millis) (preview : IpcMessagePreviewSummary) :
    (waiter.absorb first known nowMs preview).fetchedThrough = waiter.fetchedThrough.pass preview := by
  simp only [InboxWaiter.absorb]
  split
  · split <;> rfl
  · rfl

theorem absorb_held {known : List String} {nowMs : Millis} (held : event ∈ waiter.heldIds) : event ∈ (waiter.absorb first known nowMs preview).heldIds := by
  simp only [InboxWaiter.absorb]
  split
  · split <;> exact held
  · simpa [InboxWaiter.heldIds] using Or.inl held

theorem book_split (split : waiter.held = taken ++ rest) : waiter.book.held = taken.map (·.preview) ++ rest.map (·.preview) := by
  simp [InboxWaiter.book, split]

section

variable (kept : Kept inbox start base moment waiter.book ledger)
include kept

theorem room_unheld_lane (room : inbox.room preview.eventId = preview.roomId) (unheld : waiter.roomUnheld preview = true) :
    ∀ event ∈ waiter.book.held.map (·.eventId), inbox.lane event ≠ inbox.lane preview.eventId := by
  intro event listed same
  obtain ⟨other, member, rfl⟩ := List.mem_map.mp listed
  obtain ⟨genuine, -⟩ := kept.genuine other member
  obtain ⟨arrival, held, rfl⟩ := List.mem_map.mp member
  have suits := kept.heldSuits
  simp only [InboxWaiter.book] at suits
  cases after : waiter.heldAfter with
  | room passed =>
    have empty : waiter.held = [] := by simpa [InboxWaiter.roomUnheld, after] using unheld
    rw [empty] at held
    cases held
  | everyRoom rooms =>
    rw [after] at suits
    have several : inbox.everyRoom = true := suits
    have rooms : arrival.preview.roomId = preview.roomId := by
      simpa [InboxLog.lane, laneOf, several, genuine.room, room] using same
    have apart : ∀ arrival ∈ waiter.held, arrival.preview.roomId ≠ preview.roomId := by
      simpa [InboxWaiter.roomUnheld, after] using unheld
    exact apart arrival held rooms

theorem known_is_passed (known : List String)
    (held : ∀ event ∈ known, event ∈ waiter.heldIds)
    (next : NextIn inbox.lane inbox.place (inbox.present moment) (inbox.frontier waiter.fetchedThrough) event) :
    event ∉ known := by
  intro again
  have listed := held event again
  rw [held_ids_book] at listed
  have below : inbox.place event < inbox.frontier waiter.fetchedThrough (inbox.lane event) :=
    (covers_mem kept.covers listed).2
  have reached := next.1
  omega

theorem absorb_kept (first : Bool) (known : List String) (held : ∀ event ∈ known, event ∈ waiter.heldIds) (nowMs : Millis)
    (genuine : inbox.Genuine moment preview)
    (next : NextIn inbox.lane inbox.place (inbox.present moment) (inbox.frontier waiter.fetchedThrough) preview.eventId) :
    Kept inbox start base moment (waiter.absorb first known nowMs preview).book ledger := by
  have fresh := known_is_passed kept known held next
  cases own : preview.fromMe with
  | true =>
    cases unheld : waiter.roomUnheld preview with
    | true =>
      have apart := room_unheld_lane kept genuine.room unheld
      simpa [InboxWaiter.absorb, own, unheld, InboxWaiter.book] using kept_own kept genuine own next apart
    | false =>
      simpa [InboxWaiter.absorb, own, unheld, InboxWaiter.book] using kept_over kept genuine own next
  | false =>
    simpa [InboxWaiter.absorb, own, fresh, InboxWaiter.book] using kept_hold kept genuine own next

theorem absorb_page_kept (first : Bool) (known : List String) (held : ∀ event ∈ known, event ∈ waiter.heldIds) (nowMs : Millis)
    (ordered : inbox.InOrder moment (inbox.frontier waiter.fetchedThrough) previews) :
    Kept inbox start base moment (previews.foldl (InboxWaiter.absorb first known nowMs) waiter).book ledger ∧
      ∀ event ∈ known, event ∈ (previews.foldl (InboxWaiter.absorb first known nowMs) waiter).heldIds := by
  induction previews generalizing waiter with
  | nil => exact ⟨kept, held⟩
  | cons preview rest ih =>
    obtain ⟨genuine, next, later⟩ := ordered
    have absorbed := absorb_kept kept first known held nowMs genuine next
    have fetched := frontier_pass inbox waiter.fetchedThrough kept.fetchedSuits preview genuine.room
    refine ih absorbed (fun event listed => absorb_held (held event listed)) ?_
    rw [absorb_fetched, fetched]
    exact later

theorem pass_front (split : waiter.held = taken ++ rest) (suits : inbox.suits position) :
    inbox.suits (position.passAll taken) ∧ inbox.frontier (position.passAll taken) =
      ((taken.map (·.preview)).map (·.eventId)).foldl (advance inbox.lane inbox.place) (inbox.frontier position) := by
  have rooms : ∀ arrival ∈ taken, inbox.room arrival.preview.eventId = arrival.preview.roomId := by
    intro arrival listed
    have member : arrival.preview ∈ waiter.book.held :=
      List.mem_map_of_mem (split ▸ List.mem_append_left _ listed)
    exact (kept.genuine _ member).1.room
  have ends := frontier_pass_all inbox position suits taken rooms
  rw [List.map_map]
  exact ⟨suits_pass_all inbox position suits taken, ends⟩

theorem trim_kept :
    ∃ more, Kept inbox start base moment waiter.trim.book { ledger with dropped := ledger.dropped ++ more } := by
  by_cases full : heldCapacity < waiter.held.length
  · obtain ⟨taken, taken_eq⟩ : ∃ taken, taken = waiter.held.take (waiter.held.length - heldCapacity) := ⟨_, rfl⟩
    obtain ⟨rest, rest_eq⟩ : ∃ rest, rest = waiter.held.drop (waiter.held.length - heldCapacity) := ⟨_, rfl⟩
    have split : waiter.held = taken ++ rest := by rw [taken_eq, rest_eq, List.take_append_drop]
    have length : taken.length = waiter.held.length - heldCapacity := by
      rw [taken_eq, List.length_take]
      omega
    obtain ⟨suits, ends⟩ := pass_front kept split kept.heldSuits
    have counting : (ledger.dropped ++ (taken.map (·.preview)).map (·.eventId)).length =
        waiter.dropped + (waiter.held.length - heldCapacity) := by
      have before : ledger.dropped.length = waiter.dropped := kept.counting
      simp [before, length]
    have settled := kept_settle kept (book_split split) kept.deliveredSuits suits (.inl rfl) ends
      (settled_dropped ledger) counting
    have previews := arrived_no_later_previews rest (taken.map (·.arrivedAtMs)).min?
    refine ⟨(taken.map (·.preview)).map (·.eventId), ?_⟩
    simp only [InboxWaiter.trim, if_pos full, InboxWaiter.book, ← taken_eq, ← rest_eq, previews]
    exact settled
  · refine ⟨[], ?_⟩
    simpa [InboxWaiter.trim, if_neg full] using kept

end

theorem trim_held {waiter : InboxWaiter} : waiter.trim.held.length ≤ heldCapacity := by
  by_cases full : heldCapacity < waiter.held.length
  · have lengths := congrArg List.length (arrived_no_later_previews
      (waiter.held.drop (waiter.held.length - heldCapacity))
      ((waiter.held.take (waiter.held.length - heldCapacity)).map (·.arrivedAtMs)).min?)
    simp only [List.length_map, List.length_drop] at lengths
    simp only [InboxWaiter.trim, if_pos full]
    omega
  · simp only [InboxWaiter.trim, if_neg full]
    omega

end

open Library

def others (arrivals : List Arrival) (picks : List Nat) : List IpcMessagePreviewSummary :=
  (arrivals.zipIdx.filter fun arrival => !picks.contains arrival.2).map (·.1.preview)

theorem picked_others (arrivals : List Arrival) (picks : List Nat) : ((arrivals.map (·.preview)).map (·.eventId)).Perm
      ((InboxWaiter.picked arrivals picks).map (·.eventId) ++ (others arrivals picks).map (·.eventId)) := by
  have split := List.filter_append_perm (fun arrival : Arrival × Nat => picks.contains arrival.2) arrivals.zipIdx
  have mapped := (split.map fun arrival => arrival.1.preview).map (·.eventId)
  have whole : arrivals.zipIdx.map (fun arrival => arrival.1.preview) = arrivals.map (·.preview) := by
    conv_rhs => rw [← List.zipIdx_map_fst 0 arrivals, List.map_map]
    rfl
  rw [whole] at mapped
  simpa [InboxWaiter.picked, others] using mapped.symm

theorem picked_length (arrivals : List Arrival) (sorted : Increasing picks)
    (within : consumed picks ≤ arrivals.length) : (InboxWaiter.picked arrivals picks).length = picks.length := by
  have indices : arrivals.zipIdx.map Prod.snd = List.range arrivals.length := by
    rw [List.zipIdx_map_snd, List.range_eq_range']
  have lengths : (arrivals.zipIdx.filter fun arrival => picks.contains arrival.2).length =
      ((List.range arrivals.length).filter fun index => picks.contains index).length := by
    rw [← indices, List.filter_map, List.length_map]
    rfl
  have once : picks.Nodup := sorted.imp Nat.ne_of_lt
  have same : picks.Perm ((List.range arrivals.length).filter fun index => picks.contains index) := by
    refine (List.perm_ext_iff_of_nodup once (List.nodup_range.filter _)).mpr fun index => ?_
    constructor
    · intro picked
      have below := increasing_last sorted picked
      have inside : index < arrivals.length := Nat.lt_of_lt_of_le below within
      simp [inside, picked]
    · intro listed
      simpa using (List.mem_filter.mp listed).2
  rw [InboxWaiter.picked, List.length_map, lengths]
  exact same.length_eq.symm

section

variable {inbox : InboxLog} {start base : Option String → Nat} {moment : Nat} {waiter : InboxWaiter} {ledger : Ledger}

structure Entered (ledger next : Ledger) (batch : WokenBatch) : Prop where
  delivered : next.delivered = ledger.delivered ++ batch.previews.map (·.eventId)
  counted : ∃ skipped, next.counted = ledger.counted ++ [skipped] ∧ skipped.length = batch.skipped

theorem pass_page (previews : List IpcMessagePreviewSummary) (position : Position) (suits : inbox.suits position)
    (rooms : ∀ preview ∈ previews, inbox.room preview.eventId = preview.roomId) :
    inbox.suits (previews.foldl Position.pass position) ∧ inbox.frontier (previews.foldl Position.pass position) =
      (previews.map (·.eventId)).foldl (advance inbox.lane inbox.place) (inbox.frontier position) := by
  induction previews generalizing position with
  | nil => exact ⟨suits, rfl⟩
  | cons preview rest ih =>
    have passed := frontier_pass inbox position suits preview (rooms preview List.mem_cons_self)
    obtain ⟨still, ends⟩ := ih (position.pass preview) (suits_pass inbox position suits preview)
      fun other listed => rooms other (List.mem_cons_of_mem _ listed)
    rw [passed] at ends
    exact ⟨still, ends⟩

variable (kept : Kept inbox start base moment waiter.book ledger)
include kept

variable (waiter) in
theorem catch_up_kept (nothing : waiter.held = []) :
    Kept inbox start base moment waiter.catchUp.book ledger := by
  have empty : waiter.book.held = [] := by simp [InboxWaiter.book, nothing]
  exact kept_catch_up kept empty

theorem take_up_kept (picks : List Nat) :
    Kept inbox start base moment { waiter.takeUp (consumed picks) with dropped := 0 }.book
      (ledger.hand ((InboxWaiter.picked (waiter.held.take (consumed picks)) picks).map (·.eventId))
        ((others (waiter.held.take (consumed picks)) picks).map (·.eventId))) := by
  have split := (List.take_append_drop (consumed picks) waiter.held).symm
  obtain ⟨deliveredSuits, deliveredEnds⟩ := pass_front kept split kept.deliveredSuits
  obtain ⟨heldSuits, heldEnds⟩ := pass_front kept split kept.heldSuits
  have same := settled_hand ledger (picked_others (waiter.held.take (consumed picks)) picks)
  exact kept_settle kept (book_split split) deliveredSuits heldSuits (.inr deliveredEnds) heldEnds
    same rfl

theorem take_kept (parts : Partition waiter.held.length delivery) :
    ∃ next, Kept inbox start base moment (waiter.take delivery).2.book next ∧
      Entered ledger next (waiter.take delivery).1 := by
  by_cases some : 0 < consumed delivery.picks
  · have taken := take_up_kept kept delivery.picks
    have length := picked_length (waiter.held.take (consumed delivery.picks)) parts.increasing
      (by rw [List.length_take]; exact Nat.le_min.mpr ⟨Nat.le_refl _, parts.within⟩)
    have all := (picked_others (waiter.held.take (consumed delivery.picks)) delivery.picks).length_eq
    have counting : ledger.dropped.length = waiter.dropped := kept.counting
    have skipped := parts.skipped
    have within := parts.within
    have entered : Entered ledger (ledger.hand
        ((InboxWaiter.picked (waiter.held.take (consumed delivery.picks)) delivery.picks).map (·.eventId))
        ((others (waiter.held.take (consumed delivery.picks)) delivery.picks).map (·.eventId)))
        (waiter.take delivery).1 := by
      refine ⟨rfl, _, rfl, ?_⟩
      simp only [List.length_map, List.length_append, List.length_take] at all
      simp only [InboxWaiter.take, if_pos some, List.length_append, List.length_map]
      omega
    refine ⟨_, ?_, entered⟩
    by_cases caught : ((InboxWaiter.picked (waiter.held.take (consumed delivery.picks)) delivery.picks).isEmpty &&
        (waiter.takeUp (consumed delivery.picks)).held.isEmpty) = true
    · have empty : (waiter.takeUp (consumed delivery.picks)).held = [] := by simpa using (Bool.and_eq_true_iff.mp caught).2
      have catched := catch_up_kept { waiter.takeUp (consumed delivery.picks) with dropped := 0 } taken empty
      simp only [InboxWaiter.take, if_pos some, if_pos caught]
      exact catched
    · simp only [InboxWaiter.take, if_pos some, if_neg caught]
      exact taken
  · have none : consumed delivery.picks = 0 := Nat.eq_zero_of_not_pos some
    have skipped : delivery.skipped = 0 := by
      have total := parts.skipped
      omega
    have same : waiter.takeUp 0 = waiter := rfl
    refine ⟨ledger.handNothing, ?_, ?_⟩
    · by_cases caught : waiter.held = []
      · have empty : (InboxWaiter.picked (waiter.held.take 0) delivery.picks).isEmpty &&
            waiter.held.isEmpty := by simp [caught, InboxWaiter.picked]
        simp only [InboxWaiter.take, none, if_neg (Nat.lt_irrefl 0), same, if_pos empty]
        have level := kept_hand_nothing (catch_up_kept waiter kept caught)
        exact level
      · have still : ¬ ((InboxWaiter.picked (waiter.held.take 0) delivery.picks).isEmpty &&
            waiter.held.isEmpty) = true := by simp [caught]
        simp only [InboxWaiter.take, none, if_neg (Nat.lt_irrefl 0), same, if_neg still]
        exact kept_hand_nothing kept
    · constructor
      · simp [Ledger.handNothing, InboxWaiter.take, none, InboxWaiter.picked]
      · exact ⟨[], rfl, by simp [InboxWaiter.take, none, skipped]⟩

theorem peeked_kept (page : InboxPage)
    (ordered : inbox.InOrder moment (inbox.frontier waiter.deliveredThrough) page.previews)
    (level : waiter.deliveredThrough = waiter.heldAfter) (nothing : waiter.dropped = 0) :
    ∃ next, Kept inbox start base moment (waiter.peeked page).2.book next ∧
      Entered ledger next (waiter.peeked page).1 := by
  have rooms : ∀ preview ∈ page.previews, inbox.room preview.eventId = preview.roomId := fun preview listed =>
    (order_arrived _ page.previews ordered preview listed).room
  obtain ⟨suits, ends⟩ := pass_page page.previews waiter.deliveredThrough kept.deliveredSuits rooms
  obtain ⟨heard, heard_eq⟩ : ∃ heard, heard = page.previews.filter fun preview => !preview.fromMe := ⟨_, rfl⟩
  have split := List.filter_append_perm
    (fun preview : IpcMessagePreviewSummary => !waiter.options.mentionsOnly || preview.mentionsMe) heard
  have same := (split.map (·.eventId)).symm
  rw [List.map_append, heard_eq] at same
  have noted := note_gaps_book waiter page.gaps
  have peeked := kept_peek kept page.previews ordered (congrArg inbox.frontier level) nothing _ suits ends _ _ same
  rw [← noted] at peeked
  refine ⟨_, peeked, rfl, _, rfl, ?_⟩
  have lengths := split.length_eq
  rw [List.length_append, heard_eq] at lengths
  have counting : ledger.dropped = [] := List.length_eq_zero_iff.mp (kept.counting.trans nothing)
  simp only [InboxWaiter.peeked, counting, List.nil_append, List.length_map]
  omega

end

end AgentRoom.Inbox
