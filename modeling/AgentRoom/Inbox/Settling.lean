import AgentRoom.Inbox.Books

namespace AgentRoom.Inbox

def Increasing (indices : List Nat) : Prop := indices.Pairwise (· < ·)

theorem insert_index_mem (index other : Nat) (chosen : List Nat) :
    other ∈ insertIndex index chosen ↔ other = index ∨ other ∈ chosen := by
  induction chosen with
  | nil => simp [insertIndex]
  | cons first rest ih =>
    simp only [insertIndex]
    split
    · simp
    · split
      · rename_i same
        simp [same]
      · simp only [List.mem_cons, ih]
        tauto

theorem insert_index_increasing (index : Nat) (sorted : Increasing chosen) : Increasing (insertIndex index chosen) := by
  induction chosen with
  | nil => simp [insertIndex, Increasing]
  | cons first rest ih =>
    obtain ⟨least, others⟩ := List.pairwise_cons.mp sorted
    simp only [insertIndex]
    split
    · rename_i below
      refine List.pairwise_cons.mpr ⟨?_, sorted⟩
      intro other listed
      rcases List.mem_cons.mp listed with same | later
      · omega
      · exact Nat.lt_trans below (least other later)
    · split
      · exact sorted
      · refine List.pairwise_cons.mpr ⟨?_, ih others⟩
        intro other listed
        rcases (insert_index_mem index other rest).mp listed with same | later
        · omega
        · exact least other later

variable (indices : List Nat)

theorem index_fold_spec (chosen : List Nat) (sorted : Increasing chosen) :
    Increasing (indices.foldl (fun chosen index => insertIndex index chosen) chosen) ∧
      ∀ other, other ∈ indices.foldl (fun chosen index => insertIndex index chosen) chosen ↔
        other ∈ indices ∨ other ∈ chosen := by
  induction indices generalizing chosen with
  | nil => simpa using sorted
  | cons index rest ih =>
    obtain ⟨increasing, members⟩ := ih _ (insert_index_increasing index sorted)
    refine ⟨increasing, fun other => ?_⟩
    rw [List.foldl_cons, members, insert_index_mem, List.mem_cons]
    tauto

theorem index_set_increasing : Increasing (indexSet indices) :=
  (index_fold_spec indices [] List.Pairwise.nil).1

theorem index_set_mem (other : Nat) : other ∈ indexSet indices ↔ other ∈ indices := by
  have spec := (index_fold_spec indices [] List.Pairwise.nil).2 other
  rw [indexSet, spec]
  simp

theorem fill_newest_spec (limit : Nat) (older chosen heard : List Nat) (sorted : Increasing chosen)
    (within : ∀ index ∈ chosen, index ∈ heard) (listed : ∀ index ∈ older, index ∈ heard) :
    Increasing (fillNewest limit chosen older) ∧ ∀ index ∈ fillNewest limit chosen older, index ∈ heard := by
  induction older generalizing chosen with
  | nil => exact ⟨sorted, within⟩
  | cons newest rest ih =>
    simp only [fillNewest]
    split
    · exact ⟨sorted, within⟩
    · refine ih _ (insert_index_increasing newest sorted) ?_ fun index later =>
        listed index (List.mem_cons_of_mem _ later)
      intro index member
      rcases (insert_index_mem newest index chosen).mp member with same | before
      · exact same ▸ listed newest List.mem_cons_self
      · exact within index before

theorem select_spec (heard priority : List Nat) (limit : Nat) (sorted : Increasing heard)
    (within : ∀ index ∈ priority, index ∈ heard) :
    Increasing (select heard priority limit) ∧ ∀ index ∈ select heard priority limit, index ∈ heard := by
  simp only [select]
  split
  · exact ⟨sorted, fun _ listed => listed⟩
  · refine fill_newest_spec limit heard.reverse _ heard (index_set_increasing _) ?_ fun index listed =>
      List.mem_reverse.mp listed
    intro index member
    exact within index (List.mem_of_mem_take ((index_set_mem _ _).mp member))

section

variable (pending : List Arrival) (options : WaitOptions) (wakes : IpcMessagePreviewSummary → Bool)

theorem heard_increasing : Increasing (Scope.new pending options wakes).heard :=
  List.Pairwise.filter _ List.pairwise_lt_range

theorem waking_increasing : Increasing (Scope.new pending options wakes).waking :=
  (heard_increasing pending options wakes).filter _

theorem waited_increasing : Increasing (Scope.new pending options wakes).waited :=
  (heard_increasing pending options wakes).filter _

theorem waking_heard (index : Nat) (member : index ∈ (Scope.new pending options wakes).waking) :
    index ∈ (Scope.new pending options wakes).heard := (List.mem_filter.mp member).1

theorem waited_heard (index : Nat) (member : index ∈ (Scope.new pending options wakes).waited) :
    index ∈ (Scope.new pending options wakes).heard := (List.mem_filter.mp member).1

variable {nowMs : Millis}

theorem trigger_priority (woken : (Scope.new pending options wakes).trigger nowMs = some trigger) :
    Increasing trigger.priority ∧ ∀ index ∈ trigger.priority, index ∈ (Scope.new pending options wakes).heard := by
  simp only [Scope.trigger] at woken
  split at woken
  · cases woken
    refine ⟨index_set_increasing _, fun index member => ?_⟩
    rcases List.mem_append.mp ((index_set_mem _ _).mp member) with spoken | woke
    · exact waited_heard pending options wakes index spoken
    · exact waking_heard pending options wakes index woke
  · split at woken
    · cases woken
      exact ⟨waking_increasing pending options wakes, waking_heard pending options wakes⟩
    · split at woken
      · cases woken
      · split at woken
        · cases woken
          exact ⟨List.Pairwise.nil, fun _ listed => nomatch listed⟩
        · cases woken

theorem picks_spec (limit : Nat) (reason : WakeReason) (sorted : Increasing priority)
    (within : ∀ index ∈ priority, index ∈ (Scope.new pending options wakes).heard) :
    Increasing ((Scope.new pending options wakes).picks priority limit reason) ∧
      ∀ index ∈ (Scope.new pending options wakes).picks priority limit reason,
        index ∈ (Scope.new pending options wakes).heard := by
  simp only [Scope.picks]
  split
  · exact ⟨List.Pairwise.nil, fun _ listed => nomatch listed⟩
  · split
    · exact ⟨sorted.sublist (List.take_sublist ..), fun index member => within index (List.mem_of_mem_take member)⟩
    · exact select_spec _ priority limit (heard_increasing pending options wakes) within

theorem decide_delivers {limit : Nat} {deadlineMs : Option Millis}
    (decided : decideWith pending options wakes typing limit nowMs deadlineMs = .deliver delivery) :
    ∃ priority reason, Increasing priority ∧ (∀ index ∈ priority, index ∈ (Scope.new pending options wakes).heard) ∧
      delivery = (Scope.new pending options wakes).deliver priority (max limit 1) reason := by
  simp only [decideWith] at decided
  split at decided
  · split at decided
    · cases decided
      exact ⟨_, _, waited_increasing pending options wakes, waited_heard pending options wakes, rfl⟩
    · cases decided
  · rename_i trigger woken
    obtain ⟨sorted, within⟩ := trigger_priority pending options wakes woken
    split at decided
    · cases decided
      exact ⟨_, _, sorted, within, rfl⟩
    · split at decided
      · cases decided
        exact ⟨_, _, sorted, within, rfl⟩
      · cases decided

theorem heard_all (all : ∀ arrival ∈ pending, hears options arrival = true) :
    (Scope.new pending options wakes).heard = List.range pending.length := by
  refine List.filter_eq_self.mpr fun index listed => ?_
  have within := List.mem_range.mp listed
  simpa [List.getElem?_eq_getElem within] using all _ (List.getElem_mem within)

end

variable {index limit : Nat}

theorem find_in_range (within : index < count) : (List.range count).findIdx? (· = index) = some index := by
  refine List.findIdx?_eq_some_iff_getElem.mpr ⟨by simpa using within, by simp, ?_⟩
  intro earlier before
  simp only [List.getElem_range, decide_eq_true_eq]
  omega

theorem increasing_last (sorted : Increasing picks) (picked : index ∈ picks) : index < consumed picks := by
  rcases List.eq_nil_or_concat picks with nothing | ⟨earlier, last, shape⟩
  · simp [nothing] at picked
  · rw [List.concat_eq_append] at shape
    subst shape
    have below := (List.pairwise_append.mp sorted).2.2
    rcases List.mem_append.mp picked with before | final
    · have smaller := below index before last (List.mem_singleton_self _)
      simp [consumed]
      omega
    · obtain rfl : index = last := by simpa using final
      simp [consumed]

theorem increasing_length (sorted : Increasing picks) : picks.length ≤ consumed picks := by
  have inside : picks ⊆ List.range (consumed picks) := fun index picked =>
    List.mem_range.mpr (increasing_last sorted picked)
  have once : picks.Nodup := sorted.imp Nat.ne_of_lt
  simpa using once.length_le_of_subset inside

theorem deliver_skipped {pending : List Arrival} {options : WaitOptions} {wakes : IpcMessagePreviewSummary → Bool}
    (all : ∀ arrival ∈ pending, hears options arrival = true) {reason : WakeReason}
    (final : ((Scope.new pending options wakes).picks priority limit reason).getLast? = some last)
    (inside : last < pending.length) : ((Scope.new pending options wakes).deliver priority limit reason).skipped =
      last + 1 - ((Scope.new pending options wakes).picks priority limit reason).length := by
  simp [Scope.deliver, final, heard_all pending options wakes all, find_in_range inside]

structure Partition (held : Nat) (delivery : Delivery) : Prop where
  increasing : Increasing delivery.picks
  within : consumed delivery.picks ≤ held
  skipped : delivery.skipped + delivery.picks.length = consumed delivery.picks

theorem decide_partitions {pending : List Arrival} {options : WaitOptions} {wakes : IpcMessagePreviewSummary → Bool}
    {nowMs : Millis} {deadlineMs : Option Millis} (all : ∀ arrival ∈ pending, hears options arrival = true)
    (decided : decideWith pending options wakes typing limit nowMs deadlineMs = .deliver delivery) :
    Partition pending.length delivery := by
  obtain ⟨priority, reason, sorted, within, rfl⟩ :=
    decide_delivers pending options wakes decided
  obtain ⟨increasing, listed⟩ := picks_spec pending options wakes (max limit 1) reason sorted within
  rw [heard_all pending options wakes all] at listed
  have short := increasing_length increasing
  cases final : ((Scope.new pending options wakes).picks priority (max limit 1) reason).getLast? with
  | none =>
    have nothing := List.getLast?_eq_none_iff.mp final
    exact ⟨increasing, by simp [Scope.deliver, nothing, consumed], by simp [Scope.deliver, nothing, consumed]⟩
  | some last =>
    have inside := List.mem_range.mp (listed last (List.mem_of_getLast? final))
    have used : consumed ((Scope.new pending options wakes).picks priority (max limit 1) reason) = last + 1 := by
      simp [consumed, final]
    have skipped := deliver_skipped all final inside
    refine ⟨increasing, ?_, ?_⟩
    · exact used ▸ inside
    · change _ + ((Scope.new pending options wakes).picks priority (max limit 1) reason).length =
        consumed ((Scope.new pending options wakes).picks priority (max limit 1) reason)
      omega

open Library

section

variable {inbox : InboxLog} {start base : Option String → Nat} {moment : Nat} {book : Book} {ledger : Ledger}

theorem held_mem (kept : Kept inbox start base moment book ledger) (rest : List IpcMessagePreviewSummary)
    (split : book.held = taken ++ rest) (event : String) (listed : event ∈ taken.map (·.eventId)) :
    inbox.arrived moment event ∧ inbox.mine event = false := by
  obtain ⟨preview, member, rfl⟩ := List.mem_map.mp listed
  obtain ⟨genuine, other⟩ := kept.genuine preview (split ▸ List.mem_append_left _ member)
  exact ⟨genuine.arrived, genuine.mine.trans other⟩

theorem kept_settle (kept : Kept inbox start base moment book ledger) (split : book.held = taken ++ rest)
    {delivered after : Position} {next : Ledger} (deliveredSuits : inbox.suits delivered) (heldSuits : inbox.suits after)
    (deliveredEnds : inbox.frontier delivered = inbox.frontier book.deliveredThrough ∨ inbox.frontier delivered =
        (taken.map (·.eventId)).foldl (advance inbox.lane inbox.place) (inbox.frontier book.deliveredThrough))
    (heldEnds : inbox.frontier after =
      (taken.map (·.eventId)).foldl (advance inbox.lane inbox.place) (inbox.frontier book.heldAfter))
    (same : (ledger.settled ++ taken.map (·.eventId)).Perm next.settled) (counting : next.dropped.length = dropped) :
    Kept inbox start base moment { book with
      deliveredThrough := delivered, heldAfter := after, held := rest, dropped } next := by
  have covers := kept.covers
  rw [split, List.map_append] at covers
  have starts (lane : Option String) := Nat.le_trans (kept.begun lane) (kept.lags lane)
  have arrived := held_mem kept rest split
  have lagging := lagging_le covers kept.lags
  have forward (lane : Option String) : inbox.frontier book.deliveredThrough lane ≤ inbox.frontier delivered lane := by
    rcases deliveredEnds with still | moved
    · exact Nat.le_of_eq (congrFun still lane).symm
    · rw [moved]
      exact (lagging lane).1
  exact {
    kept with
    deliveredSuits
    heldSuits
    covers := by
      rw [heldEnds]
      exact covers_drop covers
    settled := by
      rw [heldEnds]
      exact settled_perm (settled_take kept.settled starts covers) same
    begun := fun lane => Nat.le_trans (kept.begun lane) (forward lane)
    based := fun lane => Nat.le_trans (kept.based lane) (forward lane)
    lags := by
      intro lane
      rw [heldEnds]
      rcases deliveredEnds with still | moved
      · rw [still]
        exact Nat.le_trans (kept.lags lane) (taken_le covers lane)
      · rw [moved]
        exact (lagging lane).2
    deliveredReached := by
      rcases deliveredEnds with still | moved
      · rw [still]
        exact kept.deliveredReached
      · rw [moved]
        exact reached_fold _ kept.deliveredReached _ fun event listed => (arrived event listed).1
    heldReached := by
      rw [heldEnds]
      exact reached_fold _ kept.heldReached _ fun event listed => (arrived event listed).1
    genuine := fun preview listed => kept.genuine preview (split ▸ List.mem_append_right _ listed)
    recorded := by
      intro event listed
      rcases List.mem_append.mp (same.mem_iff.mpr listed) with earlier | taken
      · exact kept.recorded event earlier
      · exact arrived event taken
    counting }

theorem settled_dropped (ledger : Ledger) :
    (ledger.settled ++ events).Perm { ledger with dropped := ledger.dropped ++ events }.settled := by
  simp [Ledger.settled]

def Ledger.hand (ledger : Ledger) (picked others : List String) : Ledger where
  delivered := ledger.delivered ++ picked
  counted := ledger.counted ++ [ledger.dropped ++ others]
  dropped := []

theorem settled_hand (ledger : Ledger) {taken picked others : List String} (same : taken.Perm (picked ++ others)) :
    (ledger.settled ++ taken).Perm (ledger.hand picked others).settled := by
  rw [List.perm_iff_count]
  intro event
  have counts := same.count_eq event
  simp only [Ledger.settled, Ledger.hand, List.count_append, List.flatten_append, List.flatten_cons, List.flatten_nil,
    List.count_nil] at counts ⊢
  omega

def Ledger.handNothing (ledger : Ledger) : Ledger := { ledger with counted := ledger.counted ++ [[]] }

theorem settled_nothing (ledger : Ledger) : ledger.handNothing.settled = ledger.settled := by
  simp [Ledger.settled, Ledger.handNothing]

theorem kept_hand_nothing (kept : Kept inbox start base moment book ledger) :
    Kept inbox start base moment book ledger.handNothing :=
  { kept with
    settled := by
      rw [settled_nothing]
      exact kept.settled
    recorded := by
      rw [settled_nothing]
      exact kept.recorded
    counting := kept.counting }

theorem settled_page (due : String → Prop) (low : Option String → Nat) (items : List String)
    (previews : List IpcMessagePreviewSummary) (settled : Settled inbox.lane inbox.place due start low items)
    (starts : ∀ lane, start lane ≤ low lane) (ordered : inbox.InOrder moment low previews)
    (present : ∀ event, due event → inbox.present moment event ∧ inbox.mine event = false) :
    Settled inbox.lane inbox.place due start
      ((previews.map (·.eventId)).foldl (advance inbox.lane inbox.place) low)
      (items ++ (previews.filter fun preview => !preview.fromMe).map (·.eventId)) := by
  induction previews generalizing low items with
  | nil => simpa using settled
  | cons preview rest ih =>
    obtain ⟨genuine, next, later⟩ := ordered
    have nextDue := next_fewer next fun event expected => (present event expected).1
    have risen (lane : Option String) := Nat.le_trans (starts lane) (le_advance next.1 lane)
    cases own : preview.fromMe with
    | true =>
      have spare : ¬ due preview.eventId := by
        intro expected
        have mine := genuine.mine
        rw [(present _ expected).2, own] at mine
        cases mine
      simpa [own] using ih _ items (settled_over settled nextDue spare) risen later
    | false =>
      simpa [own] using ih _ (items ++ [preview.eventId]) (settled_push settled starts nextDue) risen later

theorem order_arrived (low : Option String → Nat) (previews : List IpcMessagePreviewSummary)
    (ordered : inbox.InOrder moment low previews) (preview : IpcMessagePreviewSummary) (listed : preview ∈ previews) :
    inbox.Genuine moment preview := by
  induction previews generalizing low with
  | nil => cases listed
  | cons first rest ih =>
    obtain ⟨genuine, next, later⟩ := ordered
    rcases List.mem_cons.mp listed with same | member
    · exact same ▸ genuine
    · exact ih _ later member

theorem order_le (low : Option String → Nat) (previews : List IpcMessagePreviewSummary)
    (ordered : inbox.InOrder moment low previews) (lane : Option String) :
    low lane ≤ (previews.map (·.eventId)).foldl (advance inbox.lane inbox.place) low lane := by
  induction previews generalizing low with
  | nil => exact Nat.le_refl _
  | cons first rest ih =>
    obtain ⟨genuine, next, later⟩ := ordered
    exact Nat.le_trans (le_advance next.1 lane) (ih _ later)

theorem kept_peek (kept : Kept inbox start base moment book ledger) (previews : List IpcMessagePreviewSummary)
    (ordered : inbox.InOrder moment (inbox.frontier book.deliveredThrough) previews)
    (level : inbox.frontier book.deliveredThrough = inbox.frontier book.heldAfter) (nothing : book.dropped = 0)
    (cursor : Position) (suits : inbox.suits cursor)
    (ends : inbox.frontier cursor = (previews.map (·.eventId)).foldl (advance inbox.lane inbox.place)
      (inbox.frontier book.deliveredThrough)) (picked others : List String)
    (same : ((previews.filter fun preview => !preview.fromMe).map (·.eventId)).Perm (picked ++ others)) :
    Kept inbox start base moment { book with
      deliveredThrough := cursor, fetchedThrough := cursor, heldAfter := cursor, held := [] }
      (ledger.hand picked others) := by
  have settled := kept.settled
  rw [← level] at settled
  have paged := settled_page (inbox.due start moment) _ _ previews settled kept.begun ordered
    fun event expected => ⟨expected.1, expected.2.1⟩
  have handed := settled_hand ledger same
  have forward := order_le _ previews ordered
  have reached := reached_fold _ kept.deliveredReached (previews.map (·.eventId)) (by
    intro event listed
    obtain ⟨preview, member, rfl⟩ := List.mem_map.mp listed
    exact (order_arrived _ previews ordered preview member).arrived)
  rw [← ends] at paged forward reached
  exact {
    kept with
    deliveredSuits := suits
    fetchedSuits := suits
    heldSuits := suits
    covers := covers_refl
    settled := settled_perm paged handed
    begun := fun lane => Nat.le_trans (kept.begun lane) (forward lane)
    based := fun lane => Nat.le_trans (kept.based lane) (forward lane)
    lags := fun _ => Nat.le_refl _
    deliveredReached := reached
    fetchedReached := reached
    heldReached := reached
    genuine := fun _ listed => nomatch listed
    recorded := by
      intro event listed
      rcases List.mem_append.mp (handed.mem_iff.mpr listed) with earlier | page
      · exact kept.recorded event earlier
      · obtain ⟨preview, member, rfl⟩ := List.mem_map.mp page
        obtain ⟨inPage, other⟩ := List.mem_filter.mp member
        have genuine := order_arrived _ previews ordered preview inPage
        exact ⟨genuine.arrived, genuine.mine.trans (by simpa using other)⟩
    counting := nothing.symm }

end

end AgentRoom.Inbox
