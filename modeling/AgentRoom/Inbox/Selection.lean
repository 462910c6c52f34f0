import AgentRoom.Inbox.Timing
import Mathlib.Data.List.Induction
import Mathlib.Data.List.Sort

namespace AgentRoom.Inbox

theorem index_set_sorted (sorted : Increasing indices) : indexSet indices = indices :=
  (index_set_increasing indices).eq_of_mem_iff sorted (index_set_mem indices)

theorem insert_index_length (index : Nat) (chosen : List Nat) : (insertIndex index chosen).length ≤ chosen.length + 1 := by
  induction chosen with
  | nil => exact Nat.le_refl _
  | cons first rest ih =>
    simp only [insertIndex]
    split
    · exact Nat.le_refl _
    · split <;> simp only [List.length_cons] <;> omega

theorem fill_newest_keeps (limit : Nat) (older chosen : List Nat) (few : chosen.length ≤ limit) :
    (fillNewest limit chosen older).length ≤ limit ∧ (∀ index ∈ chosen, index ∈ fillNewest limit chosen older) ∧
      (chosen.length = limit → fillNewest limit chosen older = chosen) := by
  induction older generalizing chosen with
  | nil => exact ⟨few, fun _ listed => listed, fun _ => rfl⟩
  | cons newest rest ih =>
    simp only [fillNewest]
    split
    · exact ⟨few, fun _ listed => listed, fun _ => rfl⟩
    · have longer := insert_index_length newest chosen
      obtain ⟨short, keeps, _⟩ := ih (insertIndex newest chosen) (by omega)
      exact ⟨short, fun index listed => keeps index ((insert_index_mem newest index chosen).mpr (.inr listed)), fun full => by omega⟩

theorem increasing_take (sorted : Increasing indices) (limit index : Nat) (listed : index ∈ indices) :
    index ∈ indices.take limit ∨ ∀ pick ∈ indices.take limit, pick < index := by
  rw [Increasing, ← List.take_append_drop limit indices] at sorted
  rw [← List.take_append_drop limit indices] at listed
  rcases List.mem_append.mp listed with early | late
  · exact .inl early
  · exact .inr fun pick taken => (List.pairwise_append.mp sorted).2.2 pick taken index late

theorem select_spares (limit : Nat) (sorted : Increasing priority)
    (within : ∀ index ∈ priority, index ∈ heard) : (select heard priority limit).length ≤ limit ∧
      ∀ index ∈ priority, index ∈ select heard priority limit ∨ ∀ pick ∈ select heard priority limit, pick < index := by
  simp only [select]
  split
  · exact ⟨‹_›, fun index listed => .inl (within index listed)⟩
  · rw [index_set_sorted (sorted.sublist (List.take_sublist ..))]
    obtain ⟨short, keeps, full⟩ := fill_newest_keeps limit heard.reverse (priority.take limit) (List.length_take_le ..)
    refine ⟨short, fun index listed => ?_⟩
    rcases increasing_take sorted limit index listed with taken | beyond
    · exact .inl (keeps index taken)
    · by_cases all : (priority.take limit).length = limit
      · rw [full all]
        exact .inr beyond
      · have everything : priority.take limit = priority := List.take_of_length_le (by rw [List.length_take] at all; omega)
        exact .inl (keeps index (everything.symm ▸ listed))

section

variable {pending : List Arrival} {options : WaitOptions} {wakes : IpcMessagePreviewSummary → Bool}

theorem picks_spare (limit : Nat) (reason : WakeReason) (sorted : Increasing priority)
    (within : ∀ index ∈ priority, index ∈ (Scope.new pending options wakes).heard) :
    ((Scope.new pending options wakes).picks priority limit reason).length ≤ limit ∧
      ∀ index ∈ priority, index ∈ (Scope.new pending options wakes).picks priority limit reason ∨
        ∀ pick ∈ (Scope.new pending options wakes).picks priority limit reason, pick < index := by
  simp only [Scope.picks]
  split
  · exact ⟨Nat.zero_le _, fun _ _ => .inr fun _ listed => absurd listed List.not_mem_nil⟩
  · split
    · exact ⟨List.length_take_le .., increasing_take sorted limit⟩
    · exact select_spares limit sorted within

def owed (options : WaitOptions) (wakes : IpcMessagePreviewSummary → Bool) (reason : WakeReason)
    (preview : IpcMessagePreviewSummary) : Bool :=
  match reason with
  | .messages => wakes preview
  | .allReplied => wakes preview || options.waitFor.contains (actorMatrixId preview.actor)
  | .timeout => options.waitFor.contains (actorMatrixId preview.actor)
  | .digest | .superseded | .knocks => false

theorem heard_none
    (members : ∀ index, index ∈ indices ↔ Heard pending options index what) (none' : indices = []) : ¬ Heard pending options index what :=
  fun heard => by simpa [none'] using (members index).mpr heard

theorem decide_owes {limit : Nat} {nowMs : Millis} {deadlineMs : Option Millis}
    (decided : decideWith pending options wakes typing limit nowMs deadlineMs = .deliver delivery) :
    ∃ priority reason, Increasing priority ∧ (∀ index, index ∈ priority ↔ Heard pending options index (owed options wakes reason · = true)) ∧
      (∀ index, Heard pending options index (wakes · = true) → index ∈ priority) ∧
        delivery = (Scope.new pending options wakes).deliver priority (max limit 1) reason := by
  have waking := waking_mem pending options wakes
  have waited : ∀ index, index ∈ (Scope.new pending options wakes).waited ↔
      Heard pending options index (owed options wakes .timeout · = true) := fun index =>
    (waited_mem pending options wakes index).trans (by simp only [owed, List.contains_iff_mem])
  have triggered {trigger : Trigger} (woken : (Scope.new pending options wakes).trigger nowMs = some trigger) :
      decideWith pending options wakes typing limit nowMs deadlineMs = .deliver delivery →
        delivery = (Scope.new pending options wakes).deliver trigger.priority (max limit 1) trigger.reason := by
    intro decided
    simp only [decideWith, woken] at decided
    split at decided
    · exact (WaitDecision.deliver.inj decided).symm
    · split at decided
      · exact (WaitDecision.deliver.inj decided).symm
      · cases decided
  rcases trigger_cases pending options wakes with ⟨_, _, _, _, always⟩ | ⟨_, ⟨_, _, always⟩ | ⟨nothing, always⟩⟩
  · refine ⟨_, _, index_set_increasing _, fun index => ?_, fun index woke => ?_, triggered (always nowMs) decided⟩
    · rw [index_set_mem, List.mem_append, waited, waking]
      simp only [Heard, owed, Bool.or_eq_true]
      constructor
      · rintro (⟨arrival, there, hears, what⟩ | ⟨arrival, there, hears, what⟩)
        · exact ⟨arrival, there, hears, .inr what⟩
        · exact ⟨arrival, there, hears, .inl what⟩
      · rintro ⟨arrival, there, hears, what | what⟩
        · exact .inr ⟨arrival, there, hears, what⟩
        · exact .inl ⟨arrival, there, hears, what⟩
    · exact (index_set_mem _ _).mpr (List.mem_append_right _ ((waking index).mpr woke))
  · exact ⟨_, .messages, waking_increasing pending options wakes, waking, fun index => (waking index).mpr, triggered (always nowMs) decided⟩
  · have asleep (index : Nat) (woke : Heard pending options index (wakes · = true)) : False := heard_none waking nothing woke
    cases woken : (Scope.new pending options wakes).trigger nowMs with
    | some trigger =>
      have digest : trigger = ⟨.digest, trigger.atMs, []⟩ := by
        rw [always] at woken
        obtain ⟨due, _, built⟩ := Option.bind_eq_some_iff.mp woken
        split at built
        · cases built
          rfl
        · cases built
      rw [digest] at woken
      refine ⟨[], .digest, List.Pairwise.nil, fun index => ?_, fun index woke => (asleep index woke).elim, triggered woken decided⟩
      simp [Heard, owed]
    | none =>
      refine ⟨_, .timeout, waited_increasing pending options wakes, waited, fun index woke => (asleep index woke).elim, ?_⟩
      simp only [decideWith, woken] at decided
      split at decided
      · exact (WaitDecision.deliver.inj decided).symm
      · cases decided

structure Accounted (pending : List Arrival) (options : WaitOptions) (wakes : IpcMessagePreviewSummary → Bool) (limit : Nat)
    (delivery : Delivery) : Prop where
  increasing : delivery.picks.Pairwise (· < ·)
  few : delivery.picks.length ≤ max limit 1
  heard : ∀ index ∈ delivery.picks, Heard pending options index fun _ => True
  counts : delivery.picks.length + delivery.skipped + delivery.remaining = (pending.filter (hears options)).length
  skipped : delivery.skipped = ((List.range pending.length).filter fun index =>
    (pending[index]?).any (hears options) && (index < consumed delivery.picks && !delivery.picks.contains index)).length
  spares : ∀ index, Heard pending options index (fun preview => wakes preview = true ∨
      (delivery.wake.reason = .allReplied ∨ delivery.wake.reason = .timeout) ∧ actorMatrixId preview.actor ∈ options.waitFor) →
    index ∈ delivery.picks ∨ ∀ pick ∈ delivery.picks, pick < index
  named : delivery.wake.eventIds = (delivery.picks.filter fun index =>
      (pending[index]?).any fun arrival => owed options wakes delivery.wake.reason arrival.preview).filterMap fun index =>
    (pending[index]?).map (·.preview.eventId)

theorem counted_by_index (items : List α) (holds : α → Bool) :
    ((List.range items.length).filter fun index => (items[index]?).any holds).length = (items.filter holds).length := by
  induction items using List.reverseRecOn with
  | nil => rfl
  | append_singleton items item ih =>
    have before : (List.range items.length).filter (fun index => ((items ++ [item])[index]?).any holds) =
        (List.range items.length).filter fun index => (items[index]?).any holds := by
      refine List.filter_congr fun index within => ?_
      rw [List.getElem?_append_left (List.mem_range.mp within)]
    rw [List.length_append, List.length_singleton, List.range_succ, List.filter_append, List.filter_append, List.length_append,
      List.length_append, before, ih]
    cases kept : holds item <;> simp [kept]

theorem skipped_count (sorted : Increasing heard) (increasing : Increasing picks)
    (within : ∀ index ∈ picks, index ∈ heard) (final : picks.getLast? = some last) :
    ∃ position, heard.findIdx? (· = last) = some position ∧ position < heard.length ∧ picks.length ≤ position + 1 ∧
      position + 1 - picks.length = (heard.filter fun index => index < last + 1 && !picks.contains index).length := by
  obtain ⟨before, after, rfl⟩ := List.append_of_mem (within last (List.mem_of_getLast? final))
  obtain ⟨_, others, below⟩ := List.pairwise_append.mp sorted
  have above := (List.pairwise_cons.mp others).1
  have below : ∀ index ∈ before, index < last := fun index earlier => below index earlier last List.mem_cons_self
  have upTo : ∀ index ∈ picks, index < last + 1 := fun index picked => by
    simpa [consumed, final] using increasing_last increasing picked
  have seen : (before ++ last :: after).filter (fun index => index < last + 1 && !picks.contains index) =
      (before ++ [last]).filter fun index => !picks.contains index := by
    have none' : after.filter (fun index => index < last + 1 && !picks.contains index) = [] := by
      refine List.filter_eq_nil_iff.mpr fun index later => ?_
      have beyond := above index later
      simp only [Bool.and_eq_true, decide_eq_true_eq]
      omega
    rw [List.append_cons, List.filter_append, none', List.append_nil]
    refine List.filter_congr fun index listed => ?_
    have reached : index < last + 1 := by
      rcases List.mem_append.mp listed with earlier | same
      · exact Nat.lt_succ_of_lt (below index earlier)
      · exact List.mem_singleton.mp same ▸ Nat.lt_succ_self _
    rw [decide_eq_true reached, Bool.true_and]
  have picked : (before ++ [last]).filter (picks.contains ·) = picks := by
    refine (List.Pairwise.filter _ ?_).eq_of_mem_iff increasing fun index => ?_
    · exact (List.append_cons before last after ▸ sorted : Increasing (before ++ [last] ++ after)).sublist (List.sublist_append_left ..)
    · rw [List.mem_filter, List.contains_iff_mem]
      refine ⟨And.right, fun listed => ⟨?_, listed⟩⟩
      have small := upTo index listed
      have member := within index listed
      rw [List.append_cons, List.mem_append] at member
      exact member.resolve_right fun later => by have := above index later; omega
  have total := List.length_eq_length_filter_add (l := before ++ [last]) (picks.contains ·)
  rw [picked, List.length_append, List.length_singleton] at total
  refine ⟨before.length, ?_, by simp, by omega, by rw [seen]; omega⟩
  refine List.findIdx?_eq_some_iff_getElem.mpr ⟨by simp, by simp, fun index earlier => ?_⟩
  have smaller := below _ (List.getElem_mem earlier)
  rw [List.getElem_append_left earlier]
  simp only [decide_eq_true_eq]
  omega

theorem deliveries_account_for_what_was_heard {typing : List Typist} {limit : Nat} {nowMs : Millis} {deadlineMs : Option Millis}
    {delivery : Delivery} (decided : decideWith pending options wakes typing limit nowMs deadlineMs = .deliver delivery) :
    Accounted pending options wakes limit delivery := by
  obtain ⟨priority, reason, sorted, members, woken, rfl⟩ := decide_owes decided
  have within (index : Nat) (listed : index ∈ priority) : index ∈ (Scope.new pending options wakes).heard := by
    obtain ⟨arrival, there, hears, _⟩ := (members index).mp listed
    exact (heard_mem pending options wakes index).mpr ⟨arrival, there, hears, trivial⟩
  obtain ⟨increasing, listed⟩ := picks_spec pending options wakes (max limit 1) reason sorted within
  obtain ⟨few, spares⟩ := picks_spare (max limit 1) reason sorted within
  refine ⟨increasing, few, fun index picked => (heard_mem pending options wakes index).mp (listed index picked), ?_, ?_, ?_, ?_⟩
  · rw [← counted_by_index pending (hears options)]
    cases final : ((Scope.new pending options wakes).picks priority (max limit 1) reason).getLast? with
    | none =>
      have nothing := List.getLast?_eq_none_iff.mp final
      simp only [Scope.deliver, nothing]
      exact Nat.zero_add _
    | some last =>
      obtain ⟨position, found, inside, short, _⟩ :=
        skipped_count (heard_increasing pending options wakes) increasing listed final
      have inside : position < ((List.range pending.length).filter fun index => (pending[index]?).any (hears options)).length := inside
      simp only [Scope.deliver, final, found, Option.bind_some, Option.map_some, Option.getD_some]
      change _ + _ + (((List.range pending.length).filter fun index => (pending[index]?).any (hears options)).length - position - 1) = _
      omega
  · cases final : ((Scope.new pending options wakes).picks priority (max limit 1) reason).getLast? with
    | none =>
      have nothing := List.getLast?_eq_none_iff.mp final
      simp [Scope.deliver, nothing, consumed]
    | some last =>
      obtain ⟨position, found, _, _, counted⟩ := skipped_count (heard_increasing pending options wakes) increasing listed final
      have used : consumed ((Scope.new pending options wakes).picks priority (max limit 1) reason) = last + 1 := by simp [consumed, final]
      simp only [Scope.deliver, final, found, Option.bind_some, Option.map_some, Option.getD_some, used, counted]
      rw [Scope.new, List.filter_filter]
      exact congrArg List.length (List.filter_congr fun index _ => Bool.and_comm ..)
  · rintro index ⟨arrival, there, hears, what⟩
    refine spares index ?_
    rcases what with woke | ⟨reasons, named⟩
    · exact woken index ⟨arrival, there, hears, woke⟩
    · refine (members index).mpr ⟨arrival, there, hears, ?_⟩
      rcases reasons with same | same
      · have same : reason = .allReplied := same
        simp [same, owed, named]
      · have same : reason = .timeout := same
        simp [same, owed, named]
  · refine congrArg (List.filterMap _) (List.filter_congr fun index picked => ?_)
    rw [Bool.eq_iff_iff, List.contains_iff_mem, members index, Option.any_eq_true]
    obtain ⟨arrival, there, hears, _⟩ := (heard_mem pending options wakes index).mp (listed index picked)
    constructor
    · rintro ⟨other, here, _, owes⟩
      exact ⟨other, here, owes⟩
    · rintro ⟨other, here, owes⟩
      obtain rfl := Option.some.inj (there.symm.trans here)
      exact ⟨arrival, there, hears, owes⟩

theorem a_full_delivery_accounts :
    Accounted [said "!room" "@ada" 0, said "!room" "@bob" 1, said "!room" "@cleo" 2] {} (fun preview => actorMatrixId preview.actor = "@ada")
      2 ⟨[0, 2], 1, 0, ⟨.messages, [""], []⟩⟩ :=
  deliveries_account_for_what_was_heard (by decide +kernel :
    decideWith [said "!room" "@ada" 0, said "!room" "@bob" 1, said "!room" "@cleo" 2] {} (fun preview => actorMatrixId preview.actor = "@ada")
      [] 2 2 none = _)

end

end AgentRoom.Inbox
