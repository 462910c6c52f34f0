import AgentRoom.Lobby.Entering
import Mathlib.Data.List.Nodup

namespace AgentRoom.Lobby

open Library

variable {candidates shuffled : List RoomAllocationCandidate} {first second best : RoomAllocationCandidate}

theorem level_same (above : (compareCandidates first second).isLE = true) (below : (compareCandidates second first).isLE = true) :
    first.rankingKey = second.rankingKey ∧ first.room.id = second.room.id := by
  have level : compareCandidates first second = .eq := by
    rw [@Std.OrientedCmp.eq_swap _ compareCandidates] at below
    cases compared : compareCandidates first second <;> simp_all
  rw [compareCandidates, compareLex, Ordering.then_eq_eq] at level
  exact ⟨Std.LawfulEqCmp.eq_of_compare level.1, (compare_eq_iff_eq.mp level.2).symm⟩

theorem best_accepts (found : bestCandidate candidates = some best) : best ∈ candidates ∧ best.room.acceptsAllocations = true :=
  List.mem_filter.mp (max_by_mem compareCandidates found)

theorem best_tops (found : bestCandidate candidates = some best) (listed : first ∈ candidates)
    (accepts : first.room.acceptsAllocations = true) : (compareCandidates first best).isLE = true :=
  max_by_ge compareCandidates found first (List.mem_filter.mpr ⟨listed, accepts⟩)

theorem best_none : bestCandidate candidates = none ↔ ∀ candidate ∈ candidates, candidate.room.acceptsAllocations = false := by
  rw [bestCandidate, max_by_none, List.filter_eq_nil_iff]
  simp

theorem best_keeps_company (found : bestCandidate candidates = some best) (listed : first ∈ candidates)
    (accepts : first.room.acceptsAllocations = true) (company : first.affinity.keepsSocialContext = true) :
    best.affinity.keepsSocialContext = true := by
  have above := best_outranks found listed accepts
  by_contra alone
  rw [Bool.not_eq_true] at alone
  obtain ⟨known, invited⟩ := Bool.or_eq_false_iff.mp alone
  obtain ⟨previous, friends⟩ := Bool.or_eq_false_iff.mp known
  simp only [RoomAllocationCandidate.rankingKey, compare_le_cons, previous, invited, Bool.toNat_false] at above
  have friendless := of_decide_eq_false friends
  have unknown : decide (first.affinity.recovery = .previous) = false := by
    cases given : decide (first.affinity.recovery = .previous)
    · rfl
    · simp [given] at above
  have uninvited : decide (first.affinity.invitation = .explicit) = false := by
    cases given : decide (first.affinity.invitation = .explicit)
    · rfl
    · simp [given, unknown] at above
      omega
  have strange : decide (0 < first.affinity.friendsInRoom) = false := by
    simp only [unknown, Bool.toNat_false] at above
    exact decide_eq_false (by omega)
  simp [RoomAllocationAffinity.keepsSocialContext, unknown, uninvited, strange] at company

theorem best_shuffled (distinct : (candidates.map fun candidate => candidate.room.id).Nodup) (same : candidates.Perm shuffled) :
    bestCandidate shuffled = bestCandidate candidates := by
  cases found : bestCandidate candidates with
  | none =>
    exact best_none.mpr fun candidate listed => best_none.mp found candidate (same.mem_iff.mpr listed)
  | some best =>
    obtain ⟨listed, accepts⟩ := best_accepts found
    cases found' : bestCandidate shuffled with
    | none =>
      rw [best_none.mp found' best (same.mem_iff.mp listed)] at accepts
      cases accepts
    | some other =>
      obtain ⟨listed', accepts'⟩ := best_accepts found'
      have level := level_same (best_tops found (same.mem_iff.mpr listed') accepts') (best_tops found' (same.mem_iff.mp listed) accepts)
      rw [List.inj_on_of_nodup_map distinct (same.mem_iff.mpr listed') listed level.2]

theorem choice_follows_the_ranking (candidates : List RoomAllocationCandidate) :
    ((candidates.map fun candidate => candidate.room.id).Nodup → ∀ shuffled, candidates.Perm shuffled →
      chooseRoomInstance shuffled = chooseRoomInstance candidates) ∧
    (∀ id, chooseRoomInstance candidates = .reserve id → ∃ chosen ∈ candidates, chosen.room.id = id ∧ chosen.room.state = .active ∧
      chosen.room.allocatedSlots < chosen.room.capacity.hard ∧
        ((∃ candidate ∈ candidates, candidate.room.acceptsAllocations = true ∧ candidate.affinity.keepsSocialContext = true) →
          chosen.affinity.keepsSocialContext = true)) ∧
    (chooseRoomInstance candidates = .provisionNew ↔ (∀ candidate ∈ candidates, candidate.room.acceptsAllocations = false) ∨
        (∀ candidate ∈ candidates, candidate.room.acceptsAllocations = true → candidate.affinity.keepsSocialContext = false) ∧
          ∃ best ∈ candidates, best.room.acceptsAllocations = true ∧ best.room.isAboveSoftCapacity = true ∧
            ∀ candidate ∈ candidates, candidate.room.acceptsAllocations = true → (compareCandidates candidate best).isLE = true) := by
  refine ⟨fun distinct shuffled same => ?_, fun id chosen => ?_, ?_⟩
  · rw [chooseRoomInstance, chooseRoomInstance, best_shuffled distinct same]
  · rw [chooseRoomInstance] at chosen
    cases found : bestCandidate candidates with
    | none =>
      rw [found] at chosen
      cases chosen
    | some best =>
      obtain ⟨listed, accepts⟩ := best_accepts found
      obtain ⟨active, free⟩ := Bool.and_eq_true_iff.mp accepts
      simp only [found] at chosen
      split at chosen
      · cases chosen
      · cases chosen
        refine ⟨best, listed, rfl, of_decide_eq_true active, Nat.lt_of_sub_pos (of_decide_eq_true free), ?_⟩
        rintro ⟨candidate, among, accepts', company⟩
        exact best_keeps_company found among accepts' company
  · rw [chooseRoomInstance]
    cases found : bestCandidate candidates with
    | none => exact ⟨fun _ => .inl (best_none.mp found), fun _ => rfl⟩
    | some best =>
      obtain ⟨listed, accepts⟩ := best_accepts found
      have asked : (if best.room.isAboveSoftCapacity && !best.affinity.keepsSocialContext then RoomAllocationDecision.provisionNew
          else .reserve best.room.id) = .provisionNew ↔
          best.room.isAboveSoftCapacity = true ∧ best.affinity.keepsSocialContext = false := by
        rw [← Bool.not_eq_true', ← Bool.and_eq_true_iff]
        split <;> simp_all
      refine asked.trans ⟨fun both => .inr ⟨fun candidate among accepts' => ?_, best, listed, accepts, both.1,
        fun candidate among accepts' => best_tops found among accepts'⟩, ?_⟩
      · by_contra company
        rw [Bool.not_eq_false] at company
        have alone := both.2
        rw [best_keeps_company found among accepts' company] at alone
        cases alone
      · rintro (nobody | ⟨alone, other, among, accepts', full, tops⟩)
        · rw [nobody best listed] at accepts
          cases accepts
        · refine ⟨?_, alone best listed accepts⟩
          have level := (level_same (best_tops found among accepts') (tops best listed accepts)).1
          simp only [RoomAllocationCandidate.rankingKey, List.cons.injEq, full] at level
          have soft := level.2.2.2.2.2.1
          cases above : best.room.isAboveSoftCapacity
          · simp [above] at soft
          · rfl

end AgentRoom.Lobby
