import Mathlib.Data.List.Nodup
import Mathlib.Logic.Function.Basic
import Mathlib.Tactic.Common

namespace AgentRoom.Library

-- Reading a log that runs in lanes: every item has a place in its lane, and a
-- frontier says for each lane from which place on it was not read yet.
variable {ι κ : Type} [DecidableEq κ] (lane : ι → κ) (place : ι → Nat)

def advance (frontier : κ → Nat) (item : ι) : κ → Nat :=
  Function.update frontier (lane item) (place item + 1)

-- The first item due in its lane, or one the reader passes before it.
def NextIn (due : ι → Prop) (frontier : κ → Nat) (item : ι) : Prop :=
  frontier (lane item) ≤ place item ∧ ∀ other, due other → lane other = lane item → frontier (lane item) ≤ place other →
      other = item ∨ place item < place other

def Clear (due : ι → Prop) (low high : κ → Nat) : Prop :=
  (∀ one, low one ≤ high one) ∧ ∀ item, due item → low (lane item) ≤ place item → high (lane item) ≤ place item

-- The buffer holds all that is due between the two frontiers, in the order of each lane.
def Covers (due : ι → Prop) : (κ → Nat) → List ι → (κ → Nat) → Prop
  | low, [], high => Clear lane place due low high
  | low, item :: rest, high =>
    NextIn lane place due low item ∧ Covers due (advance lane place low item) rest high

structure Settled (due : ι → Prop) (start low : κ → Nat) (items : List ι) : Prop where
  once : items.Nodup
  within : ∀ item ∈ items, start (lane item) ≤ place item ∧ place item < low (lane item)
  whole : ∀ item, due item → start (lane item) ≤ place item → place item < low (lane item) → item ∈ items

section

variable {lane place}

theorem advance_same (frontier : κ → Nat) (item : ι) : advance lane place frontier item (lane item) = place item + 1 :=
  Function.update_self ..

theorem advance_other (frontier : κ → Nat) (item : ι) (one : κ) (other : one ≠ lane item) :
    advance lane place frontier item one = frontier one := Function.update_of_ne other ..

theorem le_advance {frontier : κ → Nat} (reached : frontier (lane item) ≤ place item) (one : κ) :
    frontier one ≤ advance lane place frontier item one := by
  by_cases same : one = lane item
  · subst same
    rw [advance_same]
    omega
  · exact Nat.le_of_eq (advance_other _ _ _ same).symm

theorem advance_mono {frontier above : κ → Nat} (behind : ∀ one, frontier one ≤ above one) (item : ι) (one : κ) :
    advance lane place frontier item one ≤ advance lane place above item one := by
  by_cases same : one = lane item
  · subst same
    exact Nat.le_of_eq (by rw [advance_same, advance_same])
  · rw [advance_other _ _ _ same, advance_other _ _ _ same]
    exact behind one

omit [DecidableEq κ] in
theorem next_fewer {due due' : ι → Prop} {frontier : κ → Nat} (next : NextIn lane place due frontier item) (fewer : ∀ other, due' other → due other) :
    NextIn lane place due' frontier item :=
  ⟨next.1, fun other expected => next.2 other (fewer other expected)⟩

end

section

variable {lane place} {due due' : ι → Prop} {low high : κ → Nat}

variable {held taken rest : List ι}

section

variable (covers : Covers lane place due low held high)
include covers

theorem covers_le (one : κ) : low one ≤ high one := by
  induction held generalizing low with
  | nil => exact covers.1 one
  | cons item rest ih => exact Nat.le_trans (le_advance covers.1.1 one) (ih covers.2)

theorem covers_mem (listed : item ∈ held) : low (lane item) ≤ place item ∧ place item < high (lane item) := by
  induction held generalizing low with
  | nil => cases listed
  | cons first rest ih =>
    obtain ⟨next, later⟩ := covers
    rcases List.mem_cons.mp listed with same | member
    · subst same
      have passed := covers_le later (lane item)
      rw [advance_same] at passed
      exact ⟨next.1, passed⟩
    · obtain ⟨above, below⟩ := ih later member
      exact ⟨Nat.le_trans (le_advance next.1 _) above, below⟩

theorem covers_once : held.Nodup := by
  induction held generalizing low with
  | nil => exact List.nodup_nil
  | cons item rest ih =>
    have fresh : item ∉ rest := by
      intro again
      have above := (covers_mem covers.2 again).1
      rw [advance_same] at above
      omega
    exact List.nodup_cons.mpr ⟨fresh, ih covers.2⟩

theorem covers_whole (expected : due item)
    (above : low (lane item) ≤ place item) (below : place item < high (lane item)) : item ∈ held := by
  induction held generalizing low with
  | nil =>
    have beyond := covers.2 item expected above
    omega
  | cons first rest ih =>
    obtain ⟨next, later⟩ := covers
    by_cases same : lane item = lane first
    · rcases next.2 item expected same (same ▸ above) with equal | behind
      · exact List.mem_cons.mpr (.inl equal)
      · have passed : advance lane place low first (lane item) ≤ place item := by
          rw [same, advance_same]
          omega
        exact List.mem_cons_of_mem _ (ih later passed)
    · have passed : advance lane place low first (lane item) ≤ place item := by
        rw [advance_other _ _ _ same]
        exact above
      exact List.mem_cons_of_mem _ (ih later passed)

end

theorem covers_refl {frontier : κ → Nat} : Covers lane place due frontier [] frontier :=
  ⟨fun _ => Nat.le_refl _, fun _ _ above => above⟩

theorem clear_advance (clear : Clear lane place due low high) :
    Clear lane place due (advance lane place low item) (advance lane place high item) := by
  refine ⟨advance_mono clear.1 item, ?_⟩
  intro other expected above
  by_cases same : lane other = lane item
  · rw [same, advance_same] at above ⊢
    exact above
  · rw [advance_other _ _ _ same] at above ⊢
    exact clear.2 other expected above

omit [DecidableEq κ] in
theorem clear_next (clear : Clear lane place due low high) (next : NextIn lane place due high item) :
    NextIn lane place due low item := by
  refine ⟨Nat.le_trans (clear.1 _) next.1, ?_⟩
  intro other expected same above
  exact next.2 other expected same (same ▸ clear.2 other expected (same ▸ above))

theorem covers_push (covers : Covers lane place due low held high) (next : NextIn lane place due high item) :
    Covers lane place due low (held ++ [item]) (advance lane place high item) := by
  induction held generalizing low with
  | nil => exact ⟨clear_next covers next, clear_advance covers⟩
  | cons first rest ih => exact ⟨covers.1, ih covers.2⟩

omit [DecidableEq κ] in
theorem next_beyond {frontier : κ → Nat} (next : NextIn lane place due frontier item) (spare : ¬ due item)
    (expected : due other) (same : lane other = lane item) (above : frontier (lane item) ≤ place other) :
    place item + 1 ≤ place other := by
  rcases next.2 other expected same above with equal | behind
  · exact absurd (equal ▸ expected) spare
  · exact behind

section

variable (covers : Covers lane place due low held high)
include covers

theorem covers_over (next : NextIn lane place due high item) (spare : ¬ due item) :
    Covers lane place due low held (advance lane place high item) := by
  induction held generalizing low with
  | nil =>
    obtain ⟨rises, clear⟩ := covers
    refine ⟨fun one => Nat.le_trans (rises one) (le_advance next.1 one), ?_⟩
    intro other expected above
    have beyond := clear other expected above
    by_cases same : lane other = lane item
    · rw [same, advance_same]
      exact next_beyond next spare expected same (same ▸ beyond)
    · rw [advance_other _ _ _ same]
      exact beyond
  | cons first rest ih => exact ⟨covers.1, ih covers.2⟩

theorem covers_unheld (unheld : ∀ other ∈ held, lane other ≠ lane item) :
    Covers lane place due (advance lane place low item) held (advance lane place high item) := by
  induction held generalizing low with
  | nil => exact clear_advance covers
  | cons first rest ih =>
    obtain ⟨⟨reached, nothing⟩, later⟩ := covers
    have apart := unheld first List.mem_cons_self
    have swapped : advance lane place (advance lane place low item) first =
        advance lane place (advance lane place low first) item :=
      Function.update_comm apart.symm _ _ low
    refine ⟨⟨?_, ?_⟩, ?_⟩
    · rw [advance_other _ _ _ apart]
      exact reached
    · intro other expected same above
      rw [advance_other _ _ _ apart] at above
      exact nothing other expected same above
    · rw [swapped]
      exact ih later fun other member => unheld other (List.mem_cons_of_mem _ member)

theorem next_unheld (next : NextIn lane place due high item) (unheld : ∀ other ∈ held, lane other ≠ lane item) :
    NextIn lane place due low item := by
  induction held generalizing low with
  | nil => exact clear_next covers next
  | cons first rest ih =>
    have apart := unheld first List.mem_cons_self
    have later := ih covers.2 fun other member => unheld other (List.mem_cons_of_mem _ member)
    rw [NextIn, advance_other _ _ _ apart.symm] at later
    exact later

end

theorem covers_drop (covers : Covers lane place due low (taken ++ rest) high) :
    Covers lane place due (taken.foldl (advance lane place) low) rest high := by
  induction taken generalizing low with
  | nil => exact covers
  | cons item others ih => exact ih covers.2

-- A reader that lags behind the buffer only moves forward when it takes from its front.
theorem taken_le (covers : Covers lane place due low (taken ++ rest) high) (one : κ) :
    low one ≤ taken.foldl (advance lane place) low one := by
  induction taken generalizing low with
  | nil => exact Nat.le_refl _
  | cons item others ih => exact Nat.le_trans (le_advance covers.1.1 one) (ih covers.2)

theorem lagging_le (covers : Covers lane place due low (taken ++ rest) high) (behind : ∀ one, lag one ≤ low one) (one : κ) :
    lag one ≤ taken.foldl (advance lane place) lag one ∧
      taken.foldl (advance lane place) lag one ≤ taken.foldl (advance lane place) low one := by
  induction taken generalizing low lag with
  | nil => exact ⟨Nat.le_refl _, behind one⟩
  | cons item others ih =>
    obtain ⟨next, later⟩ := covers
    obtain ⟨forward, still⟩ := ih later (advance_mono behind item)
    exact ⟨Nat.le_trans (le_advance (Nat.le_trans (behind _) next.1) one) forward, still⟩

theorem covers_later (covers : Covers lane place due low held high)
    (later : ∀ item, due' item → due item ∨ high (lane item) ≤ place item) : Covers lane place due' low held high := by
  induction held generalizing low with
  | nil =>
    refine ⟨covers.1, ?_⟩
    intro item expected above
    rcases later item expected with before | beyond
    · exact covers.2 item before above
    · exact beyond
  | cons first rest ih =>
    obtain ⟨⟨reached, nothing⟩, others⟩ := covers
    refine ⟨⟨reached, ?_⟩, ih others⟩
    intro other expected same above
    rcases later other expected with before | beyond
    · exact nothing other before same above
    · have passed := covers_le others (lane first)
      rw [advance_same] at passed
      rw [same] at beyond
      exact .inr (Nat.lt_of_lt_of_le passed beyond)

end

section

variable {lane place}

omit [DecidableEq κ] in
theorem settled_start : Settled lane place due start start [] where
  once := List.nodup_nil
  within := fun _ listed => nomatch listed
  whole := by
    intro item _ above below
    omega

omit [DecidableEq κ] in
theorem settled_later (settled : Settled lane place due start low items)
    (later : ∀ item, due' item → due item ∨ low (lane item) ≤ place item) : Settled lane place due' start low items where
  once := settled.once
  within := settled.within
  whole := by
    intro item expected above below
    rcases later item expected with before | beyond
    · exact settled.whole item before above below
    · omega

theorem settled_push (settled : Settled lane place due start low items) (starts : ∀ one, start one ≤ low one)
    (next : NextIn lane place due low item) : Settled lane place due start (advance lane place low item) (items ++ [item]) where
  once := by
    have fresh : item ∉ items := by
      intro again
      have below := (settled.within item again).2
      have reached := next.1
      omega
    simpa [List.nodup_append, settled.once] using fun other listed (same : other = item) => fresh (same ▸ listed)
  within := by
    intro other listed
    rcases List.mem_append.mp listed with earlier | last
    · obtain ⟨above, below⟩ := settled.within other earlier
      exact ⟨above, Nat.lt_of_lt_of_le below (le_advance next.1 _)⟩
    · obtain rfl : other = item := by simpa using last
      rw [advance_same]
      exact ⟨Nat.le_trans (starts _) next.1, by omega⟩
  whole := by
    intro other expected above below
    by_cases same : lane other = lane item
    · rw [same, advance_same] at below
      by_cases earlier : place other < low (lane other)
      · exact List.mem_append_left _ (settled.whole other expected above earlier)
      · rcases next.2 other expected same (by rw [← same]; omega) with equal | behind
        · exact List.mem_append_right _ (List.mem_singleton.mpr equal)
        · omega
    · rw [advance_other _ _ _ same] at below
      exact List.mem_append_left _ (settled.whole other expected above below)

theorem settled_over (settled : Settled lane place due start low items) (next : NextIn lane place due low item)
    (spare : ¬ due item) : Settled lane place due start (advance lane place low item) items where
  once := settled.once
  within := by
    intro other listed
    obtain ⟨above, below⟩ := settled.within other listed
    exact ⟨above, Nat.lt_of_lt_of_le below (le_advance next.1 _)⟩
  whole := by
    intro other expected above below
    by_cases same : lane other = lane item
    · rw [same, advance_same] at below
      by_cases earlier : place other < low (lane other)
      · exact settled.whole other expected above earlier
      · have beyond := next_beyond next spare expected same (by rw [← same]; omega)
        omega
    · rw [advance_other _ _ _ same] at below
      exact settled.whole other expected above below

-- Where nothing due is left before a frontier, all before it is settled.
omit [DecidableEq κ] in
theorem settled_clear (settled : Settled lane place due start low items) (clear : Clear lane place due low high) :
    Settled lane place due start high items where
  once := settled.once
  within := by
    intro item listed
    obtain ⟨above, below⟩ := settled.within item listed
    exact ⟨above, Nat.lt_of_lt_of_le below (clear.1 _)⟩
  whole := by
    intro item expected above below
    by_cases earlier : place item < low (lane item)
    · exact settled.whole item expected above earlier
    · have beyond := clear.2 item expected (Nat.le_of_not_lt earlier)
      omega

theorem settled_take (settled : Settled lane place due start low items) (starts : ∀ one, start one ≤ low one)
    (covers : Covers lane place due low (taken ++ rest) high) :
    Settled lane place due start (taken.foldl (advance lane place) low) (items ++ taken) := by
  induction taken generalizing low items with
  | nil => simpa using settled
  | cons item others ih =>
    obtain ⟨next, later⟩ := covers
    have pushed := settled_push settled starts next
    have risen (one : κ) : start one ≤ advance lane place low item one :=
      Nat.le_trans (starts one) (le_advance next.1 one)
    simpa using ih pushed risen later

omit [DecidableEq κ] in
theorem settled_perm (settled : Settled lane place due start low items) (same : items.Perm others) :
    Settled lane place due start low others where
  once := same.nodup_iff.mp settled.once
  within := fun item listed => settled.within item (same.mem_iff.mpr listed)
  whole := fun item expected above below => same.mem_iff.mp (settled.whole item expected above below)

end

end AgentRoom.Library
