import Mathlib.Tactic.Common

namespace AgentRoom.Library

variable {α : Type}

-- A register that keeps the entry with the highest position among those offered.
def offer (position : α → Nat) (held : Option α) (entry : α) : Option α :=
  match held with
  | none => some entry
  | some top => if position entry < position top then some top else some entry

def Tracks (position : α → Nat) (entries : α → Prop) : Option α → Prop
  | none => ∀ entry, ¬ entries entry
  | some top => entries top ∧ ∀ entry, entries entry → position entry ≤ position top

variable (position : α → Nat) (entries : α → Prop)

theorem tracks_member (top : α) (tracked : Tracks position entries (some top)) : entries top := tracked.1

theorem tracks_congr (same : ∀ entry, entries entry ↔ others entry) (tracked : Tracks position entries held) :
    Tracks position others held := by
  cases held with
  | none => exact fun entry other => tracked entry ((same entry).mpr other)
  | some top =>
    exact ⟨(same top).mp tracked.1, fun entry other => tracked.2 entry ((same entry).mpr other)⟩

theorem tracks_offer (tracked : Tracks position entries held) :
    Tracks position (fun other => entries other ∨ other = entry) (offer position held entry) := by
  cases held with
  | none =>
    refine ⟨.inr rfl, ?_⟩
    rintro other (earlier | same)
    · exact (tracked other earlier).elim
    · exact same ▸ Nat.le_refl _
  | some top =>
    by_cases stale : position entry < position top
    · simp only [offer, if_pos stale]
      refine ⟨.inl tracked.1, ?_⟩
      rintro other (earlier | same)
      · exact tracked.2 other earlier
      · rw [same]
        omega
    · simp only [offer, if_neg stale]
      refine ⟨.inr rfl, ?_⟩
      rintro other (earlier | same)
      · have below := tracked.2 other earlier
        omega
      · exact same ▸ Nat.le_refl _

variable {α : Type} (order : α → α → Ordering)

section

variable (first : α) (rest : List α)

def greatest : α := rest.foldl (fun best next => if (order best next).isLE then next else best) first

theorem greatest_cons (next : α) :
    greatest order first (next :: rest) = greatest order (if (order first next).isLE then next else first) rest := rfl

theorem greatest_mem : greatest order first rest = first ∨ greatest order first rest ∈ rest := by
  induction rest generalizing first with
  | nil => exact .inl rfl
  | cons next rest ih =>
    rw [greatest_cons]
    rcases ih (if (order first next).isLE then next else first) with same | later
    · rw [same]
      split
      · exact .inr List.mem_cons_self
      · exact .inl rfl
    · exact .inr (List.mem_cons_of_mem next later)

theorem greatest_ge [Std.TransCmp order] :
    (order first (greatest order first rest)).isLE ∧ ∀ item ∈ rest, (order item (greatest order first rest)).isLE := by
  induction rest generalizing first with
  | nil => exact ⟨Std.ReflCmp.isLE_rfl, nofun⟩
  | cons next rest ih =>
    rw [greatest_cons]
    obtain ⟨above, others⟩ := ih (if (order first next).isLE then next else first)
    have both : (order first (if (order first next).isLE then next else first)).isLE ∧
        (order next (if (order first next).isLE then next else first)).isLE := by
      by_cases less : (order first next).isLE = true
      · rw [if_pos less]
        exact ⟨less, Std.ReflCmp.isLE_rfl⟩
      · rw [if_neg less]
        refine ⟨Std.ReflCmp.isLE_rfl, ?_⟩
        refine Std.OrientedCmp.isGE_iff_isLE.mp ?_
        cases compared : order first next <;> simp_all
    refine ⟨Std.TransCmp.isLE_trans both.1 above, ?_⟩
    intro item listed
    rcases List.mem_cons.mp listed with rfl | later
    · exact Std.TransCmp.isLE_trans both.2 above
    · exact others item later

end

def maxBy : List α → Option α
  | [] => none
  | first :: rest => some (greatest order first rest)

theorem max_by_none : maxBy order list = none ↔ list = [] := by
  cases list <;> simp [maxBy]

theorem max_by_mem (found : maxBy order list = some best) : best ∈ list := by
  cases list with
  | nil => cases found
  | cons first rest =>
    cases found
    rcases greatest_mem order first rest with same | later
    · exact List.mem_cons.mpr (.inl same)
    · exact List.mem_cons_of_mem first later

theorem max_by_ge [Std.TransCmp order] (found : maxBy order list = some best) : ∀ item ∈ list, (order item best).isLE := by
  cases list with
  | nil => cases found
  | cons first rest =>
    cases found
    obtain ⟨above, others⟩ := greatest_ge order first rest
    intro item listed
    rcases List.mem_cons.mp listed with rfl | later
    · exact above
    · exact others item later

end AgentRoom.Library
