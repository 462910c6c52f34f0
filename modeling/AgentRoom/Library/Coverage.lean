import Mathlib

namespace AgentRoom.Library

variable {α : Type}

-- A sequence that is read from its newest end: the positions that are known, the
-- ends from which a stretch is still to be read backwards, and the stretches
-- given up, each between the positions named for it.
structure Ledger (α : Type) where
  known : α → Prop
  pending : α → Prop
  lost : Option α → α → Prop

namespace Ledger

variable [LinearOrder α]

-- Reading backwards from the end comes to the position before it meets a known one.
def Reaches (ledger : Ledger α) (finish position : α) : Prop :=
  position < finish ∧ ∀ between, position < between → between < finish → ¬ ledger.known between

def Covers (ledger : Ledger α) (position : α) : Prop :=
  ledger.known position ∨ (∃ finish, ledger.pending finish ∧ ledger.Reaches finish position) ∨
    ∃ after before, ledger.lost after before ∧ position < before ∧ ∀ earlier, after = some earlier → earlier < position

theorem covers_extended {ledger next : Ledger α} (known : ∀ other, ledger.known other → next.known other)
    (joined : ∀ other, next.known other → ledger.known other ∨ ∀ finish, ledger.pending finish → finish ≤ other)
    (pending : ∀ finish, ledger.pending finish → next.pending finish)
    (lost : ∀ after before, ledger.lost after before → next.lost after before) (covers : ledger.Covers position) :
    next.Covers position := by
  rcases covers with here | ⟨finish, waiting, within, clear⟩ | ⟨after, before, gone, within, behind⟩
  · exact .inl (known position here)
  · refine .inr (.inl ⟨finish, pending finish waiting, within, fun between above below read => ?_⟩)
    rcases joined between read with earlier | late
    · exact clear between above below earlier
    · exact (not_le_of_gt below (late finish waiting)).elim
  · exact .inr (.inr ⟨after, before, lost after before gone, within, behind⟩)

-- One pending stretch read backwards from its end down to a stop: every position
-- of interest from the stop on has become known, none of them was before.
structure Read (ledger next : Ledger α) (wanted : α → Prop) (finish stop : α) : Prop where
  known : ∀ other, ledger.known other → next.known other
  joined : ∀ other, next.known other → ledger.known other ∨ (stop ≤ other ∧ other < finish)
  unknown : ∀ other, stop ≤ other → other < finish → ¬ ledger.known other
  taken : ∀ other, stop ≤ other → other < finish → wanted other → next.known other
  pending : ∀ end', ledger.pending end' → end' = finish ∨ next.pending end'
  lost : ∀ after before, ledger.lost after before → next.lost after before

-- Where the reading may stop: at a known position, or giving the rest up
-- between its end and a position that was known before the stretch.
inductive Settles (ledger next : Ledger α) (finish stop : α) : Prop where
  | met (meets : ∀ position, position < stop → ∃ edge, ledger.known edge ∧ position ≤ edge ∧ edge < stop)
  | gaveUp (after : Option α) (before : α) (gone : next.lost after before) (above : stop ≤ before)
      (behind : ∀ earlier, after = some earlier → ledger.known earlier ∧ earlier < finish)

section

variable {ledger next : Ledger α} {wanted : α → Prop} {finish stop : α}

theorem reached_below_stop (settles : Settles ledger next finish stop)
    (below : position < stop) (reaches : ledger.Reaches finish position) (known : ∀ other, ledger.known other → next.known other)
    (ordered : stop ≤ finish) : next.Covers position := by
  cases settles with
  | met meets =>
    obtain ⟨edge, read, above, under⟩ := meets position below
    rcases eq_or_lt_of_le above with same | later
    · exact .inl (known position (same ▸ read))
    · exact (reaches.2 edge later (lt_of_lt_of_le under ordered) read).elim
  | gaveUp after before gone above behind =>
    by_cases read : ledger.known position
    · exact .inl (known position read)
    · refine .inr (.inr ⟨after, before, gone, lt_of_lt_of_le below above, fun earlier named => ?_⟩)
      obtain ⟨was, front⟩ := behind earlier named
      rcases lt_trichotomy earlier position with less | same | more
      · exact less
      · exact (read (same ▸ was)).elim
      · exact (reaches.2 earlier more front was).elim

theorem covers_read (read : Read ledger next wanted finish stop) (settles : Settles ledger next finish stop)
    (ordered : stop ≤ finish) (interest : wanted position) (covers : ledger.Covers position) : next.Covers position := by
  rcases covers with here | ⟨end', waiting, within, clear⟩ | ⟨after, before, gone, within, behind⟩
  · exact .inl (read.known position here)
  · by_cases inside : stop ≤ position ∧ position < finish
    · exact .inl (read.taken position inside.1 inside.2 interest)
    · by_cases touched : ∃ between, position < between ∧ between < end' ∧ stop ≤ between ∧ between < finish
      · -- The reading entered this stretch, so it came past everything between.
        obtain ⟨between, above, below, from', under⟩ := touched
        have low : position < stop := by
          by_contra high
          exact inside ⟨not_lt.mp high, lt_trans above under⟩
        refine reached_below_stop settles low ⟨lt_of_lt_of_le low ordered, fun other more less was => ?_⟩
          read.known ordered
        by_cases early : other < stop
        · exact clear other more (lt_trans (lt_of_lt_of_le early from') below) was
        · exact read.unknown other (not_lt.mp early) less was
      · rcases read.pending end' waiting with same | stays
        · subst same
          by_cases low : position < stop
          · exact reached_below_stop settles low ⟨within, clear⟩ read.known ordered
          · exact (inside ⟨not_lt.mp low, within⟩).elim
        · refine .inr (.inl ⟨end', stays, within, fun between above below was => ?_⟩)
          rcases read.joined between was with earlier | ⟨from', under⟩
          · exact clear between above below earlier
          · exact touched ⟨between, above, below, from', under⟩
  · exact .inr (.inr ⟨after, before, read.lost after before gone, within, behind⟩)

end

end Ledger

end AgentRoom.Library
