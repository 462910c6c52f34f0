import AgentRoom.Library.Fallible

namespace AgentRoom.Library

variable {ε σ α : Type}

-- A store that takes each input once: an input it has is a step that changes
-- nothing, or that is refused because the store is exhausted.
structure Absorbs (step : σ → α → Except ε σ) (has : σ → α → Prop) (refusal : ε) (exhausted : σ → Prop) : Prop where
  takes : ∀ state item next, step state item = .ok next → has next item
  keeps : ∀ state item next other, step state item = .ok next → has state other → has next other
  idle : ∀ state item, has state item → step state item = .ok state ∨ (step state item = .error refusal ∧ exhausted state)

section

variable {step : σ → α → Except ε σ} {has : σ → α → Prop} {refusal : ε} {exhausted : σ → Prop}

section

variable (absorbs : Absorbs step has refusal exhausted)
include absorbs

theorem loop_keeps (known : has state other) (run : List.foldlM step state items = .ok final) : has final other :=
  fold_ok_invariant step (fun reached => has reached other) items
    (fun item _ before after held stepped => absorbs.keeps before item after other stepped held) state final known run

theorem loop_takes (items : List α) (state final : σ)
    (run : List.foldlM step state items = .ok final) : ∀ item ∈ items, has final item := by
  induction items generalizing state with
  | nil => simp
  | cons first rest ih =>
    obtain ⟨next, stepped, later⟩ := (fold_ok_cons step state final first rest).mp run
    intro item listed
    rcases List.mem_cons.mp listed with same | more
    · subst same
      exact loop_keeps absorbs (absorbs.takes state item next stepped) later
    · exact ih next later item more

theorem loop_idle (known : ∀ item ∈ items, has state item) :
    List.foldlM step state items = .ok state ∨ (List.foldlM step state items = .error refusal ∧ exhausted state) := by
  induction items with
  | nil => exact .inl rfl
  | cons first rest ih =>
    rw [List.foldlM_cons]
    rcases absorbs.idle state first (known first List.mem_cons_self) with still | ⟨refused, full⟩
    · rw [still]
      exact ih fun item listed => known item (List.mem_cons_of_mem _ listed)
    · rw [refused]
      exact .inr ⟨rfl, full⟩

end

end

def insertOrIgnore (same : α → Bool) (rows : List α) (row : α) : List α :=
  if rows.any same then rows else rows ++ [row]

theorem insert_or_ignore_any (same : α → Bool) (rows : List α) (row : α) (itself : same row = true) :
    (insertOrIgnore same rows row).any same = true := by
  rw [insertOrIgnore]
  split
  · assumption
  · simp [itself]

theorem insert_or_ignore_mono (same : α → Bool) (rows : List α) (row : α) (listed : rows.any other = true) :
    (insertOrIgnore same rows row).any other = true := by
  rw [insertOrIgnore]
  split
  · exact listed
  · rw [List.any_append, listed, Bool.true_or]

theorem insert_or_ignore_mem (listed : other ∈ insertOrIgnore same rows row) : other ∈ rows ∨ other = row := by
  rw [insertOrIgnore] at listed
  split at listed
  · exact .inl listed
  · simpa using listed

theorem insert_or_ignore_subset (listed : other ∈ rows) : other ∈ insertOrIgnore same rows row := by
  rw [insertOrIgnore]
  split
  · exact listed
  · exact List.mem_append_left _ listed

theorem insert_or_ignore_again (same : α → Bool) (rows : List α) (row : α) (listed : rows.any same = true) :
    insertOrIgnore same rows row = rows := if_pos listed

end AgentRoom.Library
