import AgentRoom.Library.Fallible
import Mathlib.Data.List.Forall2
import Mathlib.Data.List.Nodup

namespace AgentRoom.Library

variable {ε α κ : Type}

-- An UPDATE over the rows of a relation: the rows it hits are rewritten, and one
-- rewriting that fails refuses the whole statement.
def rewriteRow (hit : α → Bool) (set : α → Except ε α) (row : α) : Except ε α :=
  if hit row then set row else .ok row

def updateWhere (hit : α → Bool) (set : α → Except ε α) : List α → Except ε (List α)
  | [] => .ok []
  | row :: rest => do
    let next ← rewriteRow hit set row
    let others ← updateWhere hit set rest
    return next :: others

def Updated (hit : α → Bool) (set : α → Except ε α) (old new : α) : Prop :=
  (hit old = true ∧ set old = .ok new) ∨ (hit old = false ∧ new = old)

theorem update_where_ok (hit : α → Bool) (set : α → Except ε α) (rows next : List α)
    (run : updateWhere hit set rows = .ok next) : List.Forall₂ (Updated hit set) rows next := by
  induction rows generalizing next with
  | nil =>
    cases run
    exact .nil
  | cons row rest ih =>
    obtain ⟨new, rewritten, later⟩ := unbind run
    obtain ⟨others, updated, built⟩ := unbind later
    cases built
    have here : Updated hit set row new := by
      by_cases hits : hit row = true
      · rw [rewriteRow, if_pos hits] at rewritten
        exact .inl ⟨hits, rewritten⟩
      · rw [rewriteRow, if_neg hits] at rewritten
        cases rewritten
        exact .inr ⟨by simpa using hits, rfl⟩
    exact .cons here (ih others updated)

theorem update_where_total (hit : α → Bool) (set : α → Except ε α) (rows : List α)
    (fits : ∀ row ∈ rows, hit row = true → ∃ new, set row = .ok new) : ∃ next, updateWhere hit set rows = .ok next := by
  induction rows with
  | nil => exact ⟨[], rfl⟩
  | cons row rest ih =>
    obtain ⟨others, updated⟩ := ih fun other later => fits other (List.mem_cons_of_mem _ later)
    by_cases hits : hit row = true
    · obtain ⟨new, rewritten⟩ := fits row List.mem_cons_self hits
      exact ⟨new :: others, by rw [updateWhere, rewriteRow, if_pos hits, rewritten, updated]; rfl⟩
    · exact ⟨row :: others, by rw [updateWhere, rewriteRow, if_neg hits, updated]; rfl⟩

theorem related_from (each : List.Forall₂ related rows next) (listed : new ∈ next) : ∃ old ∈ rows, related old new := by
  induction each with
  | nil => cases listed
  | @cons old first rest others here _ ih =>
    rcases List.mem_cons.mp listed with same | later
    · exact ⟨old, List.mem_cons_self .., same ▸ here⟩
    · obtain ⟨found, member, known⟩ := ih later
      exact ⟨found, List.mem_cons_of_mem _ member, known⟩

theorem related_to (each : List.Forall₂ related rows next) (listed : old ∈ rows) : ∃ new ∈ next, related old new := by
  induction each with
  | nil => cases listed
  | @cons first new rest others here _ ih =>
    rcases List.mem_cons.mp listed with same | later
    · exact ⟨new, List.mem_cons_self .., same ▸ here⟩
    · obtain ⟨found, member, known⟩ := ih later
      exact ⟨found, List.mem_cons_of_mem _ member, known⟩

theorem related_column (column : α → κ) (keeps : ∀ old new, related old new → column new = column old)
    (each : List.Forall₂ related rows next) : next.map column = rows.map column := by
  induction each with
  | nil => rfl
  | cons here _ ih => rw [List.map_cons, List.map_cons, keeps _ _ here, ih]

theorem related_trans (each : List.Forall₂ first rows next) (later : List.Forall₂ second next last)
    (compose : ∀ one ∈ rows, ∀ two three, first one two → second two three → third one three) : List.Forall₂ third rows last := by
  induction each generalizing last with
  | nil =>
    cases later
    exact .nil
  | cons here _ ih =>
    cases later with
    | cons here' later' =>
      exact .cons (compose _ List.mem_cons_self _ _ here here')
        (ih later' fun one listed => compose one (List.mem_cons_of_mem _ listed))

theorem related_known (each : List.Forall₂ first rows next)
    (weakens : ∀ old ∈ rows, ∀ new, first old new → second old new) : List.Forall₂ second rows next := by
  induction each with
  | nil => exact .nil
  | cons here _ ih =>
    exact .cons (weakens _ List.mem_cons_self _ here) (ih fun old listed => weakens old (List.mem_cons_of_mem _ listed))

-- Where a row is a checked core, an UPDATE maps the core of every row it hits.
theorem update_where_core (core : α → β) {hit : α → Bool} {set : α → Except ε α} (change : β → β)
    (writes : ∀ row new, set row = .ok new → core new = change (core row)) (run : updateWhere hit set rows = .ok next) :
    List.Forall₂ (fun old new => core new = if hit old then change (core old) else core old) rows next := by
  apply (update_where_ok hit set rows next run).imp
  rintro old new (⟨hits, rewritten⟩ | ⟨misses, same⟩)
  · rw [if_pos hits, writes old new rewritten]
  · rw [same, misses]
    rfl

theorem keys_append (distinct : (rows.map key).Nodup)
    (fresh : ∀ old ∈ rows, key old ≠ key row) : ((rows ++ [row]).map key).Nodup := by
  rw [List.map_append, List.nodup_append]
  refine ⟨distinct, by simp, ?_⟩
  intro value listed last same
  obtain ⟨old, member, named⟩ := List.mem_map.mp listed
  have only : last = key row := by simpa using same
  exact only ▸ named ▸ fresh old member

theorem key_unique (key : α → κ) (rows : List α) (distinct : (rows.map key).Nodup) (first second : α)
    (listed : first ∈ rows) (listed' : second ∈ rows) (same : key first = key second) : first = second :=
  List.inj_on_of_nodup_map distinct listed listed' same

theorem find_key [DecidableEq κ] {key : α → κ} {rows : List α} (distinct : (rows.map key).Nodup) (row : α)
    (listed : row ∈ rows) : rows.find? (fun other => key other = key row) = some row := by
  cases found : rows.find? (fun other => key other = key row) with
  | none =>
    have missed := List.find?_eq_none.mp found row listed
    simp at missed
  | some other =>
    have same : key other = key row := by simpa using List.find?_some found
    rw [key_unique key rows distinct other row (List.mem_of_find?_eq_some found) listed same]

end AgentRoom.Library
