import Mathlib.Tactic.Common

namespace AgentRoom.Library

variable {ε α : Type} (select : ε → Option α)

-- What holds of every selected entry of a log and of the entries after it.
def EachSince (holds : α → List ε → Prop) (log : List ε) : Prop :=
  ∀ before entry after item, log = before ++ entry :: after → select entry = some item → holds item after

-- What holds of any two selected entries and of the entries between them.
def EachPair (holds : α → List ε → α → Prop) (log : List ε) : Prop :=
  ∀ before first between second after item other, log = before ++ first :: (between ++ second :: after) →
    select first = some item → select second = some other → holds item between other

theorem snoc_split (split : log ++ [last] = before ++ entry :: after) :
    (after = [] ∧ entry = last ∧ log = before) ∨ ∃ earlier, after = earlier ++ [last] ∧ log = before ++ entry :: earlier := by
  rcases List.eq_nil_or_concat after with none | ⟨earlier, final, built⟩
  · subst none
    obtain ⟨front, back⟩ := List.append_inj' split rfl
    cases back
    exact .inl ⟨rfl, rfl, front⟩
  · rw [built, List.concat_eq_append, ← List.cons_append, ← List.append_assoc] at split
    obtain ⟨front, back⟩ := List.append_inj' split rfl
    cases back
    exact .inr ⟨earlier, by rw [built, List.concat_eq_append], front⟩

variable {log : List ε} {holds : α → List ε → Prop}

theorem each_since_nil : EachSince select holds [] := by
  intro before entry after item split
  simp at split

theorem each_since_snoc (each : EachSince select holds log)
    (grows : ∀ item after, holds item after → later item (after ++ [last]))
    (fresh : ∀ item, select last = some item → later item []) : EachSince select later (log ++ [last]) := by
  intro before entry after item split selected
  rcases snoc_split split with ⟨none, same, _⟩ | ⟨earlier, built, older⟩
  · rw [none]
    exact fresh item (same ▸ selected)
  · rw [built]
    exact grows item earlier (each before entry earlier item older selected)

theorem each_since_mono (each : EachSince select holds log)
    (implies : ∀ item after, holds item after → weaker item after) : EachSince select weaker log :=
  fun before entry after item split selected => implies item after (each before entry after item split selected)

theorem each_since_and (each : EachSince select holds log)
    (also : EachSince select other log) : EachSince select (fun item after => holds item after ∧ other item after) log :=
  fun before entry after item split selected =>
    ⟨each before entry after item split selected, also before entry after item split selected⟩

def checkSince (test : α → List ε → Bool) : List ε → Bool
  | [] => true
  | entry :: after => (select entry).all (test · after) && checkSince test after

theorem check_since (test : α → List ε → Bool) (log : List ε) (checked : checkSince select test log = true) :
    EachSince select (fun item after => test item after = true) log := by
  intro before entry after item split selected
  induction before generalizing log with
  | nil =>
    subst split
    have here := (Bool.and_eq_true_iff.mp checked).1
    rw [selected] at here
    exact here
  | cons first rest ih =>
    subst split
    exact ih (rest ++ entry :: after) (Bool.and_eq_true_iff.mp checked).2 rfl

def sinceFirst [DecidableEq α] (item : α) : List ε → List ε
  | [] => []
  | entry :: rest => if select entry = some item then rest else sinceFirst item rest

theorem since_first_split [DecidableEq α] (item : α) (log : List ε) (found : sinceFirst select item log ≠ []) :
    ∃ before entry, log = before ++ entry :: sinceFirst select item log ∧ select entry = some item := by
  induction log with
  | nil => exact absurd rfl found
  | cons entry rest ih =>
    by_cases here : select entry = some item
    · refine ⟨[], entry, ?_, here⟩
      simp [sinceFirst, here]
    · simp only [sinceFirst, here, if_false] at found ⊢
      obtain ⟨before, other, split, selected⟩ := ih found
      exact ⟨entry :: before, other, by rw [List.cons_append, ← split], selected⟩

theorem each_pair_nil {holds : α → List ε → α → Prop} : EachPair select holds [] := by
  intro before first between second after item other split
  simp at split

theorem each_pair_snoc {holds : α → List ε → α → Prop} (each : EachPair select holds log)
    (fresh : ∀ other, select last = some other → EachSince select (fun item between => holds item between other) log) :
    EachPair select holds (log ++ [last]) := by
  intro before first between second after item other split selected selected'
  rw [← List.cons_append, ← List.append_assoc] at split
  rcases snoc_split split with ⟨_, same, whole⟩ | ⟨earlier, _, older⟩
  · exact fresh other (same ▸ selected') before first between item whole selected
  · rw [List.append_assoc, List.cons_append] at older
    exact each before first between second earlier item other older selected selected'

theorem each_pair_listed {holds : α → List ε → α → Prop} (each : EachPair select holds log) (earlier between later : List α)
    (listed : log.filterMap select = earlier ++ first :: (between ++ second :: later)) : ∃ middle, holds first middle second := by
  obtain ⟨before, rest, whole, _, tail⟩ := List.filterMap_eq_append_iff.mp listed
  obtain ⟨skipped, entry, after, front, _, selected, later₁⟩ := List.filterMap_eq_cons_iff.mp tail
  obtain ⟨middle, rest₂, inner, _, later₂⟩ := List.filterMap_eq_append_iff.mp later₁
  obtain ⟨skipped₂, entry₂, after₂, back, _, selected₂, _⟩ := List.filterMap_eq_cons_iff.mp later₂
  refine ⟨middle ++ skipped₂, each (before ++ skipped) entry (middle ++ skipped₂) entry₂ after₂ first second ?_ selected selected₂⟩
  simp [whole, front, inner, back]

theorem last_split (kind : ε → Bool) (log : List ε) (some' : ∃ entry ∈ log, kind entry = true) :
    ∃ before entry after, log = before ++ entry :: after ∧ kind entry = true ∧ ∀ other ∈ after, kind other = false := by
  induction log with
  | nil =>
    obtain ⟨_, there, _⟩ := some'
    cases there
  | cons first rest ih =>
    by_cases later : ∃ entry ∈ rest, kind entry = true
    · obtain ⟨before, entry, after, split, mine, none'⟩ := ih later
      exact ⟨first :: before, entry, after, by rw [split, List.cons_append], mine, none'⟩
    · obtain ⟨entry, there, mine⟩ := some'
      rcases List.mem_cons.mp there with rfl | there
      · refine ⟨[], entry, rest, rfl, mine, fun other listed => ?_⟩
        exact Bool.eq_false_iff.mpr fun same => later ⟨other, listed, same⟩
      · exact absurd ⟨entry, there, mine⟩ later

def EachUpTo (holds : List ε → α → Prop) (log : List ε) : Prop :=
  ∀ before entry after item, log = before ++ entry :: after → select entry = some item → holds before item

theorem each_up_to_nil {holds : List ε → α → Prop} : EachUpTo select holds [] := by
  intro before entry after item split
  simp at split

theorem each_up_to_snoc {holds : List ε → α → Prop} (each : EachUpTo select holds log)
    (fresh : ∀ item, select last = some item → holds log item) : EachUpTo select holds (log ++ [last]) := by
  intro before entry after item split selected
  rcases snoc_split split with ⟨_, same, whole⟩ | ⟨earlier, _, older⟩
  · exact whole ▸ fresh item (same ▸ selected)
  · exact each before entry earlier item older selected

theorem each_up_to_mono {holds weaker : List ε → α → Prop} (each : EachUpTo select holds log)
    (implies : ∀ before item, holds before item → weaker before item) : EachUpTo select weaker log :=
  fun before entry after item split selected => implies before item (each before entry after item split selected)

end AgentRoom.Library
