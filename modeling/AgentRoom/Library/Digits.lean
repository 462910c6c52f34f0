import Mathlib.Algebra.Ring.Nat
import Mathlib.Data.List.GetD
import Mathlib.Data.List.Nodup
import Mathlib.Tactic.Common

namespace AgentRoom.Library

variable {α : Type}

-- The last digits of a number in a base, the lowest one first, each written in an alphabet.
def spell (alphabet : List α) [Inhabited α] : Nat → Nat → List α
  | 0, _ => []
  | count + 1, value => alphabet.getD (value % alphabet.length) default :: spell alphabet count (value / alphabet.length)

variable [Inhabited α] (alphabet : List α)

@[simp] theorem length_spell (count value : Nat) : (spell alphabet count value).length = count := by
  induction count generalizing value with
  | zero => rfl
  | succ count ih => simp [spell, ih]

theorem mem_spell (some' : alphabet ≠ []) (listed : letter ∈ spell alphabet count value) : letter ∈ alphabet := by
  induction count generalizing value with
  | zero => cases listed
  | succ count ih =>
    rcases List.mem_cons.mp listed with rfl | later
    · have inside := Nat.mod_lt value (List.length_pos_iff.mpr some')
      rw [List.getD_eq_getElem _ _ inside]
      exact List.getElem_mem inside
    · exact ih later

-- No two letters are alike, so the digits tell the number up to the power of the base.
theorem spell_inj (apart : alphabet.Nodup) (some' : alphabet ≠ []) (count first second : Nat) :
    spell alphabet count first = spell alphabet count second ↔
      first % alphabet.length ^ count = second % alphabet.length ^ count := by
  have positive := List.length_pos_iff.mpr some'
  have digit (first second : Nat) : alphabet.getD (first % alphabet.length) default = alphabet.getD (second % alphabet.length) default ↔
      first % alphabet.length = second % alphabet.length :=
    List.getD_inj (Nat.mod_lt first positive) (Nat.mod_lt second positive) apart
  induction count generalizing first second with
  | zero => simp [spell, Nat.mod_one]
  | succ count ih =>
    rw [spell, spell, List.cons.injEq, Nat.pow_succ', Nat.mod_mul, Nat.mod_mul]
    refine (and_congr (digit first second) (ih (first / alphabet.length) (second / alphabet.length))).trans ?_
    constructor
    · rintro ⟨low, high⟩
      rw [low, high]
    · intro same
      have low : first % alphabet.length = second % alphabet.length := by
        simpa using congrArg (· % alphabet.length) same
      rw [low] at same
      exact ⟨low, Nat.eq_of_mul_eq_mul_left positive (Nat.add_left_cancel same)⟩

end AgentRoom.Library
