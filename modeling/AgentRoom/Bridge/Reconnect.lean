import AgentRoom.Domain.Basics

namespace AgentRoom.Bridge

-- Both delays are u64.
structure ReconnectPolicy where
  initialDelay : DurationMillis
  maximumDelay : DurationMillis
  ordered : initialDelay.value ≤ maximumDelay.value
  fits : maximumDelay.value ≤ u64Max

namespace ReconnectPolicy

def new (initialDelay maximumDelay : DurationMillis) (fits : maximumDelay.value ≤ u64Max) : DomainResult ReconnectPolicy :=
  if ordered : initialDelay.value ≤ maximumDelay.value then .ok { initialDelay, maximumDelay, ordered, fits }
  else .error (.validation "bridge_reconnect_delay" "初始延迟不能大于最大延迟")

def saturateU64 (value : Nat) : Nat := min value u64Max

def checkedShl (value shift : Nat) : Option Nat := if shift < 64 then some (value * 2 ^ shift % 2 ^ 64) else none

variable (policy : ReconnectPolicy) (consecutiveFailures : Nat)

def multiplier : Nat :=
  let shift := min (consecutiveFailures - 1) 63
  (checkedShl 1 shift).getD u64Max

def ceiling : Nat := min (saturateU64 (policy.initialDelay.value * multiplier consecutiveFailures)) policy.maximumDelay.value

def floor : Nat := max (policy.ceiling consecutiveFailures / 2) 1

-- None where the code would divide by zero or build a duration of zero.
def delay (entropy : Nat) : Option DurationMillis :=
  let ceiling := policy.ceiling consecutiveFailures
  let floor := policy.floor consecutiveFailures
  let span := saturateU64 (ceiling - floor + 1)
  if span = 0 then none
  else
    let delay := saturateU64 (floor + entropy % span)
    if positive : 0 < delay then some ⟨delay, positive⟩ else none

theorem multiplier_power : multiplier consecutiveFailures = 2 ^ min (consecutiveFailures - 1) 63 := by
  have short : min (consecutiveFailures - 1) 63 < 64 := by omega
  have below : 2 ^ min (consecutiveFailures - 1) 63 < 2 ^ 64 := Nat.pow_lt_pow_right (by decide) short
  rw [multiplier, checkedShl, if_pos short, Nat.one_mul, Nat.mod_eq_of_lt below, Option.getD_some]

theorem ceiling_doubles : policy.ceiling consecutiveFailures =
    min (policy.initialDelay.value * 2 ^ min (consecutiveFailures - 1) 63) policy.maximumDelay.value := by
  have most := policy.fits
  rw [ceiling, multiplier_power, saturateU64]
  omega

theorem ceiling_positive : 1 ≤ policy.ceiling consecutiveFailures := by
  have raised : 1 ≤ policy.initialDelay.value * multiplier consecutiveFailures := by
    rw [multiplier_power]
    exact Nat.mul_pos policy.initialDelay.positive (Nat.two_pow_pos _)
  have longest := policy.maximumDelay.positive
  have room : 1 ≤ u64Max := by decide
  simp only [ceiling, saturateU64]
  omega

theorem ceiling_mono (grown : fewer ≤ more) : policy.ceiling fewer ≤ policy.ceiling more := by
  have raised : policy.initialDelay.value * multiplier fewer ≤ policy.initialDelay.value * multiplier more := by
    rw [multiplier_power, multiplier_power]
    exact Nat.mul_le_mul_left _ (Nat.pow_le_pow_right (by decide) (by omega))
  simp only [ceiling, saturateU64]
  omega

theorem delay_keeps_to_the_policy (entropy : Nat) :
    (∃ delay, policy.delay consecutiveFailures entropy = some delay ∧ policy.floor consecutiveFailures ≤ delay.value ∧
      delay.value ≤ policy.ceiling consecutiveFailures) ∧
    policy.ceiling consecutiveFailures ≤ policy.maximumDelay.value ∧
    (∀ more, consecutiveFailures ≤ more → policy.ceiling consecutiveFailures ≤ policy.ceiling more) ∧
    policy.ceiling consecutiveFailures =
      min (policy.initialDelay.value * 2 ^ min (consecutiveFailures - 1) 63) policy.maximumDelay.value := by
  refine ⟨?_, Nat.min_le_right .., fun more grown => ceiling_mono policy grown, ceiling_doubles policy consecutiveFailures⟩
  have positive := ceiling_positive policy consecutiveFailures
  have fits : policy.ceiling consecutiveFailures ≤ u64Max := Nat.le_trans (Nat.min_le_right ..) policy.fits
  have low : 1 ≤ policy.floor consecutiveFailures ∧ policy.floor consecutiveFailures ≤ policy.ceiling consecutiveFailures := by
    unfold floor
    omega
  have spread : saturateU64 (policy.ceiling consecutiveFailures - policy.floor consecutiveFailures + 1) =
      policy.ceiling consecutiveFailures - policy.floor consecutiveFailures + 1 := Nat.min_eq_left (by omega)
  have jitter : entropy % (policy.ceiling consecutiveFailures - policy.floor consecutiveFailures + 1) <
      policy.ceiling consecutiveFailures - policy.floor consecutiveFailures + 1 := Nat.mod_lt _ (Nat.succ_pos _)
  obtain ⟨drawn, picked⟩ : ∃ drawn,
      drawn = entropy % (policy.ceiling consecutiveFailures - policy.floor consecutiveFailures + 1) := ⟨_, rfl⟩
  have whole : saturateU64 (policy.floor consecutiveFailures + drawn) = policy.floor consecutiveFailures + drawn :=
    Nat.min_eq_left (by omega)
  have waits : 0 < policy.floor consecutiveFailures + drawn := by omega
  refine ⟨⟨policy.floor consecutiveFailures + drawn, waits⟩, ?_, Nat.le_add_right .., by dsimp only; omega⟩
  simp only [delay, spread, ← picked, whole]
  rw [if_neg (Nat.succ_ne_zero _), dif_pos waits]

end ReconnectPolicy

end AgentRoom.Bridge
