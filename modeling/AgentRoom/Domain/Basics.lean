import Mathlib.Algebra.Ring.Int.Defs
import Mathlib.Algebra.Ring.Nat
import Mathlib.Data.List.Basic
import Mathlib.Tactic.Common

namespace AgentRoom

inductive DomainError where
  | forbidden (action : String)
  | invariantViolation (entity rule : String)
  | invalidTransition (entity source target : String)
  | validation (field reason : String)
  | capacityExceeded (capacity : Nat)
  | timeOverflow
  | versionOverflow
deriving DecidableEq

abbrev DomainResult (α : Type) := Except DomainError α

def i64Max : Nat := 2 ^ 63 - 1

def u64Max : Nat := 2 ^ 64 - 1

-- Milliseconds since the Unix epoch: a non-negative i64.
structure UtcMillis where
  value : Nat
  fits : value ≤ i64Max
deriving DecidableEq

namespace UtcMillis

def ofNat (value : Nat) : UtcMillis := ⟨min value i64Max, Nat.min_le_right value i64Max⟩

instance (value : Nat) : OfNat UtcMillis value := ⟨ofNat value⟩

instance : LE UtcMillis := ⟨fun a b => a.value ≤ b.value⟩
instance : LT UtcMillis := ⟨fun a b => a.value < b.value⟩
instance (a b : UtcMillis) : Decidable (a ≤ b) := inferInstanceAs (Decidable (a.value ≤ b.value))
instance (a b : UtcMillis) : Decidable (a < b) := inferInstanceAs (Decidable (a.value < b.value))

theorem le_iff {a b : UtcMillis} : a ≤ b ↔ a.value ≤ b.value := Iff.rfl
theorem lt_iff {a b : UtcMillis} : a < b ↔ a.value < b.value := Iff.rfl

variable (a b : UtcMillis)

theorem not_lt_iff : ¬ a < b ↔ b ≤ a := Nat.not_lt
theorem not_le_iff : ¬ a ≤ b ↔ b < a := Nat.not_le

theorem le_refl : a ≤ a := Nat.le_refl a.value

theorem le_trans (c : UtcMillis) (ab : a ≤ b) (bc : b ≤ c) : a ≤ c := Nat.le_trans ab bc

theorem lt_of_le_of_lt (c : UtcMillis) (ab : a ≤ b) (bc : b < c) : a < c := Nat.lt_of_le_of_lt ab bc

end UtcMillis

structure AggregateVersion where
  value : Nat
  fits : value ≤ i64Max
deriving DecidableEq

namespace AggregateVersion

def initial : AggregateVersion := ⟨0, by decide⟩

def next (version : AggregateVersion) : DomainResult AggregateVersion :=
  if fits : version.value + 1 ≤ i64Max then .ok ⟨version.value + 1, fits⟩
  else .error .versionOverflow

theorem next_value {version successor : AggregateVersion} (advanced : version.next = .ok successor) :
    successor.value = version.value + 1 := by
  unfold next at advanced
  split at advanced
  · cases advanced
    rfl
  · cases advanced

end AggregateVersion

-- One newtype over Uuid per kind of identifier, as the source's macro makes them.
inductive IdKind where
  | principal
  | agent
  | agentInstance
  | roomCatalog
  | handoff
  | message
  | content
  | contentUploadRequest
  | contentEncryptionContext
  | messageSubmission
  | automationGrant
  | device
  | deviceTokenFamily
  | deviceAccessToken
  | deviceRefreshToken
  | deviceRefreshAttempt

structure Id (kind : IdKind) where
  uuid : Nat
deriving DecidableEq

namespace Id

variable {kind : IdKind}

instance : Ord (Id kind) := ⟨fun a b => compare a.uuid b.uuid⟩

instance : Std.TransOrd (Id kind) where
  eq_swap := fun {a b} => @Std.OrientedCmp.eq_swap Nat compare _ a.uuid b.uuid
  isLE_trans := fun {a b c} => @Std.TransCmp.isLE_trans Nat compare _ a.uuid b.uuid c.uuid

instance : Std.LawfulEqOrd (Id kind) where
  eq_of_compare := by
    intro a b same
    have equal : a.uuid = b.uuid := Nat.compare_eq_eq.mp same
    cases a
    cases b
    exact congrArg Id.mk equal

end Id

abbrev PrincipalId := Id .principal
abbrev AgentId := Id .agent
abbrev AgentInstanceId := Id .agentInstance
abbrev RoomCatalogId := Id .roomCatalog
abbrev HandoffId := Id .handoff
abbrev MessageId := Id .message
abbrev ContentId := Id .content
abbrev ContentUploadRequestId := Id .contentUploadRequest
abbrev ContentEncryptionContextId := Id .contentEncryptionContext
abbrev MessageSubmissionId := Id .messageSubmission
abbrev AutomationGrantId := Id .automationGrant
abbrev DeviceId := Id .device
abbrev DeviceTokenFamilyId := Id .deviceTokenFamily
abbrev DeviceAccessTokenId := Id .deviceAccessToken
abbrev DeviceRefreshTokenId := Id .deviceRefreshToken
abbrev DeviceRefreshAttemptId := Id .deviceRefreshAttempt

def isControlChar (char : Char) : Bool := char.toNat < 32 || (127 ≤ char.toNat && char.toNat < 160)

def isWhitespaceChar (char : Char) : Bool :=
  (9 ≤ char.toNat && char.toNat ≤ 13) || (0x2000 ≤ char.toNat && char.toNat ≤ 0x200A) ||
    char.toNat ∈ [0x20, 0x85, 0xA0, 0x1680, 0x2028, 0x2029, 0x202F, 0x205F, 0x3000]

structure DurationMillis where
  value : Nat
  positive : 0 < value
deriving DecidableEq

def DurationMillis.ofNat (value : Nat) : DurationMillis := ⟨max value 1, Nat.le_max_right value 1⟩

instance (value : Nat) : OfNat DurationMillis value := ⟨DurationMillis.ofNat value⟩

def UtcMillis.new (value : Int) : DomainResult UtcMillis :=
  if valid : 0 ≤ value ∧ value ≤ i64Max then .ok ⟨value.toNat, by omega⟩
  else .error (.validation "utc_millis" "不能早于 Unix epoch")

theorem UtcMillis.new_value (time : UtcMillis) : UtcMillis.new time.value = .ok time := by
  have fits := time.fits
  have valid : (0 : Int) ≤ time.value ∧ (time.value : Int) ≤ i64Max := by omega
  simp [UtcMillis.new, valid]

theorem UtcMillis.new_ok {value : Int} (made : UtcMillis.new value = .ok time) : (time.value : Int) = value := by
  by_cases valid : 0 ≤ value ∧ value ≤ i64Max
  · simp only [UtcMillis.new, dif_pos valid, Except.ok.injEq] at made
    rw [← made]
    exact Int.toNat_of_nonneg valid.1
  · simp only [UtcMillis.new, dif_neg valid] at made
    cases made

def UtcMillis.checkedAdd (time : UtcMillis) (duration : DurationMillis) : DomainResult UtcMillis :=
  if fits : time.value + duration.value ≤ i64Max then .ok ⟨time.value + duration.value, fits⟩
  else .error .timeOverflow

theorem UtcMillis.checked_add_value {time later : UtcMillis}
    (added : time.checkedAdd duration = .ok later) : later.value = time.value + duration.value := by
  unfold checkedAdd at added
  split at added
  · cases added
    rfl
  · cases added

def UtcMillis.earlier (first second : UtcMillis) : UtcMillis := if first ≤ second then first else second

-- Good for `idle` after each use, never past `maximum` from where it is counted.
structure SlidingLifetime where
  idle : DurationMillis
  maximum : DurationMillis
  bounded : idle.value ≤ maximum.value

namespace SlidingLifetime

def latest (lifetime : SlidingLifetime) (anchor : UtcMillis) : DomainResult UtcMillis :=
  anchor.checkedAdd lifetime.maximum

def renewedUntil (lifetime : SlidingLifetime) (anchor now : UtcMillis) : DomainResult UtcMillis := do
  let idle ← now.checkedAdd lifetime.idle
  let latest ← lifetime.latest anchor
  return idle.earlier latest

end SlidingLifetime

end AgentRoom
