import AgentRoom.Automation.LedgerRuns

namespace AgentRoom.Automation.AutomationGrant

open Library

def issue (id : AutomationGrantId) (grantorId : PrincipalId) (scope : AutomationGrantScope) (limits : AutomationGrantLimits)
    (createdAt : UtcMillis) : DomainResult AutomationGrant := do
  let grant : AutomationGrant :=
    { id, grantorId, scope, limits, state := .active, createdAt, revokedAt := none, version := .initial }
  grant.timely
  return grant

-- The call on the record itself, which is written before the next version is known to exist.
def revokeInPlace (revokedAt : UtcMillis) : Method DomainError AutomationGrant Bool := do
  let grant ← get
  if grant.state = .revoked then return false
  else
    lift (ensure (.validation "automation_grant_revoked_at" "撤销时间必须位于授权生命周期内")
      (grant.createdAt ≤ revokedAt ∧ revokedAt < grant.limits.expiresAt))
    set { grant with state := .revoked, revokedAt := some revokedAt }
    let version ← lift grant.version.next
    modify fun grant => { grant with version }
    return true

inductive Made : AutomationGrant → Prop where
  | issued (id : AutomationGrantId) (grantorId : PrincipalId) (scope : AutomationGrantScope) (limits : AutomationGrantLimits)
      (createdAt : UtcMillis) (grant : AutomationGrant) (made : issue id grantorId scope limits createdAt = .ok grant) :
      Made grant
  | restored (fields grant : AutomationGrant) (made : fields.restore = .ok grant) : Made grant

def Consistent (grant : AutomationGrant) : Prop :=
  grant.createdAt ≤ grant.limits.startsAt ∧ grant.revocationIsValid = true

theorem restores_iff (fields grant : AutomationGrant) : fields.restore = .ok grant ↔ fields.Consistent ∧ fields = grant := by
  simp only [restore, timely, bind_ok, ensure_ok, Consistent]
  constructor
  · rintro ⟨_, timely, _, valid, ⟨⟩⟩
    exact ⟨⟨timely, valid⟩, rfl⟩
  · rintro ⟨⟨timely, valid⟩, rfl⟩
    exact ⟨(), timely, (), valid, rfl⟩

theorem made_consistent (made : Made grant) : grant.Consistent := by
  cases made with
  | issued id grantorId scope limits createdAt _ made =>
    obtain ⟨_, timely, done⟩ := unbind made
    cases done
    exact ⟨(ensure_ok ..).mp timely, rfl⟩
  | restored fields _ made =>
    obtain ⟨consistent, rfl⟩ := (restores_iff fields grant).mp made
    exact consistent

def Revocable (grant : AutomationGrant) (revokedAt : UtcMillis) : Prop :=
  grant.state ≠ .revoked ∧ grant.createdAt ≤ revokedAt ∧ revokedAt < grant.limits.expiresAt

variable (grant : AutomationGrant) (revokedAt : UtcMillis)

theorem not_revocable (standing : ¬ grant.Revocable revokedAt) : finalState ((revokeInPlace revokedAt).run grant) = grant := by
  change finalState ((if grant.state = .revoked then _ else _ : Method DomainError AutomationGrant Bool).run grant) = grant
  by_cases gone : grant.state = .revoked
  · rw [if_pos gone]
    rfl
  · have late : ¬ (grant.createdAt ≤ revokedAt ∧ revokedAt < grant.limits.expiresAt) := fun within => standing ⟨gone, within⟩
    rw [if_neg gone, ensure, if_neg late]
    rfl

theorem revocable_run (revocable : grant.Revocable revokedAt) : (revokeInPlace revokedAt).run grant =
      match grant.version.next with
      | .ok version => .ok true { grant with state := .revoked, revokedAt := some revokedAt, version }
      | .error failure => .error failure { grant with state := .revoked, revokedAt := some revokedAt } := by
  change (if grant.state = .revoked then _ else _ : Method DomainError AutomationGrant Bool).run grant = _
  rw [if_neg revocable.1, ensure, if_pos revocable.2]
  cases advanced : grant.version.next with
  | ok version => rfl
  | error failure => rfl

theorem after_consistent (consistent : grant.Consistent) : (after (revokeInPlace revokedAt) grant).Consistent := by
  by_cases revocable : grant.Revocable revokedAt
  · have valid : revocationIsValid { grant with state := .revoked, revokedAt := some revokedAt } = true := by
      simpa [revocationIsValid] using revocable.2
    rw [after, revocable_run grant revokedAt revocable]
    cases grant.version.next with
    | ok version => exact ⟨consistent.1, valid⟩
    | error failure => exact ⟨consistent.1, valid⟩
  · rw [after, not_revocable grant revokedAt revocable]
    exact consistent

theorem failure_leaves_iff : (∀ failure next, (revokeInPlace revokedAt).run grant = .error failure next → next = grant) ↔
      (grant.Revocable revokedAt → grant.version.value < i64Max) := by
  constructor
  · intro leaves revocable
    by_contra last
    have full : ¬ grant.version.value + 1 ≤ i64Max := last
    have run := revocable_run grant revokedAt revocable
    simp only [AggregateVersion.next, dif_neg full] at run
    exact revocable.1 (congrArg state (leaves _ _ run)).symm
  · intro room failure next run
    by_cases revocable : grant.Revocable revokedAt
    · have fits : grant.version.value + 1 ≤ i64Max := room revocable
      rw [revocable_run grant revokedAt revocable, AggregateVersion.next, dif_pos fits] at run
      cases run
    · have kept := not_revocable grant revokedAt revocable
      rwa [run] at kept

-- Every reached grant could be stored, and a failing call leaves it alone exactly when it did
-- not fail for want of a version.
theorem failed_revocation_leaves_the_grant (made : Made grant) (times : List UtcMillis) :
    (runAll revokeInPlace grant times).restore = .ok (runAll revokeInPlace grant times) ∧
      ((∀ failure next, (revokeInPlace revokedAt).run (runAll revokeInPlace grant times) = .error failure next →
        next = runAll revokeInPlace grant times) ↔
      ((runAll revokeInPlace grant times).Revocable revokedAt → (runAll revokeInPlace grant times).version.value < i64Max)) :=
  ⟨(restores_iff _ _).mpr ⟨run_all_invariant revokeInPlace Consistent (fun grant at' => after_consistent grant at') times grant
    (made_consistent made), rfl⟩, failure_leaves_iff _ revokedAt⟩

def lastGrant : AutomationGrant := { sampleGrant with version := ⟨i64Max, by decide⟩ }

-- Too early, then for want of a version, then already revoked.
theorem last_grant_can_be_stored : (runAll revokeInPlace lastGrant [0, 2000, 2500]).state = .revoked ∧
    (runAll revokeInPlace lastGrant [0, 2000, 2500]).restore = .ok (runAll revokeInPlace lastGrant [0, 2000, 2500]) :=
  ⟨rfl, (failed_revocation_leaves_the_grant lastGrant 2000 (.restored lastGrant lastGrant rfl) [0, 2000, 2500]).1⟩

theorem last_grant_half_revoked : ∃ failure next, Made lastGrant ∧
    (revokeInPlace 2000).run lastGrant = .error failure next ∧ next.state = .revoked ∧ next.revokedAt = some 2000 ∧
      lastGrant.state = .active ∧ lastGrant.revokedAt = none :=
  ⟨_, _, .restored lastGrant lastGrant rfl, rfl, rfl, rfl, rfl, rfl⟩

end AgentRoom.Automation.AutomationGrant
