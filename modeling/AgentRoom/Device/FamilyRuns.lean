import AgentRoom.Device.Tables

namespace AgentRoom.DeviceTokenFamily

open Library

inductive Call where
  | renew (now : UtcMillis)
  | revoke (revokedAt : UtcMillis)
  | markCompromised (detectedAt : UtcMillis)

def Call.time : Call → UtcMillis
  | .renew now => now
  | .revoke revokedAt => revokedAt
  | .markCompromised detectedAt => detectedAt

def perform (lifetime : SlidingLifetime) : Call → Method DomainError DeviceTokenFamily Unit
  | .renew now => renew lifetime now
  | .revoke revokedAt => revoke revokedAt
  | .markCompromised detectedAt => markCompromised detectedAt

inductive Made : DeviceTokenFamily → Prop where
  | new (id : DeviceTokenFamilyId) (deviceId : DeviceId) (createdAt expiresAt : UtcMillis) (family : DeviceTokenFamily)
      (made : DeviceTokenFamily.new id deviceId createdAt expiresAt = .ok family) : Made family
  | restored (id : DeviceTokenFamilyId) (deviceId : DeviceId) (state : DeviceTokenFamilyState)
      (createdAt expiresAt : UtcMillis) (revokedAt compromiseDetectedAt : Option UtcMillis) (family : DeviceTokenFamily)
      (made : restore id deviceId state createdAt expiresAt revokedAt compromiseDetectedAt = .ok family) : Made family
  | authenticated (earlier : DeviceTokenFamily) (authenticatedAt : UtcMillis) (family : DeviceTokenFamily)
      (before : Made earlier) (made : earlier.withAuthenticatedAt authenticatedAt = .ok family) : Made family

structure WellFormed (family : DeviceTokenFamily) : Prop where
  lives : family.createdAt < family.expiresAt
  revoked : ∀ time ∈ family.revokedAt, family.createdAt ≤ time
  compromised : ∀ time ∈ family.compromiseDetectedAt, family.createdAt ≤ time
  consistent : stateConsistent family.state family.revokedAt family.compromiseDetectedAt = true
  authenticated : ∀ time ∈ family.authenticatedAt, time ≤ family.createdAt

-- What the store does to bring a family back: the fields `restore` takes, and
-- the authentication time in a second step when there is one.
def reload (family : DeviceTokenFamily) : DomainResult DeviceTokenFamily := do
  let restored ← restore family.id family.deviceId family.state family.createdAt family.expiresAt family.revokedAt
    family.compromiseDetectedAt
  match family.authenticatedAt with
  | none => return restored
  | some authenticatedAt => restored.withAuthenticatedAt authenticatedAt

variable {family : DeviceTokenFamily}

theorem restore_well_formed (wellFormed : WellFormed family) :
    restore family.id family.deviceId family.state family.createdAt family.expiresAt family.revokedAt
      family.compromiseDetectedAt = .ok { family with authenticatedAt := none } := by
  have lives := (UtcMillis.not_le_iff _ _).mpr wellFormed.lives
  have revoked : ¬ family.revokedAt.any (· < family.createdAt) = true := by
    cases known : family.revokedAt with
    | none => simp
    | some time => simpa using (UtcMillis.not_lt_iff _ _).mpr (wellFormed.revoked time known)
  have compromised : ¬ family.compromiseDetectedAt.any (· < family.createdAt) = true := by
    cases known : family.compromiseDetectedAt with
    | none => simp
    | some time => simpa using (UtcMillis.not_lt_iff _ _).mpr (wellFormed.compromised time known)
  simp [restore, lives, revoked, compromised, wellFormed.consistent]

theorem reload_well_formed (wellFormed : WellFormed family) : family.reload = .ok family := by
  have restored := restore_well_formed wellFormed
  cases known : family.authenticatedAt with
  | none =>
    have same : { family with authenticatedAt := none } = family := by rw [← known]
    simp only [reload, restored, known, same]
    rfl
  | some time =>
    have early : ¬ family.createdAt < time := (UtcMillis.not_lt_iff _ _).mpr (wellFormed.authenticated time known)
    have same : { family with authenticatedAt := some time } = family := by rw [← known]
    simp only [reload, restored, known]
    change withAuthenticatedAt { family with authenticatedAt := none } time = .ok family
    simp [withAuthenticatedAt, if_neg early, same]

theorem made_well_formed (made : Made family) : WellFormed family := by
  induction made with
  | new id deviceId createdAt expiresAt family made =>
    simp only [DeviceTokenFamily.new] at made
    split at made
    · cases made
    · rename_i lives
      cases made
      exact ⟨(UtcMillis.not_le_iff _ _).mp lives, by simp, by simp, rfl, by simp⟩
  | restored id deviceId state createdAt expiresAt revokedAt compromiseDetectedAt family made =>
    simp only [restore] at made
    split at made
    · cases made
    · rename_i accepted
      cases made
      simp only [not_or, not_not] at accepted
      obtain ⟨lives, revoked, compromised, consistent⟩ := accepted
      refine ⟨(UtcMillis.not_le_iff _ _).mp lives, ?_, ?_, consistent, by simp⟩
      · intro time known
        have known' : revokedAt = some time := known
        exact (UtcMillis.not_lt_iff _ _).mp (by simpa [known'] using revoked)
      · intro time known
        have known' : compromiseDetectedAt = some time := known
        exact (UtcMillis.not_lt_iff _ _).mp (by simpa [known'] using compromised)
  | authenticated earlier authenticatedAt family before made ih =>
    simp only [withAuthenticatedAt] at made
    split at made
    · cases made
    · rename_i early
      cases made
      refine { ih with authenticated := ?_ }
      intro time known
      obtain rfl : authenticatedAt = time := by simpa using known
      exact (UtcMillis.not_lt_iff _ _).mp early

structure Moves (lifetime : SlidingLifetime) (time : UtcMillis) (family next : DeviceTokenFamily) : Prop where
  anchored : next.lifetimeAnchor = family.lifetimeAnchor
  later : family.expiresAt ≤ next.expiresAt
  capped : next.expiresAt = family.expiresAt ∨ next.expiresAt.value ≤ family.lifetimeAnchor.value + lifetime.maximum.value
  extended : next.expiresAt ≠ family.expiresAt → family.state = .active ∧ time < family.expiresAt
  ended : family.state ≠ .active → next.state ≠ .active
  compromised : family.state = .compromised → next.state = .compromised
  wellFormed : WellFormed family → WellFormed next

variable (lifetime : SlidingLifetime) (call : Call)

theorem moves_refl (time : UtcMillis) (family : DeviceTokenFamily) : Moves lifetime time family family :=
  ⟨rfl, UtcMillis.le_refl _, .inl rfl, fun changed => absurd rfl changed, fun gone => gone, fun same => same,
    fun wellFormed => wellFormed⟩

theorem renewed_until_capped (granted : lifetime.renewedUntil anchor now = .ok renewed) :
    renewed.value ≤ anchor.value + lifetime.maximum.value := by
  simp only [SlidingLifetime.renewedUntil, SlidingLifetime.latest, UtcMillis.checkedAdd] at granted
  split at granted
  · split at granted
    · obtain rfl := Except.ok.inj granted
      simp only [UtcMillis.earlier, UtcMillis.le_iff]
      split <;> simp_all
    · cases granted
  · cases granted

theorem renew_moves : Yields (renew lifetime now) family fun _ next => Moves lifetime now family next := by
  apply yields_get
  apply yields_ite
  · intro _
    exact yields_throw
  · intro allowed
    obtain ⟨active, unexpired⟩ : family.state = .active ∧ now < family.expiresAt := by
      simpa [allowsRotation] using allowed
    apply yields_lift
    intro renewed granted
    apply yields_ite
    · intro later
      exact {
        anchored := rfl
        later := Nat.le_of_lt later
        capped := .inr (renewed_until_capped lifetime granted)
        extended := fun _ => ⟨active, unexpired⟩
        ended := fun gone => gone
        compromised := fun same => same
        wellFormed := fun wellFormed =>
          { wellFormed with lives := UtcMillis.lt_of_le_of_lt _ _ _ (Nat.le_of_lt wellFormed.lives) later } }
    · intro _
      exact moves_refl lifetime now family

theorem revoke_moves {revokedAt : UtcMillis} :
    Yields (revoke revokedAt) family fun _ next => Moves lifetime revokedAt family next := by
  apply yields_get
  apply yields_ite
  · intro _
    exact yields_throw
  · intro since
    apply yields_ite
    · intro active
      exact {
        anchored := rfl
        later := UtcMillis.le_refl _
        capped := .inl rfl
        extended := fun changed => absurd rfl changed
        ended := fun _ => by simp
        compromised := fun compromised => by simp [active] at compromised
        wellFormed := fun wellFormed => {
          lives := wellFormed.lives
          revoked := by
            intro time known
            obtain rfl : revokedAt = time := by simpa using known
            exact (UtcMillis.not_lt_iff _ _).mp since
          compromised := wellFormed.compromised
          consistent := by
            have consistent := wellFormed.consistent
            simp only [stateConsistent, active, Bool.and_eq_true] at consistent ⊢
            exact ⟨rfl, consistent.2⟩
          authenticated := wellFormed.authenticated } }
    · intro _
      exact moves_refl lifetime revokedAt family

theorem mark_compromised_moves :
    Yields (markCompromised detectedAt) family fun _ next => Moves lifetime detectedAt family next := by
  apply yields_get
  apply yields_ite
  · intro _
    exact yields_throw
  · intro since
    have reached : family.createdAt ≤ detectedAt := (UtcMillis.not_lt_iff _ _).mp since
    apply yields_ite
    · intro _
      exact {
        anchored := rfl
        later := UtcMillis.le_refl _
        capped := .inl rfl
        extended := fun changed => absurd rfl changed
        ended := fun _ => by simp
        compromised := fun _ => rfl
        wellFormed := fun wellFormed => {
          lives := wellFormed.lives
          revoked := by
            intro time known
            cases before : family.revokedAt with
            | none =>
              obtain rfl : detectedAt = time := by simpa [before] using known
              exact reached
            | some first =>
              obtain rfl : first = time := by simpa [before] using known
              exact wellFormed.revoked first before
          compromised := by
            intro time known
            obtain rfl : detectedAt = time := by simpa using known
            exact reached
          consistent := rfl
          authenticated := wellFormed.authenticated } }
    · intro _
      exact moves_refl lifetime detectedAt family

theorem call_moves {family : DeviceTokenFamily} :
    Yields (perform lifetime call) family fun _ next => Moves lifetime call.time family next := by
  cases call with
  | renew now => exact renew_moves lifetime
  | revoke revokedAt => exact revoke_moves lifetime
  | markCompromised detectedAt => exact mark_compromised_moves lifetime

theorem after_moves (family : DeviceTokenFamily) : Moves lifetime call.time family (after (perform lifetime call) family) :=
  after_of_yields (call_moves lifetime call) (moves_refl lifetime call.time family)
    fun _ _ moved => moved

structure Runs (lifetime : SlidingLifetime) (calls : List Call) (family next : DeviceTokenFamily) : Prop where
  anchored : next.lifetimeAnchor = family.lifetimeAnchor
  later : family.expiresAt ≤ next.expiresAt
  capped : next.expiresAt = family.expiresAt ∨ next.expiresAt.value ≤ family.lifetimeAnchor.value + lifetime.maximum.value
  ended : family.state ≠ .active → next.state ≠ .active ∧ next.expiresAt = family.expiresAt
  compromised : family.state = .compromised → next.state = .compromised
  expired : (∀ call ∈ calls, family.expiresAt ≤ call.time) → next.expiresAt = family.expiresAt
  wellFormed : WellFormed family → WellFormed next

theorem run_moves (calls : List Call) (family : DeviceTokenFamily) :
    Runs lifetime calls family (runAll (perform lifetime) family calls) := by
  induction calls generalizing family with
  | nil =>
    exact ⟨rfl, UtcMillis.le_refl _, .inl rfl, fun gone => ⟨gone, rfl⟩, fun same => same, fun _ => rfl,
      fun wellFormed => wellFormed⟩
  | cons call rest ih =>
    have moved := after_moves lifetime call family
    have runs := ih (after (perform lifetime call) family)
    have kept (still : ¬ (family.state = .active ∧ call.time < family.expiresAt)) :
        (after (perform lifetime call) family).expiresAt = family.expiresAt :=
      Decidable.byContradiction fun changed => still (moved.extended changed)
    rw [run_all_cons]
    refine ⟨runs.anchored.trans moved.anchored, UtcMillis.le_trans _ _ _ moved.later runs.later, ?_, ?_,
      fun compromised => runs.compromised (moved.compromised compromised), ?_,
      fun wellFormed => runs.wellFormed (moved.wellFormed wellFormed)⟩
    · rcases runs.capped with same | capped
      · rw [same]
        exact moved.capped
      · exact .inr (moved.anchored ▸ capped)
    · intro gone
      obtain ⟨stillOver, same⟩ := runs.ended (moved.ended gone)
      exact ⟨stillOver, same.trans (kept fun given => gone given.1)⟩
    · intro late
      have first : family.expiresAt ≤ call.time := late call List.mem_cons_self
      have unchanged := kept fun given => (UtcMillis.not_lt_iff _ _).mpr first given.2
      have same := runs.expired fun other listed => by
        rw [unchanged]
        exact late other (List.mem_cons_of_mem _ listed)
      exact same.trans unchanged

theorem failing_call_changes_nothing
    {failure : DomainError} (run : (perform lifetime call).run family = .error failure next) : next = family :=
  yields_error (call_moves lifetime call) run

-- The life of a token family over any run, from any point of it to any later one.
theorem token_family_runs_keep_their_bounds (family : DeviceTokenFamily) (made : Made family)
    (lifetime : SlidingLifetime) (first second : List Call) : let middle := runAll (perform lifetime) family first
    let last := runAll (perform lifetime) family (first ++ second)
    middle.expiresAt ≤ last.expiresAt ∧
      last.expiresAt.value ≤ max family.expiresAt.value (family.lifetimeAnchor.value + lifetime.maximum.value) ∧
      (middle.state ≠ .active → last.state ≠ .active ∧ last.expiresAt = middle.expiresAt) ∧
      (middle.state = .compromised → last.state = .compromised) ∧
      ((∀ call ∈ second, middle.expiresAt ≤ call.time) → last.expiresAt = middle.expiresAt) ∧
      (∀ call failure next, (perform lifetime call).run last = .error failure next → next = last) ∧
      restore last.id last.deviceId last.state last.createdAt last.expiresAt last.revokedAt last.compromiseDetectedAt =
        .ok { last with authenticatedAt := none } ∧
      last.reload = .ok last := by
  intro middle last
  have split : last = runAll (perform lifetime) middle second := run_all_append
  have runs := run_moves lifetime second middle
  have whole := run_moves lifetime (first ++ second) family
  have wellFormed : WellFormed last := whole.wellFormed (made_well_formed made)
  rw [← split] at runs
  refine ⟨runs.later, ?_, runs.ended, runs.compromised, runs.expired,
    fun call failure next run => failing_call_changes_nothing lifetime call run,
    restore_well_formed wellFormed, reload_well_formed wellFormed⟩
  rcases whole.capped with same | capped
  · exact Nat.le_trans (Nat.le_of_eq (congrArg UtcMillis.value same)) (Nat.le_max_left _ _)
  · exact Nat.le_trans capped (Nat.le_max_right _ _)

def shortLifetime : SlidingLifetime := ⟨100, 200, by decide⟩

def shortFamily : DeviceTokenFamily where
  id := ⟨1⟩
  deviceId := ⟨2⟩
  state := .active
  createdAt := 5
  authenticatedAt := some 0
  expiresAt := 10
  revokedAt := none
  compromiseDetectedAt := none

theorem short_family_made : Made shortFamily :=
  .authenticated _ ⟨0, by decide⟩ _ (.new ⟨1⟩ ⟨2⟩ ⟨5, by decide⟩ ⟨10, by decide⟩ _ rfl) rfl

theorem short_family_keeps_its_bounds :
    (runAll (perform shortLifetime) shortFamily [.renew ⟨9, by decide⟩]).expiresAt.value ≤ 200 :=
  Nat.le_trans (token_family_runs_keep_their_bounds shortFamily short_family_made shortLifetime []
    [.renew ⟨9, by decide⟩]).2.1 (by decide)

-- An expired family is renewed by a clock that ran back, and `restore` alone
-- forgets the time of authentication.
theorem expired_family_is_renewed_by_an_earlier_clock : Made shortFamily ∧
      (∃ failure, (perform shortLifetime (.renew ⟨20, by decide⟩)).run shortFamily = .error failure shortFamily) ∧
      (runAll (perform shortLifetime) shortFamily [.renew ⟨20, by decide⟩, .renew ⟨9, by decide⟩]).expiresAt.value = 109 ∧
      restore shortFamily.id shortFamily.deviceId shortFamily.state shortFamily.createdAt shortFamily.expiresAt
        shortFamily.revokedAt shortFamily.compromiseDetectedAt ≠ .ok shortFamily :=
  ⟨short_family_made, ⟨_, rfl⟩, by decide, by decide⟩

end AgentRoom.DeviceTokenFamily
