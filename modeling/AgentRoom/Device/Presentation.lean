import AgentRoom.Device.Invariant

namespace AgentRoom

open Library

namespace DeviceTables

def RefreshJoin.context (row : RefreshJoin) : LockedRefreshContext where
  account := row.principal.principal
  device := row.device.device
  family := row.family.family
  refreshId := row.refresh.token.id
  sequence := row.refresh.token.sequence
  consumed := row.refresh.token.consumedAt.isSome
  revoked := row.refresh.token.revokedAt.isSome
  expiresAt := row.refresh.token.expiresAt

theorem lock_context_ok (operation : String) (row : RefreshJoin) : lockContext operation row = .ok row.context := by
  rw [lockContext, decode_device_ok, decode_family_ok]
  rfl

structure Joined (tables : DeviceTables) (digest : SecretDigest) (row : RefreshJoin) : Prop where
  refresh : row.refresh ∈ tables.refreshTokens
  digest : row.refresh.token.secretDigest = digest
  family : row.family ∈ tables.families
  familyId : row.family.family.id = row.refresh.token.familyId
  device : row.device ∈ tables.devices
  deviceId : row.device.device.id = row.family.family.deviceId

theorem join_refresh_some {tables : DeviceTables} {row : RefreshJoin}
    (run : tables.joinRefresh digest = some row) : Joined tables digest row := by
  obtain ⟨refresh, asked, later⟩ := Option.bind_eq_some_iff.mp run
  obtain ⟨family, owner, later⟩ := Option.bind_eq_some_iff.mp later
  obtain ⟨device, holder, later⟩ := Option.bind_eq_some_iff.mp later
  obtain ⟨principal, _, built⟩ := Option.bind_eq_some_iff.mp later
  cases built
  exact {
    refresh := List.mem_of_find?_eq_some asked
    digest := by simpa using List.find?_some asked
    family := List.mem_of_find?_eq_some owner
    familyId := by simpa using List.find?_some owner
    device := List.mem_of_find?_eq_some holder
    deviceId := by simpa using List.find?_some holder }

-- What lets a recorded rotation be answered again, and that answer.
structure Replayable (tables : DeviceTables) (refreshId : DeviceRefreshTokenId) (replacement : DeviceTokenReplacement)
    (attempt : AttemptJoin) (salt : DeviceRefreshReplaySalt) : Prop where
  recorded : tables.joinAttempt refreshId = some attempt
  salted : attempt.attempt.replaySalt = some salt
  allowed : ∃ requested, replacement.replay = some requested ∧
    replayAllowed attempt requested.attemptId replacement.issuedAt = true

def replayOutcome (row : RefreshJoin) (attempt : AttemptJoin) (salt : DeviceRefreshReplaySalt) : DeviceRefreshOutcome :=
  .replayed
    { account := row.principal.principal, device := row.device.device, family := row.family.family,
      accessTokenExpiresAt := attempt.access.token.expiresAt }
    row.family.family.expiresAt salt attempt.access.token.secretDigest attempt.successor.token.secretDigest

theorem replay_some_iff (tables : DeviceTables) (row : RefreshJoin) (replacement : DeviceTokenReplacement) :
    (replacement.replay.bind fun requested =>
        tables.replayRefreshAttempt row.context requested replacement.issuedAt) = some outcome ↔
      ∃ attempt salt, Replayable tables row.refresh.token.id replacement attempt salt ∧
        outcome = replayOutcome row attempt salt := by
  rw [Option.bind_eq_some_iff]
  constructor
  · intro answered
    obtain ⟨requested, asked, run⟩ := answered
    obtain ⟨attempt, recorded, later⟩ := Option.bind_eq_some_iff.mp run
    obtain ⟨salt, salted, later⟩ := Option.bind_eq_some_iff.mp later
    split at later
    · rename_i allowed
      cases later
      exact ⟨attempt, salt, ⟨recorded, salted, requested, asked, allowed⟩, rfl⟩
    · cases later
  · intro replays
    obtain ⟨attempt, salt, ⟨recorded, salted, requested, asked, allowed⟩, rfl⟩ := replays
    refine ⟨requested, asked, ?_⟩
    apply Option.bind_eq_some_iff.mpr
    refine ⟨attempt, recorded, ?_⟩
    apply Option.bind_eq_some_iff.mpr
    refine ⟨salt, salted, ?_⟩
    rw [if_pos allowed]
    rfl

inductive Presentation (tables : DeviceTables) (digest : SecretDigest) (replacement : DeviceTokenReplacement) :
    DeviceTables → DeviceRefreshOutcome → Prop where
  | unknown (absent : tables.joinRefresh digest = none) : Presentation tables digest replacement tables .rejected
  | refused (row : RefreshJoin) (joined : tables.joinRefresh digest = some row)
      (refused : refuses row.context replacement.issuedAt = true) :
      Presentation tables digest replacement tables .rejected
  | replayed (row : RefreshJoin) (joined : tables.joinRefresh digest = some row)
      (accepted : refuses row.context replacement.issuedAt = false) (consumed : row.refresh.token.consumedAt ≠ none)
      (attempt : AttemptJoin) (salt : DeviceRefreshReplaySalt)
      (replays : Replayable tables row.refresh.token.id replacement attempt salt) :
      Presentation tables digest replacement tables (replayOutcome row attempt salt)
  | reused (next : DeviceTables) (row : RefreshJoin) (joined : tables.joinRefresh digest = some row)
      (accepted : refuses row.context replacement.issuedAt = false) (consumed : row.refresh.token.consumedAt ≠ none)
      (unmatched : ∀ attempt salt, ¬ Replayable tables row.refresh.token.id replacement attempt salt)
      (compromised : tables.compromiseDevice "device.refresh" row.device.device row.family.family.id
        replacement.issuedAt = .ok next) :
      Presentation tables digest replacement next (.reuseDetected row.device.device.id row.principal.principal.id)
  | rotated (next : DeviceTables) (outcome : DeviceRefreshOutcome) (row : RefreshJoin)
      (joined : tables.joinRefresh digest = some row)
      (accepted : refuses row.context replacement.issuedAt = false) (unused : row.refresh.token.consumedAt = none)
      (rotated : tables.rotateLocked "device.refresh" row.context replacement = .ok (next, outcome)) :
      Presentation tables digest replacement next outcome

theorem rotate_refresh_joined {tables : DeviceTables} (replacement : DeviceTokenReplacement)
    {row : RefreshJoin} (joined : tables.joinRefresh digest = some row) : tables.rotateRefresh digest replacement =
      if refuses row.context replacement.issuedAt then .ok (tables, .rejected)
      else if row.context.consumed then tables.presentConsumed "device.refresh" row.context replacement
      else tables.rotateLocked "device.refresh" row.context replacement := by
  simp only [rotateRefresh, joined, lock_context_ok]
  rfl

theorem rotate_refresh_presents {tables : DeviceTables} {next : DeviceTables}
    {replacement : DeviceTokenReplacement} (run : tables.rotateRefresh digest replacement = .ok (next, outcome)) :
    Presentation tables digest replacement next outcome := by
  cases joined : tables.joinRefresh digest with
  | none =>
    simp only [rotateRefresh, joined] at run
    cases run
    exact .unknown joined
  | some row =>
    rw [rotate_refresh_joined replacement joined] at run
    by_cases refused : refuses row.context replacement.issuedAt = true
    · rw [if_pos refused] at run
      cases run
      exact .refused row joined refused
    · rw [if_neg refused] at run
      have accepted : refuses row.context replacement.issuedAt = false := by simpa using refused
      by_cases consumed : row.context.consumed = true
      · rw [if_pos consumed, presentConsumed] at run
        have used : row.refresh.token.consumedAt ≠ none := Option.isSome_iff_ne_none.mp consumed
        split at run
        · rename_i replayed answered
          cases run
          obtain ⟨attempt, salt, replays, rfl⟩ := (replay_some_iff tables row replacement).mp answered
          exact .replayed row joined accepted used attempt salt replays
        · rename_i unanswered
          obtain ⟨compromised, compromises, built⟩ := unbind run
          cases built
          apply Presentation.reused _ row joined accepted used _ compromises
          intro attempt salt replays
          have answered := (replay_some_iff tables row replacement).mpr ⟨attempt, salt, replays, rfl⟩
          rw [unanswered] at answered
          cases answered
      · rw [if_neg consumed] at run
        have unused : row.refresh.token.consumedAt = none := by
          by_contra used
          exact consumed (Option.isSome_iff_ne_none.mpr used)
        exact .rotated next outcome row joined accepted unused run

theorem refuses_iff (locked : LockedRefreshContext) (issuedAt : UtcMillis) :
    refuses locked issuedAt = false ↔ locked.account.status = .active ∧ locked.device.trustState = .verified ∧
      locked.family.state = .active ∧ issuedAt < locked.family.expiresAt ∧ locked.revoked = false ∧
        issuedAt < locked.expiresAt := by
  simp only [refuses, Principal.allowsAuthentication, Device.acceptsAuthenticatedRequests,
    DeviceTokenFamily.allowsRotation, Bool.or_eq_false_iff, Bool.not_eq_false', decide_eq_true_eq, decide_eq_false_iff_not,
    UtcMillis.not_le_iff]
  tauto

section

variable {tables : DeviceTables} {digest : SecretDigest} {replacement : DeviceTokenReplacement} {row : RefreshJoin}

section

variable (joined : tables.joinRefresh digest = some row)
include joined

theorem refused_presentation (refused : refuses row.context replacement.issuedAt = true) :
    tables.rotateRefresh digest replacement = .ok (tables, .rejected) := by
  rw [rotate_refresh_joined replacement joined, if_pos refused]

section

variable (accepted : refuses row.context replacement.issuedAt = false)
include accepted

section

variable (consumed : row.refresh.token.consumedAt ≠ none)
include consumed

theorem consumed_presentation : tables.rotateRefresh digest replacement =
      tables.presentConsumed "device.refresh" row.context replacement := by
  have used : row.context.consumed = true := Option.isSome_iff_ne_none.mpr consumed
  rw [rotate_refresh_joined replacement joined, if_neg (by simp [accepted]), if_pos used]

theorem replayable_presentation (attempt : AttemptJoin) (salt : DeviceRefreshReplaySalt)
    (replays : Replayable tables row.refresh.token.id replacement attempt salt) :
    tables.rotateRefresh digest replacement = .ok (tables, replayOutcome row attempt salt) := by
  have answered := (replay_some_iff tables row replacement).mpr ⟨attempt, salt, replays, rfl⟩
  rw [consumed_presentation joined accepted consumed, presentConsumed, answered]

theorem unmatched_presentation
    (unmatched : ∀ attempt salt, ¬ Replayable tables row.refresh.token.id replacement attempt salt) :
    tables.rotateRefresh digest replacement = (do
      let compromised ← tables.compromiseDevice "device.refresh" row.device.device row.family.family.id replacement.issuedAt
      return (compromised, .reuseDetected row.device.device.id row.principal.principal.id)) := by
  have unanswered : (replacement.replay.bind fun requested =>
      tables.replayRefreshAttempt row.context requested replacement.issuedAt) = none := by
    cases answer : replacement.replay.bind fun requested =>
        tables.replayRefreshAttempt row.context requested replacement.issuedAt with
    | none => rfl
    | some outcome =>
      obtain ⟨attempt, salt, replays, _⟩ := (replay_some_iff tables row replacement).mp answer
      exact (unmatched attempt salt replays).elim
  rw [consumed_presentation joined accepted consumed, presentConsumed, unanswered]
  rfl

end

end

end

end

theorem joined_presented (tables : DeviceTables)
    (joined : tables.joinRefresh digest = some row) (accepted : refuses row.context issuedAt = false)
    (unused : row.refresh.token.consumedAt = none) : Presented tables row.context row.refresh row.family := by
  have found := join_refresh_some joined
  obtain ⟨_, _, active, _⟩ := (refuses_iff row.context issuedAt).mp accepted
  exact {
    listed := found.refresh
    owns := found.family
    id := rfl
    familyId := found.familyId.symm
    family := rfl
    device := found.deviceId
    unused
    active }

theorem joined_family {tables : DeviceTables} (sound : Sound tables) {row : RefreshJoin}
    (joined : tables.joinRefresh digest = some row) (listed : other ∈ tables.families)
    (same : other.family.id = row.family.family.id) : other = row.family := by
  have found := join_refresh_some joined
  exact key_unique (·.family.id) tables.families sound.familyIds other row.family listed found.family same

theorem presented_rotated {tables : DeviceTables} (sound : Sound tables) {row : RefreshJoin}
    (joined : tables.joinRefresh digest = some row)
    (run : tables.rotateLocked "device.refresh" row.context replacement = .ok (next, outcome)) :
    (∃ session expiresAt, outcome = .rotated session expiresAt) ∧
      ∃ access refresh, Rotated tables next row.context replacement access refresh := by
  apply rotate_locked_ok tables run
  intro other listed same
  rw [joined_family sound joined listed same]
  rfl

theorem presented_shut {tables : DeviceTables} (sound : Sound tables) {row : RefreshJoin}
    {at' : UtcMillis} (joined : tables.joinRefresh digest = some row)
    (run : tables.compromiseDevice "device.refresh" row.device.device row.family.family.id at' = .ok next) :
    Shut tables next row.device.device.id (some row.family.family.id) := by
  apply compromise_device_ok tables run
  intro other listed same
  rw [joined_family sound joined listed same]
  exact (join_refresh_some joined).deviceId.symm

structure StampFits (tables : DeviceTables) (deviceId : DeviceId) (at' : UtcMillis) : Prop where
  devices : ∀ row ∈ tables.devices, row.device.id = deviceId → row.device.createdAt ≤ at' ∧ row.verifiedAt.all (· ≤ at') = true
  families : ∀ row ∈ tables.families, row.family.deviceId = deviceId → row.family.createdAt ≤ at'
  access : ∀ row ∈ tables.accessTokens, row.token.deviceId = deviceId → row.token.issuedAt ≤ at'
  refresh : ∀ row ∈ tables.refreshTokens, ofDevice tables.families deviceId row = true → row.token.issuedAt ≤ at'
  handoffs : ∀ row ∈ tables.handoffs.rows, tables.deviceOf row.targetInstanceId = some deviceId → TargetedRows.failable row = true →
    ((row.deliveredAt.or row.queuedAt).or row.approvedAt).all (· ≤ at') = true

section

variable {operation : String} {at' : UtcMillis}

theorem access_revokes (row : AccessRow) (fits : row.token.issuedAt ≤ at') :
    ∃ new, AccessRow.write operation { row.token with revokedAt := some at' } = .ok new := by
  have checked : accessChecks { row.token with revokedAt := some at' } = true := by
    have before := row.checked
    simp only [accessChecks, Bool.and_eq_true] at before ⊢
    exact ⟨before.1, by simpa using fits⟩
  exact ⟨_, dif_pos checked⟩

theorem refresh_revokes (row : RefreshRow) (fits : row.token.issuedAt ≤ at') :
    ∃ new, RefreshRow.write operation { row.token with revokedAt := some at' } = .ok new := by
  have checked : refreshChecks { row.token with revokedAt := some at' } = true := by
    have before := row.checked
    simp only [refreshChecks, Bool.and_eq_true] at before ⊢
    exact ⟨⟨before.1.1, by simpa using fits⟩, before.2⟩
  exact ⟨_, dif_pos checked⟩

theorem device_revokes (row : DeviceRow) (fits : row.device.createdAt ≤ at') (verified : row.verifiedAt.all (· ≤ at') = true) :
    ∃ new, DeviceRow.write operation { row.device with trustState := .revoked, revokedAt := some at' } row.verifiedAt =
      .ok new := by
  have checked :
      deviceChecks { row.device with trustState := .revoked, revokedAt := some at' } row.verifiedAt = true := by
    have before := row.checked
    simp only [deviceChecks, Bool.and_eq_true] at before ⊢
    exact ⟨⟨before.1.1, by simpa using fits⟩, by simpa using verified⟩
  exact ⟨_, dif_pos checked⟩

theorem active_family_unrevoked {row : FamilyRow} (active : row.family.state = .active) :
    row.family.revokedAt = none ∧ row.family.compromiseDetectedAt = none := by
  have checked := row.checked
  simp only [familyChecks, DeviceTokenFamily.stateConsistent, active, Bool.and_eq_true, Option.isNone_iff_eq_none] at checked
  exact checked.1.1.1.2

theorem family_revokes (row : FamilyRow) (active : row.family.state = .active) (fits : row.family.createdAt ≤ at') :
    ∃ new, FamilyRow.write operation { row.family with state := .revoked, revokedAt := some at' } = .ok new := by
  obtain ⟨_, undetected⟩ := active_family_unrevoked active
  have checked : familyChecks { row.family with state := .revoked, revokedAt := some at' } = true := by
    have before := row.checked
    simp only [familyChecks, Bool.and_eq_true] at before
    simp only [familyChecks, DeviceTokenFamily.stateConsistent, undetected, before.1.1.1.1, before.2]
    simpa using fits
  exact ⟨_, dif_pos checked⟩

theorem family_compromises (row : FamilyRow) (active : row.family.state = .active) (fits : row.family.createdAt ≤ at') :
    ∃ new, FamilyRow.write operation { row.family with
      state := .compromised
      revokedAt := row.family.revokedAt.or (some at')
      compromiseDetectedAt := some at' } = .ok new := by
  obtain ⟨unrevoked, _⟩ := active_family_unrevoked active
  have checked : familyChecks { row.family with
      state := .compromised
      revokedAt := row.family.revokedAt.or (some at')
      compromiseDetectedAt := some at' } = true := by
    have before := row.checked
    simp only [familyChecks, Bool.and_eq_true] at before
    simp only [familyChecks, DeviceTokenFamily.stateConsistent, unrevoked, Option.none_or, before.1.1.1.1, before.2]
    simpa [UtcMillis.le_refl] using fits
  exact ⟨_, dif_pos checked⟩

theorem handoff_fails {row : TargetedRow} (checked : row.checked = true)
    (fits : ((row.deliveredAt.or row.queuedAt).or row.approvedAt).all (· ≤ at') = true) :
    (TargetedRows.failed TargetedRows.targetDeviceRevoked at' row).checked = true := by
  have stamped : (TargetedRows.failed TargetedRows.targetDeviceRevoked at' row).timestampsChecked = true := by
    simp only [TargetedRow.checked, Bool.and_eq_true, TargetedRow.timestampsChecked] at checked
    simp only [TargetedRow.timestampsChecked, TargetedRows.failed, Bool.and_eq_true]
    refine ⟨⟨checked.2.1.1, by simpa using fits⟩, ?_⟩
    by_cases over' : row.expiresAt ≤ at'
    · simp [over']
    · simp [over', (UtcMillis.not_le_iff _ _).mp over']
  simp only [TargetedRow.checked, Bool.and_eq_true] at checked ⊢
  obtain ⟨⟨⟨⟨⟨⟨⟨head, _⟩, _⟩, version⟩, few⟩, many⟩, known⟩, _⟩ := checked
  refine ⟨⟨⟨⟨⟨⟨⟨head, ?_⟩, ?_⟩, ?_⟩, few⟩, many⟩, known⟩, stamped⟩
  · unfold TargetedRows.failed
    split <;> rfl
  · unfold TargetedRows.failed
    split <;> rfl
  · have grown : 0 ≤ row.version := by simpa using version
    exact decide_eq_true (Int.le_add_one grown)

theorem fail_handoffs_total {table : HandoffTable} {deviceOf : AgentInstanceId → Option DeviceId} {deviceId : DeviceId}
    (fits : ∀ row ∈ table.rows, deviceOf row.targetInstanceId = some deviceId → TargetedRows.failable row = true →
      ((row.deliveredAt.or row.queuedAt).or row.approvedAt).all (· ≤ at') = true) :
    ∃ next, table.failTargetedHandoffsForDevice operation deviceOf deviceId at' = .ok next := by
  obtain ⟨rows, updated⟩ := update_where_total
    (fun row : TargetedRow => decide (deviceOf row.targetInstanceId = some deviceId) && TargetedRows.failable row)
    (fun row => (TargetedRows.failed TargetedRows.targetDeviceRevoked at' row).write operation) table.rows (by
      intro row listed hits
      simp only [Bool.and_eq_true, decide_eq_true_eq] at hits
      exact ⟨_, if_pos (handoff_fails (table.checked row listed) (fits row listed hits.1 hits.2))⟩)
  unfold HandoffTable.failTargetedHandoffsForDevice
  split
  · exact ⟨_, rfl⟩
  · rename_i failure run
    cases run.symm.trans updated

variable {tables : DeviceTables} {deviceId : DeviceId}

theorem revoke_active_families_total (fits : StampFits tables deviceId at') :
    ∃ next, tables.revokeActiveFamilies operation deviceId at' = .ok next ∧ next.instances = tables.instances ∧
      next.handoffs = tables.handoffs := by
  obtain ⟨accessTokens, accessed⟩ := update_where_total
    (fun row : AccessRow => decide (row.token.deviceId = deviceId ∧ row.token.revokedAt = none))
    (fun row => AccessRow.write operation { row.token with revokedAt := some at' }) tables.accessTokens (by
      intro row listed hits
      simp only [decide_eq_true_eq] at hits
      exact access_revokes row (fits.access row listed hits.1))
  obtain ⟨refreshTokens, refreshed⟩ := update_where_total
    (fun row : RefreshRow => decide (ofDevice tables.families deviceId row = true ∧ row.token.revokedAt = none))
    (fun row => RefreshRow.write operation { row.token with revokedAt := some at' }) tables.refreshTokens (by
      intro row listed hits
      simp only [decide_eq_true_eq] at hits
      exact refresh_revokes row (fits.refresh row listed hits.1))
  obtain ⟨families, updated⟩ := update_where_total (activeOf deviceId)
    (fun row => FamilyRow.write operation { row.family with state := .revoked, revokedAt := some at' }) tables.families (by
      intro row listed hits
      simp only [activeOf, decide_eq_true_eq] at hits
      exact family_revokes row hits.2 (fits.families row listed hits.1))
  have tokens : tables.revokeTokens operation deviceId at' = .ok { tables with accessTokens, refreshTokens } := by
    rw [revokeTokens, accessed, refreshed]
    rfl
  refine ⟨{ tables with families, accessTokens, refreshTokens }, ?_, rfl, rfl⟩
  rw [revokeActiveFamilies, tokens]
  apply (bind_ok _ _ _).mpr
  exact ⟨_, rfl, (bind_ok _ _ _).mpr ⟨families, updated, rfl⟩⟩

theorem revoke_device_total (fits : StampFits tables deviceId at') :
    ∃ next, tables.revokeDeviceAndTokens operation deviceId at' = .ok next := by
  obtain ⟨devices, updated⟩ := update_where_total
    (fun row : DeviceRow => decide (row.device.id = deviceId ∧ row.device.trustState ≠ .revoked))
    (fun row => DeviceRow.write operation { row.device with trustState := .revoked, revokedAt := some at' }
      row.verifiedAt) tables.devices (by
      intro row listed hits
      simp only [decide_eq_true_eq] at hits
      obtain ⟨created, verified⟩ := fits.devices row listed hits.1
      exact device_revokes row created verified)
  have moved := update_where_core (fun row : DeviceRow => (row.device.id, row.device.createdAt, row.verifiedAt)) id
    (fun row new written => by
      rw [DeviceRow.write] at written
      split at written
      · cases written
        rfl
      · cases written) updated
  have fitsLater : StampFits { tables with devices } deviceId at' := by
    refine ⟨?_, fits.families, fits.access, fits.refresh, fits.handoffs⟩
    intro new listed same
    obtain ⟨old, member, kept⟩ := related_from moved listed
    simp only [id_eq, ite_self, Prod.mk.injEq] at kept
    rw [kept.2.1, kept.2.2]
    exact fits.devices old member (kept.1 ▸ same)
  obtain ⟨revoked, done, instances, handoffs⟩ := revoke_active_families_total fitsLater
  have stamps := fits.handoffs
  rw [show tables.handoffs = revoked.handoffs from handoffs.symm, show tables.deviceOf = revoked.deviceOf by
    unfold deviceOf
    rw [instances]] at stamps
  obtain ⟨failed, fails⟩ := fail_handoffs_total stamps
  refine ⟨_, (bind_ok _ _ _).mpr ⟨devices, updated, (bind_ok _ _ _).mpr ⟨revoked, done, (bind_ok _ _ _).mpr ⟨failed, fails, rfl⟩⟩⟩⟩

theorem compromise_device_total (familyId : DeviceTokenFamilyId) (fits : StampFits tables device.id at')
    (owned : ∀ row ∈ tables.families, row.family.id = familyId → row.family.deviceId = device.id) :
    ∃ next, tables.compromiseDevice operation device familyId at' = .ok next := by
  obtain ⟨families, updated⟩ := update_where_total
    (fun row : FamilyRow => decide (row.family.id = familyId ∧ row.family.state = .active))
    (fun row => FamilyRow.write operation { row.family with
      state := .compromised
      revokedAt := row.family.revokedAt.or (some at')
      compromiseDetectedAt := some at' }) tables.families (by
      intro row listed hits
      simp only [decide_eq_true_eq] at hits
      exact family_compromises row hits.2 (fits.families row listed (owned row listed hits.1)))
  have moved := compromised_families operation families familyId at' updated
  have keyed := compromised_keyed families at' moved
  have fitsLater : StampFits { tables with families } device.id at' := by
    refine ⟨fits.devices, ?_, fits.access, ?_, fits.handoffs⟩
    · intro new listed same
      obtain ⟨old, member, changed⟩ := related_from moved listed
      have created : new.family.createdAt = old.family.createdAt := by
        split at changed <;> rw [changed]
      have onDevice : new.family.deviceId = old.family.deviceId := by
        split at changed <;> rw [changed]
      rw [created]
      exact fits.families old member (onDevice ▸ same)
    · intro row listed onDevice
      rw [of_device_congr tables.families families keyed] at onDevice
      exact fits.refresh row listed onDevice
  obtain ⟨next, done⟩ := revoke_device_total fitsLater
  exact ⟨next, (bind_ok _ _ _).mpr ⟨families, updated, done⟩⟩

end

end DeviceTables

end AgentRoom
