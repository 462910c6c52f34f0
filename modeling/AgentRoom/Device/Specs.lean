import AgentRoom.Device.Store

namespace AgentRoom

open Library

theorem family_write_ok (run : FamilyRow.write operation family = .ok row) : row.family = family := by
  rw [FamilyRow.write] at run
  split at run
  · cases run
    rfl
  · cases run

theorem access_write_ok (run : AccessRow.write operation token = .ok row) : row.token = token := by
  rw [AccessRow.write] at run
  split at run
  · cases run
    rfl
  · cases run

theorem refresh_write_ok (run : RefreshRow.write operation token = .ok row) : row.token = token := by
  rw [RefreshRow.write] at run
  split at run
  · cases run
    rfl
  · cases run

theorem decode_device_ok (operation : String) (row : DeviceRow) : decodeDevice operation row = .ok row.device := by
  have checked := row.checked
  simp only [deviceChecks, Bool.and_eq_true] at checked
  obtain ⟨⟨⟨seen, _⟩, revoked⟩, trust⟩ := checked
  have consistent : decide (row.device.trustState = .revoked) = row.device.revokedAt.isSome := by
    cases state : row.device.trustState with
    | pending => simp_all
    | verified => simp_all
    | revoked =>
      cases at' : row.device.revokedAt with
      | none => simp [state, at'] at trust
      | some value => rfl
  have late (time : Option UtcMillis) (after : time.all (row.device.createdAt ≤ ·) = true) :
      time.any (· < row.device.createdAt) = false := by
    cases time with
    | none => rfl
    | some value => simpa [UtcMillis.not_lt_iff] using after
  simp [decodeDevice, Device.restore, orCorrupt, consistent, late _ seen, late _ revoked]

theorem decode_family_ok (operation : String) (row : FamilyRow) : decodeTokenFamily operation row = .ok row.family := by
  obtain ⟨family, checked⟩ := row
  simp only [familyChecks, Bool.and_eq_true, decide_eq_true_eq] at checked
  obtain ⟨⟨⟨⟨expiry, consistent⟩, revoked⟩, compromised⟩, authenticated⟩ := checked
  have late (time : Option UtcMillis) (after : time.all (family.createdAt ≤ ·) = true) :
      time.any (· < family.createdAt) = false := by
    cases time with
    | none => rfl
    | some value => simpa [UtcMillis.not_lt_iff] using after
  have detected : family.compromiseDetectedAt.all (family.createdAt ≤ ·) = true := by
    cases at' : family.compromiseDetectedAt with
    | none => rfl
    | some value =>
      rw [at'] at compromised
      simp only [Option.all_some, decide_eq_true_eq] at compromised ⊢
      exact compromised.1
  have within : ¬ family.expiresAt ≤ family.createdAt := (UtcMillis.not_le_iff _ _).mpr expiry
  cases authentic : family.authenticatedAt with
  | none =>
    simp only [decodeTokenFamily, DeviceTokenFamily.restore, authentic, within, late _ revoked, late _ detected, consistent]
    cases family
    cases authentic
    rfl
  | some value =>
    rw [authentic] at authenticated
    have before : ¬ family.createdAt < value := (UtcMillis.not_lt_iff _ _).mpr (by simpa using authenticated)
    simp only [decodeTokenFamily, DeviceTokenFamily.restore, authentic, within, late _ revoked, late _ detected, consistent]
    cases family
    cases authentic
    simp [orCorrupt, DeviceTokenFamily.withAuthenticatedAt, bind, Except.bind] at before ⊢
    simp [before]

namespace DeviceTables

-- What shutting a device's sessions does to each row: its tokens and families end,
-- nothing else about any row changes.
def AccessShut (deviceId : DeviceId) (old new : AccessRow) : Prop :=
  new.token = { old.token with revokedAt := new.token.revokedAt } ∧
    (new.token.revokedAt ≠ none ↔ old.token.revokedAt ≠ none ∨ old.token.deviceId = deviceId)

def RefreshShut (families : List FamilyRow) (deviceId : DeviceId) (old new : RefreshRow) : Prop :=
  new.token = { old.token with revokedAt := new.token.revokedAt } ∧
    (new.token.revokedAt ≠ none ↔ old.token.revokedAt ≠ none ∨ ofDevice families deviceId old = true)

structure SameFamily (old new : DeviceTokenFamily) : Prop where
  id : new.id = old.id
  device : new.deviceId = old.deviceId
  expiry : new.expiresAt = old.expiresAt

structure FamilyShut (deviceId : DeviceId) (compromised : Option DeviceTokenFamilyId) (old new : FamilyRow) : Prop where
  same : SameFamily old.family new.family
  ended : new.family.state ≠ .active ↔ old.family.state ≠ .active ∨ old.family.deviceId = deviceId
  marked : new.family.state = .compromised ↔
    old.family.state = .compromised ∨ (some old.family.id = compromised ∧ old.family.state = .active)

structure Shut (tables next : DeviceTables) (deviceId : DeviceId) (compromised : Option DeviceTokenFamilyId) : Prop where
  access : List.Forall₂ (AccessShut deviceId) tables.accessTokens next.accessTokens
  refresh : List.Forall₂ (RefreshShut tables.families deviceId) tables.refreshTokens next.refreshTokens
  families : List.Forall₂ (FamilyShut deviceId compromised) tables.families next.families
  attempts : next.attempts = tables.attempts

variable {next : DeviceTables} {family : DeviceTokenFamily} {device requested : Device} {familyId : DeviceTokenFamilyId}
  {expiresAt issuedAt : UtcMillis} {session : DeviceSessionRegistration}

variable (tables : DeviceTables)

variable {at' : UtcMillis} {replacement : DeviceTokenReplacement}

theorem revoke_tokens_ok (run : tables.revokeTokens operation deviceId at' = .ok next) :
    List.Forall₂ (AccessShut deviceId) tables.accessTokens next.accessTokens ∧
      List.Forall₂ (RefreshShut tables.families deviceId) tables.refreshTokens next.refreshTokens ∧
      next.families = tables.families ∧ next.attempts = tables.attempts := by
  obtain ⟨accessTokens, accessed, later⟩ := unbind run
  obtain ⟨refreshTokens, refreshed, built⟩ := unbind later
  cases built
  have access := update_where_core AccessRow.token (fun token => { token with revokedAt := some at' })
    (fun row new written => access_write_ok written) accessed
  have refresh := update_where_core RefreshRow.token (fun token => { token with revokedAt := some at' })
    (fun row new written => refresh_write_ok written) refreshed
  refine ⟨access.imp ?_, refresh.imp ?_, rfl, rfl⟩
  · intro old new moved
    by_cases hits : old.token.deviceId = deviceId ∧ old.token.revokedAt = none
    · rw [if_pos (decide_eq_true hits)] at moved
      simp [AccessShut, moved, hits.1]
    · rw [if_neg (by simpa using hits)] at moved
      rw [AccessShut, moved]
      refine ⟨rfl, .inl, ?_⟩
      rintro (revoked | mine)
      · exact revoked
      · exact fun absent => hits ⟨mine, absent⟩
  · intro old new moved
    by_cases hits : ofDevice tables.families deviceId old = true ∧ old.token.revokedAt = none
    · rw [if_pos (decide_eq_true hits)] at moved
      simp [RefreshShut, moved, hits.1]
    · rw [if_neg (by simpa using hits)] at moved
      rw [RefreshShut, moved]
      refine ⟨rfl, .inl, ?_⟩
      rintro (revoked | mine)
      · exact revoked
      · exact fun absent => hits ⟨mine, absent⟩

theorem revoke_active_families_ok {tables : DeviceTables} {next : DeviceTables}
    (run : tables.revokeActiveFamilies operation deviceId at' = .ok next) : Shut tables next deviceId none := by
  obtain ⟨revoked, tokens, later⟩ := unbind run
  obtain ⟨families, updated, built⟩ := unbind later
  cases built
  obtain ⟨access, refresh, sameFamilies, attempts⟩ := revoke_tokens_ok tables tokens
  have moved := update_where_core FamilyRow.family
    (fun family => { family with state := .revoked, revokedAt := some at' })
    (fun row new written => family_write_ok written) updated
  rw [sameFamilies] at moved
  refine ⟨access, refresh, moved.imp ?_, attempts⟩
  intro old new changed
  by_cases hits : activeOf deviceId old = true
  · rw [if_pos hits] at changed
    simp only [activeOf, decide_eq_true_eq] at hits
    exact ⟨⟨by rw [changed], by rw [changed], by rw [changed]⟩, by simp [changed, hits.1], by simp [changed, hits.2]⟩
  · rw [if_neg hits] at changed
    simp only [activeOf, decide_eq_true_eq, not_and] at hits
    refine ⟨⟨by rw [changed], by rw [changed], by rw [changed]⟩, ?_, by simp [changed]⟩
    rw [changed]
    exact ⟨.inl, fun either => either.elim id hits⟩

theorem revoke_device_ok {tables : DeviceTables} {next : DeviceTables}
    (run : tables.revokeDeviceAndTokens operation deviceId at' = .ok next) : Shut tables next deviceId none := by
  obtain ⟨devices, _, later⟩ := unbind run
  obtain ⟨revoked, done, later⟩ := unbind later
  obtain ⟨handoffs, _, built⟩ := unbind later
  cases built
  obtain ⟨access, refresh, families, attempts⟩ := revoke_active_families_ok done
  exact ⟨access, refresh, families, attempts⟩

theorem of_device_congr (families others : List FamilyRow)
    (keyed : List.Forall₂ (fun old new => new.family.id = old.family.id ∧ new.family.deviceId = old.family.deviceId)
      families others) (deviceId : DeviceId) (row : RefreshRow) :
    ofDevice others deviceId row = ofDevice families deviceId row := by
  let key (row : FamilyRow) := (row.family.id, row.family.deviceId)
  have keys : others.map key = families.map key := related_column key (fun _ _ kept => Prod.ext kept.1 kept.2) keyed
  have asked (rows : List FamilyRow) : ofDevice rows deviceId row =
      (rows.map key).any fun key => key.1 = row.token.familyId ∧ key.2 = deviceId := by
    rw [List.any_map]
    rfl
  rw [asked, asked, keys]

abbrev compromised (family : DeviceTokenFamily) (at' : UtcMillis) : DeviceTokenFamily := { family with
  state := .compromised
  revokedAt := family.revokedAt.or (some at')
  compromiseDetectedAt := some at' }

-- The first UPDATE of a compromise: it ends the one family and leaves every family its device.
theorem compromised_families (operation : String) (next : List FamilyRow) (familyId : DeviceTokenFamilyId) (at' : UtcMillis)
    (updated : updateWhere (fun row : FamilyRow => decide (row.family.id = familyId ∧ row.family.state = .active))
      (fun row => FamilyRow.write operation (compromised row.family at')) rows = .ok next) :
    List.Forall₂ (fun old new => new.family =
      if decide (old.family.id = familyId ∧ old.family.state = .active) = true then compromised old.family at'
      else old.family) rows next :=
  update_where_core FamilyRow.family (fun family => compromised family at')
    (fun _ _ written => family_write_ok written) updated

theorem compromised_keyed (next : List FamilyRow) {hit : FamilyRow → Bool} (at' : UtcMillis)
    (moved : List.Forall₂ (fun old new => new.family =
      if hit old = true then compromised old.family at' else old.family) rows next) :
    List.Forall₂ (fun old new => new.family.id = old.family.id ∧ new.family.deviceId = old.family.deviceId)
      rows next := by
  apply moved.imp
  intro old new changed
  split at changed <;> exact ⟨by rw [changed], by rw [changed]⟩

theorem compromise_device_ok {operation : String} {device : Device}
    {owned : ∀ row ∈ tables.families, row.family.id = familyId → row.family.deviceId = device.id}
    (run : tables.compromiseDevice operation device familyId at' = .ok next) : Shut tables next device.id (some familyId) := by
  obtain ⟨families, updated, later⟩ := unbind run
  obtain ⟨access, refresh, shut, attempts⟩ := revoke_device_ok later
  have moved := compromised_families operation families familyId at' updated
  have keyed := compromised_keyed families at' moved
  have refresh' : List.Forall₂ (RefreshShut tables.families device.id) tables.refreshTokens next.refreshTokens := by
    apply refresh.imp
    rintro old new ⟨same, revoked⟩
    rw [of_device_congr tables.families families keyed] at revoked
    exact ⟨same, revoked⟩
  have families' : List.Forall₂ (FamilyShut device.id (some familyId)) tables.families next.families := by
    apply related_trans moved shut
    intro old listed middle new changed ⟨same, ended, marked⟩
    by_cases hits : old.family.id = familyId ∧ old.family.state = .active
    · rw [if_pos (decide_eq_true hits)] at changed
      have mine := owned old listed hits.1
      exact ⟨⟨by rw [same.id, changed], by rw [same.device, changed], by rw [same.expiry, changed]⟩,
        by simp [ended, changed, mine], by simp [marked, changed, hits]⟩
    · rw [if_neg (by simpa using hits)] at changed
      refine ⟨⟨by rw [same.id, changed], by rw [same.device, changed], by rw [same.expiry, changed]⟩, by rw [ended, changed], ?_⟩
      rw [marked, changed]
      simp [hits]
  exact ⟨access, refresh', families', attempts⟩

theorem insert_access_ok {tokenId : DeviceAccessTokenId}
    (run : tables.insertAccessToken operation deviceId familyId tokenId digest issuedAt expiresAt = .ok next) :
    ∃ row, row.token = { id := tokenId, familyId, deviceId, secretDigest := digest, issuedAt, expiresAt, revokedAt := none } ∧
      (∀ old ∈ tables.accessTokens, old.token.id ≠ tokenId ∧ old.token.secretDigest ≠ digest) ∧
      next = { tables with accessTokens := tables.accessTokens ++ [row] } := by
  obtain ⟨row, written, later⟩ := unbind run
  split at later
  · cases later
  · rename_i fresh
    cases later
    refine ⟨row, access_write_ok written, ?_, rfl⟩
    intro old listed
    simp only [List.any_eq_true, decide_eq_true_eq, not_exists, not_and, not_or] at fresh
    exact fresh old listed

theorem insert_refresh_ok {tokenId : DeviceRefreshTokenId} {sequence : Nat}
    (run : tables.insertRefreshToken operation familyId tokenId digest sequence issuedAt expiresAt = .ok next) :
    ∃ row, row.token = {
          id := tokenId
          familyId
          secretDigest := digest
          sequence
          issuedAt
          expiresAt
          consumedAt := none
          replacedById := none
          revokedAt := none } ∧
      (∀ old ∈ tables.refreshTokens, old.token.id ≠ tokenId ∧ old.token.secretDigest ≠ digest) ∧
      next = { tables with refreshTokens := tables.refreshTokens ++ [row] } := by
  obtain ⟨row, written, later⟩ := unbind run
  split at later
  · cases later
  · rename_i fresh
    cases later
    refine ⟨row, refresh_write_ok written, ?_, rfl⟩
    intro old listed
    simp only [List.any_eq_true, decide_eq_true_eq, not_exists, not_and, not_or] at fresh
    obtain ⟨id, secret, _⟩ := fresh old listed
    exact ⟨id, secret⟩

theorem insert_family_ok (run : tables.insertTokenFamily operation family = .ok next) :
    ∃ row, row.family = family ∧ (∀ old ∈ tables.families, old.family.id ≠ family.id) ∧
      next = { tables with families := tables.families ++ [row] } := by
  obtain ⟨row, written, later⟩ := unbind run
  split at later
  · cases later
  · rename_i fresh
    split at later
    · cases later
    · cases later
      refine ⟨row, family_write_ok written, ?_, rfl⟩
      simpa using fresh

structure SameSessions (tables next : DeviceTables) : Prop where
  families : next.families = tables.families
  access : next.accessTokens = tables.accessTokens
  refresh : next.refreshTokens = tables.refreshTokens
  attempts : next.attempts = tables.attempts

theorem claim_device_same
    (run : tables.claimDevice operation account requested = .ok (next, device)) : SameSessions tables next := by
  obtain ⟨inserted, inserts, later⟩ := unbind run
  obtain ⟨existing, _, later'⟩ := unbind later
  split at later'
  · cases later'
  · obtain ⟨verified, verifies, later''⟩ := unbind later'
    obtain ⟨restored, _, built⟩ := unbind later''
    obtain ⟨devices, _, updated⟩ := unbind verifies
    cases built
    cases updated
    rw [insertDeviceIfAbsent] at inserts
    split at inserts
    · cases inserts
      exact ⟨rfl, rfl, rfl, rfl⟩
    · split at inserts
      · cases inserts
      · obtain ⟨row, _, added⟩ := unbind inserts
        cases added
        exact ⟨rfl, rfl, rfl, rfl⟩

theorem consume_receipt_same {principalId : PrincipalId}
    (run : tables.consumeAuthorizationReceipt operation principalId deviceId session = .ok next) : SameSessions tables next := by
  simp only [consumeAuthorizationReceipt] at run
  split at run
  · split at run
    · cases run
    · cases run
      exact ⟨rfl, rfl, rfl, rfl⟩
  · cases run

structure Registered (tables next : DeviceTables) (session : DeviceSessionRegistration) (device : Device)
    (closed : DeviceTables) (family : FamilyRow) (access : AccessRow) (refresh : RefreshRow) : Prop where
  shut : Shut tables closed device.id none
  familyId : family.family.id = session.family.id
  familyDevice : family.family.deviceId = device.id
  active : family.family.state = .active
  freshFamily : ∀ old ∈ closed.families, old.family.id ≠ family.family.id
  families : next.families = closed.families ++ [family]
  accessToken : access.token.id = session.accessTokenId ∧ access.token.familyId = family.family.id ∧
    access.token.deviceId = device.id ∧ access.token.secretDigest = session.accessTokenDigest ∧ access.token.revokedAt = none
  freshAccess : ∀ old ∈ closed.accessTokens, old.token.id ≠ access.token.id ∧ old.token.secretDigest ≠ access.token.secretDigest
  accessTokens : next.accessTokens = closed.accessTokens ++ [access]
  refreshToken : refresh.token.id = session.refreshTokenId ∧ refresh.token.familyId = family.family.id ∧
    refresh.token.secretDigest = session.refreshTokenDigest ∧ refresh.token.consumedAt = none ∧
    refresh.token.revokedAt = none ∧ refresh.token.expiresAt = family.family.expiresAt
  freshRefresh : ∀ old ∈ closed.refreshTokens, old.token.id ≠ refresh.token.id ∧
    old.token.secretDigest ≠ refresh.token.secretDigest
  refreshTokens : next.refreshTokens = closed.refreshTokens ++ [refresh]
  attempts : next.attempts = closed.attempts

theorem registered_family_ok {requested : DeviceTokenFamily} (run : registeredFamily operation device requested = .ok family) :
    family.id = requested.id ∧ family.deviceId = device.id ∧ family.state = .active := by
  obtain ⟨opened, opens, later⟩ := unbind run
  have fields : opened.id = requested.id ∧ opened.deviceId = device.id ∧ opened.state = .active := by
    rw [DeviceTokenFamily.new] at opens
    split at opens
    · cases opens
    · cases opens
      exact ⟨rfl, rfl, rfl⟩
  split at later
  · rename_i authenticatedAt _
    rw [DeviceTokenFamily.withAuthenticatedAt] at later
    split at later
    · cases later
    · cases later
      exact fields
  · cases later
    exact fields

theorem store_session_ok {stored : StoredDeviceSession}
    (run : tables.storeDeviceSession operation account requested session = .ok (next, stored)) :
    ∃ closed family access refresh, Registered tables next session stored.device closed family access refresh := by
  rw [storeDeviceSession] at run
  split at run
  · cases run
  · obtain ⟨⟨claimed, device⟩, claims, later⟩ := unbind run
    obtain ⟨received, receives, later⟩ := unbind later
    obtain ⟨revoked, revokes, later⟩ := unbind later
    obtain ⟨family, builds, later⟩ := unbind later
    obtain ⟨opened, opens, later⟩ := unbind later
    obtain ⟨granted, grants, later⟩ := unbind later
    obtain ⟨finished, stores, built⟩ := unbind later
    cases built
    have claimedSame := claim_device_same tables claims
    have receivedSame := consume_receipt_same claimed receives
    have shut := revoke_active_families_ok revokes
    obtain ⟨id, owner, active⟩ := registered_family_ok builds
    obtain ⟨familyRow, sameFamily, freshFamily, openedIs⟩ := insert_family_ok revoked opens
    obtain ⟨access, accessIs, freshAccess, grantedIs⟩ := insert_access_ok opened grants
    obtain ⟨refresh, refreshIs, freshRefresh, finishedIs⟩ := insert_refresh_ok granted stores
    subst openedIs grantedIs finishedIs sameFamily
    refine ⟨revoked, familyRow, access, refresh, ?_⟩
    exact {
      shut := {
        access := by
          have moved := shut.access
          rwa [receivedSame.access, claimedSame.access] at moved
        refresh := by
          have moved := shut.refresh
          rwa [receivedSame.refresh, claimedSame.refresh, receivedSame.families, claimedSame.families] at moved
        families := by
          have moved := shut.families
          rwa [receivedSame.families, claimedSame.families] at moved
        attempts := by rw [shut.attempts, receivedSame.attempts, claimedSame.attempts] }
      familyId := id
      familyDevice := owner
      active
      freshFamily
      families := rfl
      accessToken := by simp [accessIs]
      freshAccess := by
        intro old listed
        rw [accessIs]
        exact freshAccess old listed
      accessTokens := rfl
      refreshToken := by simp [refreshIs]
      freshRefresh := by
        intro old listed
        rw [refreshIs]
        exact freshRefresh old listed
      refreshTokens := rfl
      attempts := rfl }

def FamilyRenewed (familyId : DeviceTokenFamilyId) (expiresAt : UtcMillis) (old new : FamilyRow) : Prop :=
  new.family = { old.family with expiresAt := new.family.expiresAt } ∧
    (old.family.id ≠ familyId → new.family.expiresAt = old.family.expiresAt) ∧
    (old.family.id = familyId → old.family.state = .active → new.family.expiresAt = expiresAt)

theorem renew_family_ok (unique : ∀ row ∈ tables.families, row.family.id = locked.id → row.family = locked)
    (run : tables.renewTokenFamily operation locked replacement = .ok (next, family)) :
    family = { locked with expiresAt := family.expiresAt } ∧
      List.Forall₂ (FamilyRenewed locked.id family.expiresAt) tables.families next.families ∧
      next = { tables with families := next.families } := by
  rw [renewTokenFamily] at run
  split at run
  · cases run
  · rename_i renewedFamily renews
    have renewed := DeviceTokenFamily.renew_yields locked replacement.refreshLifetime replacement.issuedAt
    obtain ⟨_, moved, _⟩ := yields_ok renewed renews
    split at run
    · rename_i still
      cases run
      refine ⟨moved, ?_, rfl⟩
      apply List.forall₂_same.mpr
      intro row listed
      refine ⟨rfl, fun _ => rfl, ?_⟩
      intro mine _
      rw [unique row listed mine, still]
    · dsimp only at run
      split at run
      · cases run
      · obtain ⟨families, updated, built⟩ := unbind run
        cases built
        refine ⟨moved, ?_, rfl⟩
        have id : family.id = locked.id := by rw [moved]
        have rewritten := update_where_core FamilyRow.family (fun row => { row with expiresAt := family.expiresAt })
          (fun row new written => family_write_ok written) updated
        apply rewritten.imp
        intro old new changed
        by_cases hits : old.family.id = family.id ∧ old.family.state = .active
        · rw [if_pos (decide_eq_true hits)] at changed
          refine ⟨by rw [changed], fun other => ?_, fun _ _ => by rw [changed]⟩
          exact (other (hits.1.trans id)).elim
        · rw [if_neg (by simpa using hits)] at changed
          refine ⟨by rw [changed], fun _ => by rw [changed], fun mine active => ?_⟩
          exact (hits ⟨mine.trans id.symm, active⟩).elim

theorem record_seen_same
    (run : tables.recordDeviceSeen operation locked seenAt = .ok (next, device)) : SameSessions tables next := by
  simp only [recordDeviceSeen] at run
  split at run
  · cases run
    exact ⟨rfl, rfl, rfl, rfl⟩
  · split at run
    · cases run
    · obtain ⟨devices, _, built⟩ := unbind run
      cases built
      exact ⟨rfl, rfl, rfl, rfl⟩

def RefreshConsumed (presented successor : DeviceRefreshTokenId) (at' : UtcMillis) (old new : RefreshRow) : Prop :=
  new.token = if old.token.id = presented ∧ old.token.consumedAt = none then
    { old.token with consumedAt := some at', replacedById := some successor } else old.token

structure Rotated (tables next : DeviceTables) (locked : LockedRefreshContext) (replacement : DeviceTokenReplacement)
    (access : AccessRow) (refresh : RefreshRow) : Prop where
  families : List.Forall₂ (FamilyRenewed locked.family.id refresh.token.expiresAt) tables.families next.families
  accessToken : access.token.id = replacement.accessTokenId ∧ access.token.familyId = locked.family.id ∧
    access.token.deviceId = locked.device.id ∧ access.token.secretDigest = replacement.accessTokenDigest ∧
    access.token.expiresAt = replacement.accessTokenExpiresAt ∧ access.token.revokedAt = none
  freshAccess : ∀ old ∈ tables.accessTokens, old.token.id ≠ access.token.id ∧ old.token.secretDigest ≠ access.token.secretDigest
  accessTokens : next.accessTokens = tables.accessTokens ++ [access]
  refreshToken : refresh.token.id = replacement.refreshTokenId ∧ refresh.token.familyId = locked.family.id ∧
    refresh.token.secretDigest = replacement.refreshTokenDigest ∧ refresh.token.consumedAt = none ∧
    refresh.token.revokedAt = none
  freshRefresh : ∀ old ∈ tables.refreshTokens, old.token.id ≠ refresh.token.id ∧
    old.token.secretDigest ≠ refresh.token.secretDigest
  refreshTokens : List.Forall₂ (RefreshConsumed locked.refreshId replacement.refreshTokenId replacement.issuedAt)
    (tables.refreshTokens ++ [refresh]) next.refreshTokens
  attempts : match replacement.replay with
    | none => next.attempts = tables.attempts.map (dropSalt locked.refreshId)
    | some replay => ∃ attempt, next.attempts = tables.attempts.map (dropSalt locked.refreshId) ++ [attempt] ∧
        (∀ old ∈ tables.attempts, old.refreshTokenId ≠ locked.refreshId) ∧
        attempt.refreshTokenId = locked.refreshId ∧ attempt.attemptId = replay.attemptId ∧
        attempt.successorRefreshTokenId = replacement.refreshTokenId ∧
        attempt.accessTokenId = replacement.accessTokenId ∧ attempt.replaySalt = some replay.salt

theorem drop_salt_keeps (successor : DeviceRefreshTokenId) (row : AttemptRow) :
    (dropSalt successor row).refreshTokenId = row.refreshTokenId ∧ (dropSalt successor row).attemptId = row.attemptId ∧
      (dropSalt successor row).successorRefreshTokenId = row.successorRefreshTokenId ∧
      (dropSalt successor row).accessTokenId = row.accessTokenId := by
  rw [dropSalt]
  split
  · exact ⟨rfl, rfl, rfl, rfl⟩
  · exact ⟨rfl, rfl, rfl, rfl⟩

theorem rotate_locked_ok {next : DeviceTables} {outcome : DeviceRefreshOutcome}
    {unique : ∀ row ∈ tables.families, row.family.id = locked.family.id → row.family = locked.family}
    (run : tables.rotateLocked operation locked replacement = .ok (next, outcome)) :
    (∃ session expiresAt, outcome = .rotated session expiresAt) ∧
      ∃ access refresh, Rotated tables next locked replacement access refresh := by
  obtain ⟨⟨replaced, session⟩, persists, later⟩ := unbind run
  obtain ⟨recorded, records, built⟩ := unbind later
  cases built
  refine ⟨⟨_, _, rfl⟩, ?_⟩
  rw [persistRefreshReplacement] at persists
  split at persists
  · cases persists
  · obtain ⟨⟨renewed, family⟩, renews, rest⟩ := unbind persists
    obtain ⟨⟨seen, device⟩, sees, rest⟩ := unbind rest
    obtain ⟨granted, grants, rest⟩ := unbind rest
    obtain ⟨inserted, inserts, rest⟩ := unbind rest
    obtain ⟨consumed, consumes, built⟩ := unbind rest
    cases built
    obtain ⟨_, families, renewedIs⟩ := renew_family_ok tables unique renews
    have seenSame := record_seen_same renewed sees
    obtain ⟨access, accessIs, freshAccess, grantedIs⟩ := insert_access_ok seen grants
    obtain ⟨refresh, refreshIs, freshRefresh, insertedIs⟩ := insert_refresh_ok granted inserts
    obtain ⟨refreshTokens, updated, consumedIs⟩ := unbind consumes
    cases consumedIs
    subst grantedIs insertedIs
    have moved := update_where_core RefreshRow.token
      (fun token => { token with consumedAt := some replacement.issuedAt, replacedById := some replacement.refreshTokenId }) (fun row new written => refresh_write_ok written) updated
    have renewedAccess : renewed.accessTokens = tables.accessTokens := by rw [renewedIs]
    have renewedRefresh : renewed.refreshTokens = tables.refreshTokens := by rw [renewedIs]
    have renewedAttempts : renewed.attempts = tables.attempts := by rw [renewedIs]
    rw [seenSame.access, renewedAccess] at freshAccess
    simp only [seenSame.refresh, renewedRefresh] at freshRefresh moved
    have untouched : next.families = seen.families ∧ next.accessTokens = seen.accessTokens ++ [access] ∧
        next.refreshTokens = refreshTokens := by
      simp only [recordRefreshAttempt] at records
      split at records
      · cases records
        exact ⟨rfl, rfl, rfl⟩
      · split at records
        · split at records
          · cases records
          · cases records
            exact ⟨rfl, rfl, rfl⟩
        · cases records
    refine ⟨access, refresh, ?_⟩
    exact {
      families := by
        rw [untouched.1, seenSame.families, refreshIs]
        exact families
      accessToken := by simp [accessIs]
      freshAccess := by
        intro old listed
        rw [accessIs]
        exact freshAccess old listed
      accessTokens := by rw [untouched.2.1, seenSame.access, renewedAccess]
      refreshToken := by simp [refreshIs]
      freshRefresh := by
        intro old listed
        rw [refreshIs]
        exact freshRefresh old listed
      refreshTokens := by
        rw [untouched.2.2]
        apply moved.imp
        intro old new changed
        simpa [RefreshConsumed] using changed
      attempts := by
        simp only [recordRefreshAttempt, seenSame.attempts, renewedAttempts] at records
        cases requested : replacement.replay with
        | none =>
          rw [requested] at records
          cases records
          rfl
        | some replay =>
          simp only [requested] at records
          split at records
          · split at records
            · cases records
            · rename_i free
              cases records
              refine ⟨_, rfl, ?_, rfl, rfl, rfl, rfl, rfl⟩
              intro old listed same
              simp only [List.any_eq_true, List.mem_map, decide_eq_true_eq, not_exists, not_and, not_or] at free
              exact (free _ ⟨old, listed, rfl⟩).1 ((drop_salt_keeps locked.refreshId old).1.trans same)
          · cases records }

end DeviceTables

end AgentRoom
