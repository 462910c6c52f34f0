import AgentRoom.Device.Presentation
import Mathlib.Data.List.Induction

namespace AgentRoom

open Library

inductive SessionCall where
  | savePrincipal (principalId : PrincipalId) (status : PrincipalStatus)
  | insertGrant (record : ComputerGrantRecord)
  | register (registration : PrincipalRegistration) (requested : Device) (session : DeviceSessionRegistration)
  | registerWithGrant (grant : ComputerGrantRecord) (requested : Device) (session : DeviceSessionRegistration)
  | refresh (digest : SecretDigest) (replacement : DeviceTokenReplacement)
  | revoke (principalId : PrincipalId) (deviceId : DeviceId) (revokedAt : UtcMillis)
  -- Instances and handoffs come and go by other services.
  | elsewhere (instances : List InstanceRow) (handoffs : HandoffTable)

namespace DeviceTables

def savePrincipal (tables : DeviceTables) (principalId : PrincipalId) (status : PrincipalStatus) : DeviceTables :=
  { tables with
    principals := tables.principals.map fun row =>
      if row.principal.id = principalId then { row with principal := { row.principal with status } } else row }

def answer (tables : DeviceTables) : SessionCall → RepositoryResult DeviceTables
  | .savePrincipal principalId status => .ok (tables.savePrincipal principalId status)
  | .insertGrant record => tables.insertGrant record
  | .register registration requested session => Prod.fst <$> tables.registerDevice registration requested session
  | .registerWithGrant grant requested session => Prod.fst <$> tables.registerWithGrant grant requested session
  | .refresh digest replacement => Prod.fst <$> tables.rotateRefresh digest replacement
  | .revoke principalId deviceId revokedAt => Prod.fst <$> tables.revokeDevice principalId deviceId revokedAt
  | .elsewhere instances handoffs => .ok { tables with instances, handoffs }

def perform (tables : DeviceTables) (call : SessionCall) : DeviceTables :=
  match tables.answer call with
  | .ok next => next
  | .error _ => tables

def runSessions (tables : DeviceTables) (calls : List SessionCall) : DeviceTables := calls.foldl perform tables

theorem run_sessions_append (tables : DeviceTables) (first second : List SessionCall) :
    tables.runSessions (first ++ second) = (tables.runSessions first).runSessions second := List.foldl_append

inductive SessionStep (tables : DeviceTables) : SessionCall → DeviceTables → Prop where
  | same (call : SessionCall) (next : DeviceTables) (same : SameSessions tables next) : SessionStep tables call next
  | revoked (principalId : PrincipalId) (deviceId : DeviceId) (revokedAt : UtcMillis) (next : DeviceTables)
      (shut : Shut tables next deviceId none) : SessionStep tables (.revoke principalId deviceId revokedAt) next
  | registered (call : SessionCall) (next closed : DeviceTables) (session : DeviceSessionRegistration) (device : Device)
      (family : FamilyRow) (access : AccessRow) (refresh : RefreshRow)
      (registered : Registered tables next session device closed family access refresh) : SessionStep tables call next
  | reused (digest : SecretDigest) (replacement : DeviceTokenReplacement) (next : DeviceTables) (row : RefreshJoin)
      (joined : tables.joinRefresh digest = some row)
      (shut : Shut tables next row.device.device.id (some row.family.family.id)) :
      SessionStep tables (.refresh digest replacement) next
  | rotated (digest : SecretDigest) (replacement : DeviceTokenReplacement) (next : DeviceTables) (row : RefreshJoin)
      (joined : tables.joinRefresh digest = some row)
      (accepted : refuses row.context replacement.issuedAt = false) (unused : row.refresh.token.consumedAt = none)
      (session : StoredDeviceSession) (expiresAt : UtcMillis)
      (run : tables.rotateRefresh digest replacement = .ok (next, .rotated session expiresAt)) (access : AccessRow)
      (refresh : RefreshRow) (rotated : Rotated tables next row.context replacement access refresh) :
      SessionStep tables (.refresh digest replacement) next

theorem registered_after_same {tables : DeviceTables} {next closed : DeviceTables} {session : DeviceSessionRegistration}
    {family : FamilyRow} {refresh : RefreshRow} (same : SameSessions tables known)
    (registered : Registered known next session device closed family access refresh) :
    Registered tables next session device closed family access refresh :=
  { registered with
    shut := {
      access := same.access ▸ registered.shut.access
      refresh := by
        have moved := registered.shut.refresh
        rwa [same.refresh, same.families] at moved
      families := same.families ▸ registered.shut.families
      attempts := registered.shut.attempts.trans same.attempts } }

theorem insert_principal_same {tables next : DeviceTables} {registration : PrincipalRegistration}
    (run : tables.insertPrincipalIfAbsent operation registration = .ok next) : SameSessions tables next := by
  rw [insertPrincipalIfAbsent] at run
  split at run
  · cases run
    exact ⟨rfl, rfl, rfl, rfl⟩
  · split at run
    · cases run
    · cases run
      exact ⟨rfl, rfl, rfl, rfl⟩

theorem insert_grant_same {tables next : DeviceTables} (record : ComputerGrantRecord)
    (run : tables.insertGrant record = .ok next) : SameSessions tables next := by
  simp only [insertGrant] at run
  split at run
  · split at run
    · cases run
    · cases run
      exact ⟨rfl, rfl, rfl, rfl⟩
  · cases run

section

variable (tables next : DeviceTables)

theorem register_step (run : tables.answer (.register registration requested session) = .ok next) :
    SessionStep tables (.register registration requested session) next := by
  obtain ⟨⟨after, stored⟩, registers, rfl⟩ := (map_ok _ _ _).mp run
  obtain ⟨known, inserts, later⟩ := unbind registers
  obtain ⟨account, _, stores⟩ := unbind later
  obtain ⟨closed, family, access, refresh, registered⟩ := store_session_ok known stores
  have same := insert_principal_same inserts
  exact .registered _ _ closed session stored.device family access refresh
    (registered_after_same same registered)

theorem register_grant_step (run : tables.answer (.registerWithGrant grant requested session) = .ok next) :
    SessionStep tables (.registerWithGrant grant requested session) next := by
  obtain ⟨⟨after, stored⟩, registers, rfl⟩ := (map_ok _ _ _).mp run
  simp only [registerWithGrant] at registers
  split at registers
  · cases registers
  · let used := { tables with grants := tables.grants.filter fun row => !usableGrant grant session.issuedAt row }
    have same : SameSessions tables used := ⟨rfl, rfl, rfl, rfl⟩
    obtain ⟨account, _, stores⟩ := unbind registers
    obtain ⟨closed, family, access, refresh, registered⟩ := store_session_ok _ stores
    exact .registered _ _ closed session stored.device family access refresh
      (registered_after_same same registered)

theorem refresh_step (sound : Sound tables) (run : tables.answer (.refresh digest replacement) = .ok next) :
    SessionStep tables (.refresh digest replacement) next := by
  obtain ⟨⟨after, outcome⟩, rotates, rfl⟩ := (map_ok _ _ _).mp run
  cases rotate_refresh_presents rotates with
  | unknown _ => exact .same _ _ ⟨rfl, rfl, rfl, rfl⟩
  | refused _ _ _ => exact .same _ _ ⟨rfl, rfl, rfl, rfl⟩
  | replayed _ _ _ _ _ _ _ => exact .same _ _ ⟨rfl, rfl, rfl, rfl⟩
  | reused next row joined _ _ _ compromised =>
    exact .reused digest replacement _ row joined (presented_shut sound joined compromised)
  | rotated next outcome row joined accepted unused rotated =>
    obtain ⟨⟨session, expiresAt, rfl⟩, access, refresh, moved⟩ :=
      presented_rotated sound joined rotated
    exact .rotated digest replacement _ row joined accepted unused session expiresAt rotates access refresh moved

theorem revoke_step (run : tables.answer (.revoke principalId deviceId revokedAt) = .ok next) :
    SessionStep tables (.revoke principalId deviceId revokedAt) next := by
  obtain ⟨⟨after, outcome⟩, revokes, rfl⟩ := (map_ok _ _ _).mp run
  simp only [revokeDevice] at revokes
  split at revokes
  · cases revokes
    exact .same _ _ ⟨rfl, rfl, rfl, rfl⟩
  · rename_i row found
    simp only [decode_device_ok] at revokes
    have named : row.device.id = deviceId := by
      have matched := List.find?_some found
      simp only [decide_eq_true_eq] at matched
      exact matched.1
    obtain ⟨device, decoded, later⟩ := unbind revokes
    cases decoded
    split at later
    · cases later
      exact .same _ _ ⟨rfl, rfl, rfl, rfl⟩
    · obtain ⟨revoked, done, built⟩ := unbind later
      cases built
      have shut := revoke_device_ok done
      exact .revoked principalId deviceId revokedAt after (named ▸ shut)

section

variable (sound : Sound tables)
include sound

theorem session_step (run : tables.answer call = .ok next) : SessionStep tables call next := by
  cases call with
  | savePrincipal principalId status =>
    cases run
    exact .same _ _ ⟨rfl, rfl, rfl, rfl⟩
  | insertGrant record => exact .same _ _ (insert_grant_same record run)
  | elsewhere instances handoffs =>
    cases run
    exact .same _ _ ⟨rfl, rfl, rfl, rfl⟩
  | register registration requested session => exact register_step tables next run
  | registerWithGrant grant requested session => exact register_grant_step tables next run
  | refresh digest replacement => exact refresh_step tables next sound run
  | revoke principalId deviceId revokedAt => exact revoke_step tables next run

theorem step_sound (step : SessionStep tables call next) : Sound next := by
  cases step with
  | same _ _ same => exact same_sessions_sound same sound
  | revoked _ _ _ _ shut => exact shut_sound shut sound
  | registered _ _ _ _ _ _ _ _ registered => exact registered_sound registered sound
  | reused _ _ _ _ _ shut => exact shut_sound shut sound
  | rotated _ _ _ row joined accepted unused _ _ _ _ _ rotated =>
    exact rotated_sound rotated sound (joined_presented tables joined accepted unused)

theorem perform_step (call : SessionCall) : SessionStep tables call (tables.perform call) := by
  rw [perform]
  cases answered : tables.answer call with
  | ok next => exact session_step tables next sound answered
  | error failure => exact .same _ _ ⟨rfl, rfl, rfl, rfl⟩

theorem perform_sound (call : SessionCall) : Sound (tables.perform call) :=
  step_sound tables _ sound (perform_step tables sound call)

theorem run_sound {calls : List SessionCall} : Sound (tables.runSessions calls) := by
  induction calls generalizing tables with
  | nil => exact sound
  | cons call rest ih => exact ih _ (perform_sound tables sound call)

end

end

end DeviceTables

open Library

namespace DeviceTables

structure SameToken (old new : RefreshRow) : Prop where
  id : new.token.id = old.token.id
  family : new.token.familyId = old.token.familyId
  digest : new.token.secretDigest = old.token.secretDigest

structure Later (tables next : DeviceTables) : Prop where
  families : ∀ old ∈ tables.families, ∃ new ∈ next.families, new.family.id = old.family.id ∧
    (old.family.state ≠ .active → new.family.state ≠ .active)
  access : ∀ old ∈ tables.accessTokens, ∃ new ∈ next.accessTokens, new.token = { old.token with revokedAt := new.token.revokedAt }
  refresh : ∀ old ∈ tables.refreshTokens, ∃ new ∈ next.refreshTokens, SameToken old new

theorem later_of_same {tables next : DeviceTables} (same : SameSessions tables next) : Later tables next where
  families := fun old listed => ⟨old, same.families ▸ listed, rfl, id⟩
  access := fun old listed => ⟨old, same.access ▸ listed, rfl⟩
  refresh := fun old listed => ⟨old, same.refresh ▸ listed, rfl, rfl, rfl⟩

theorem later_trans (first second third : DeviceTables) (early : Later first second) (late : Later second third) :
    Later first third where
  families := by
    intro old listed
    obtain ⟨middle, between, id, ended⟩ := early.families old listed
    obtain ⟨new, member, id', ended'⟩ := late.families middle between
    exact ⟨new, member, id'.trans id, fun gone => ended' (ended gone)⟩
  access := by
    intro old listed
    obtain ⟨middle, between, same⟩ := early.access old listed
    obtain ⟨new, member, same'⟩ := late.access middle between
    exact ⟨new, member, by rw [same', same]⟩
  refresh := by
    intro old listed
    obtain ⟨middle, between, same⟩ := early.refresh old listed
    obtain ⟨new, member, same'⟩ := late.refresh middle between
    exact ⟨new, member, same'.id.trans same.id, same'.family.trans same.family, same'.digest.trans same.digest⟩

variable {tables next : DeviceTables} {access : AccessRow} {row : RefreshJoin} {familyId : DeviceTokenFamilyId}
  {digest : SecretDigest}

theorem shut_later {compromised : Option DeviceTokenFamilyId} (shut : Shut tables next deviceId compromised) : Later tables next where
  families := by
    intro old listed
    obtain ⟨new, member, kept⟩ := related_to shut.families listed
    exact ⟨new, member, kept.same.id, fun gone => kept.ended.mpr (.inl gone)⟩
  access := by
    intro old listed
    obtain ⟨new, member, same, _⟩ := related_to shut.access listed
    exact ⟨new, member, same⟩
  refresh := by
    intro old listed
    obtain ⟨new, member, same, _⟩ := related_to shut.refresh listed
    exact ⟨new, member, by rw [same], by rw [same], by rw [same]⟩

theorem registered_later {session : DeviceSessionRegistration} {family : FamilyRow}
    (registered : Registered tables next session device closed family access refresh) : Later tables next := by
  have opened : Later closed next := {
    families := by
      intro old listed
      exact ⟨old, by rw [registered.families]; exact List.mem_append_left _ listed, rfl, id⟩
    access := by
      intro old listed
      exact ⟨old, by rw [registered.accessTokens]; exact List.mem_append_left _ listed, rfl⟩
    refresh := by
      intro old listed
      exact ⟨old, by rw [registered.refreshTokens]; exact List.mem_append_left _ listed, rfl, rfl, rfl⟩ }
  exact later_trans tables closed next (shut_later registered.shut) opened

theorem rotated_later (rotated : Rotated tables next locked replacement access refresh) : Later tables next where
  families := by
    intro old listed
    obtain ⟨new, member, same, _⟩ := related_to rotated.families listed
    exact ⟨new, member, by rw [same], by rw [same]; exact id⟩
  access := by
    intro old listed
    exact ⟨old, by rw [rotated.accessTokens]; exact List.mem_append_left _ listed, rfl⟩
  refresh := by
    intro old listed
    obtain ⟨new, member, kept⟩ := rotated_row_to rotated old (.inl listed)
    exact ⟨new, member, kept.id, kept.family, kept.digest⟩

theorem step_later (tables next : DeviceTables) (call : SessionCall) (step : SessionStep tables call next) :
    Later tables next := by
  cases step with
  | same _ _ same => exact later_of_same same
  | revoked _ deviceId _ _ shut => exact shut_later shut
  | registered _ _ closed session device family access refresh registered =>
    exact registered_later registered
  | reused _ _ _ row _ shut => exact shut_later shut
  | rotated _ _ _ row _ _ _ _ _ _ access refresh rotated =>
    exact rotated_later rotated

theorem run_later (tables : DeviceTables) (sound : Sound tables) (calls : List SessionCall) :
    Later tables (tables.runSessions calls) := by
  induction calls generalizing tables with
  | nil => exact later_of_same ⟨rfl, rfl, rfl, rfl⟩
  | cons call rest ih =>
    have here := step_later tables _ call (perform_step tables sound call)
    exact later_trans _ _ _ here (ih _ (perform_sound tables sound call))

def Ended (tables : DeviceTables) (familyId : DeviceTokenFamilyId) : Prop :=
  ∃ owner ∈ tables.families, owner.family.id = familyId ∧ owner.family.state ≠ .active

def AllRevoked (tables : DeviceTables) (familyId : DeviceTokenFamilyId) : Prop :=
  (∀ row ∈ tables.accessTokens, row.token.familyId = familyId → row.token.revokedAt ≠ none) ∧
    ∀ row ∈ tables.refreshTokens, row.token.familyId = familyId → row.token.revokedAt ≠ none

theorem ended_revoked (sound : Sound tables) (ended : Ended tables familyId) : AllRevoked tables familyId := by
  obtain ⟨owner, owns, named, gone⟩ := ended
  have only (other : FamilyRow) (listed : other ∈ tables.families) (same : other.family.id = familyId) :
      other = owner := key_unique (·.family.id) tables.families sound.familyIds other owner listed owns (same.trans named.symm)
  refine ⟨?_, ?_⟩
  · intro row listed family
    obtain ⟨holder, holds, same, _, revoked⟩ := sound.access row listed
    rw [revoked, only holder holds (same.trans family)]
    exact gone
  · intro row listed family
    obtain ⟨holder, holds, same, revoked, _⟩ := sound.refresh row listed
    rw [revoked, only holder holds (same.trans family)]
    exact gone

theorem ended_later (tables next : DeviceTables) (later : Later tables next) (familyId : DeviceTokenFamilyId)
    (ended : Ended tables familyId) : Ended next familyId := by
  obtain ⟨owner, owns, named, gone⟩ := ended
  obtain ⟨owner', owns', same, kept⟩ := later.families owner owns
  exact ⟨owner', owns', same.trans named, kept gone⟩

theorem ended_rejects (sound : Sound tables) (ended : Ended tables familyId)
    (listed : token ∈ tables.refreshTokens) (ofFamily : token.token.familyId = familyId) :
    tables.rotateRefresh token.token.secretDigest replacement = .ok (tables, .rejected) := by
  obtain ⟨_, revoked⟩ := ended_revoked sound ended
  cases joined : tables.joinRefresh token.token.secretDigest with
  | none => simp only [rotateRefresh, joined]
  | some row =>
    have found := join_refresh_some joined
    have same := key_unique (·.token.secretDigest) tables.refreshTokens sound.refreshDigests row.refresh token
      found.refresh listed found.digest
    have gone : row.context.revoked = true := by
      rw [RefreshJoin.context, same]
      exact Option.isSome_iff_ne_none.mpr (revoked token listed ofFamily)
    apply refused_presentation joined
    by_contra accepted
    have open' := ((refuses_iff row.context replacement.issuedAt).mp (by simpa using accepted)).2.2.2.2.1
    rw [gone] at open'
    cases open'

theorem reused_ends (joined : tables.joinRefresh digest = some row)
    (shut : Shut tables next row.device.device.id (some row.family.family.id)) : Ended next row.refresh.token.familyId := by
  have found := join_refresh_some joined
  obtain ⟨new, member, kept⟩ := related_to shut.families found.family
  refine ⟨new, member, kept.same.id.trans found.familyId, ?_⟩
  exact kept.ended.mpr (.inr found.deviceId.symm)

structure SameAttempt (old new : AttemptRow) : Prop where
  refreshTokenId : new.refreshTokenId = old.refreshTokenId
  attemptId : new.attemptId = old.attemptId
  successor : new.successorRefreshTokenId = old.successorRefreshTokenId
  access : new.accessTokenId = old.accessTokenId
  salt : new.replaySalt = none ∨ new.replaySalt = old.replaySalt

theorem drop_salt_same (row : AttemptRow) : SameAttempt row (dropSalt successor row) := by
  obtain ⟨refreshTokenId, attemptId, successorId, access⟩ := drop_salt_keeps successor row
  refine ⟨refreshTokenId, attemptId, successorId, access, ?_⟩
  rw [dropSalt]
  split
  · exact .inl rfl
  · exact .inr rfl

structure RecordedBy (calls : List SessionCall) (attempt : AttemptRow) (digest : SecretDigest)
    (first : DeviceTokenReplacement) (replay : DeviceRefreshReplay) : Prop where
  issued : ∃ before after next session expiresAt, calls = before ++ .refresh digest first :: after ∧
    (empty.runSessions before).rotateRefresh digest first = .ok (next, .rotated session expiresAt)
  asked : first.replay = some replay
  attemptId : attempt.attemptId = replay.attemptId
  salt : attempt.replaySalt = none ∨ attempt.replaySalt = some replay.salt
  old : ∃ row ∈ (empty.runSessions calls).refreshTokens, row.token.id = attempt.refreshTokenId ∧ row.token.secretDigest = digest
  successor : ∃ row ∈ (empty.runSessions calls).refreshTokens, row.token.id = attempt.successorRefreshTokenId ∧
    row.token.secretDigest = first.refreshTokenDigest
  access : ∃ row ∈ (empty.runSessions calls).accessTokens, row.token.id = attempt.accessTokenId ∧
    row.token.secretDigest = first.accessTokenDigest ∧ row.token.expiresAt = first.accessTokenExpiresAt

variable (calls : List SessionCall)

theorem recorded_later (call : SessionCall) (old new : AttemptRow) (digest : SecretDigest)
    (first : DeviceTokenReplacement) (replay : DeviceRefreshReplay) (recorded : RecordedBy calls old digest first replay)
    (later : Later (empty.runSessions calls) (empty.runSessions (calls ++ [call]))) (same : SameAttempt old new) :
    RecordedBy (calls ++ [call]) new digest first replay where
  issued := by
    obtain ⟨before, after, next, session, expiresAt, split, run⟩ := recorded.issued
    exact ⟨before, after ++ [call], next, session, expiresAt, by simp [split], run⟩
  asked := recorded.asked
  attemptId := same.attemptId.trans recorded.attemptId
  salt := by
    rcases same.salt with dropped | kept
    · exact .inl dropped
    · exact kept ▸ recorded.salt
  old := by
    obtain ⟨row, listed, named, presented⟩ := recorded.old
    obtain ⟨row', listed', kept⟩ := later.refresh row listed
    exact ⟨row', listed', by rw [kept.id, named, same.refreshTokenId], kept.digest.trans presented⟩
  successor := by
    obtain ⟨row, listed, named, issued⟩ := recorded.successor
    obtain ⟨row', listed', kept⟩ := later.refresh row listed
    exact ⟨row', listed', by rw [kept.id, named, same.successor], kept.digest.trans issued⟩
  access := by
    obtain ⟨row, listed, named, granted, expiry⟩ := recorded.access
    obtain ⟨row', listed', kept⟩ := later.access row listed
    exact ⟨row', listed', by rw [kept, same.access]; exact named, by rw [kept]; exact granted, by rw [kept]; exact expiry⟩

theorem recorded_now {calls : List SessionCall} {expiresAt : UtcMillis}
    (joined : (empty.runSessions calls).joinRefresh digest = some row)
    (run : (empty.runSessions calls).rotateRefresh digest replacement =
      .ok (empty.runSessions (calls ++ [.refresh digest replacement]), .rotated session expiresAt))
    (rotated : Rotated (empty.runSessions calls) (empty.runSessions (calls ++ [.refresh digest replacement]))
      row.context replacement access refresh) (made : RecordedFor row.context replacement attempt) :
    ∃ replay, RecordedBy (calls ++ [.refresh digest replacement]) attempt digest replacement replay := by
  have found := join_refresh_some joined
  obtain ⟨replay, asked, attemptId, salt⟩ := made.replay
  refine ⟨replay, ?_⟩
  exact {
    issued := ⟨calls, [], _, session, expiresAt, rfl, run⟩
    asked
    attemptId
    salt := .inr salt
    old := by
      obtain ⟨old, listed, kept⟩ := rotated_row_to rotated row.refresh (.inl found.refresh)
      exact ⟨old, listed, kept.id.trans made.refreshTokenId.symm, kept.digest.trans found.digest⟩
    successor := by
      obtain ⟨successor, listed, kept⟩ := rotated_row_to rotated refresh (.inr rfl)
      obtain ⟨issued, _, issuedDigest, _⟩ := rotated.refreshToken
      exact ⟨successor, listed, by rw [kept.id, issued, made.successor], kept.digest.trans issuedDigest⟩
    access := by
      obtain ⟨granted, _, _, grantedDigest, expiry, _⟩ := rotated.accessToken
      refine ⟨access, ?_, granted.trans made.access.symm, grantedDigest, expiry⟩
      rw [rotated.accessTokens]
      exact List.mem_concat_self }

theorem run_empty_sound : Sound (empty.runSessions calls) :=
  run_sound empty sound_empty

theorem run_snoc (call : SessionCall) : empty.runSessions (calls ++ [call]) = (empty.runSessions calls).perform call := by
  rw [run_sessions_append]
  rfl

theorem run_recorded :
    ∀ attempt ∈ (empty.runSessions calls).attempts, ∃ digest first replay, RecordedBy calls attempt digest first replay := by
  induction calls using List.reverseRecOn with
  | nil =>
    intro attempt listed
    cases listed
  | append_singleton calls call ih =>
    intro attempt listed
    have step := perform_step (empty.runSessions calls) (run_empty_sound calls) call
    rw [← run_snoc] at step
    have later := step_later _ _ call step
    have settled (old : AttemptRow) (earlier : old ∈ (empty.runSessions calls).attempts) (same : SameAttempt old attempt) :
        ∃ digest first replay, RecordedBy (calls ++ [call]) attempt digest first replay := by
      obtain ⟨digest, first, replay, recorded⟩ := ih old earlier
      exact ⟨digest, first, replay, recorded_later calls call old attempt digest first replay recorded later same⟩
    have unchanged (same : (empty.runSessions (calls ++ [call])).attempts = (empty.runSessions calls).attempts) :
        ∃ digest first replay, RecordedBy (calls ++ [call]) attempt digest first replay :=
      settled attempt (same ▸ listed) ⟨rfl, rfl, rfl, rfl, .inr rfl⟩
    cases step with
    | same _ _ same => exact unchanged same.attempts
    | revoked _ _ _ _ shut => exact unchanged shut.attempts
    | registered _ _ _ _ _ _ _ _ registered => exact unchanged (registered.attempts.trans registered.shut.attempts)
    | reused _ _ _ _ _ shut => exact unchanged shut.attempts
    | rotated digest replacement _ row joined _ _ session expiresAt run access refresh rotated =>
      rcases rotated_attempts rotated listed with ⟨old, earlier, rfl⟩ | made
      · exact settled old earlier (drop_salt_same old)
      · obtain ⟨replay, recorded⟩ :=
          recorded_now joined run rotated made
        exact ⟨digest, replacement, replay, recorded⟩

end DeviceTables

end AgentRoom
