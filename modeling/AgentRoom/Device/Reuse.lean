import AgentRoom.Device.History

namespace AgentRoom

open Library

namespace DeviceTables

def Live (row : RefreshRow) : Prop := row.token.consumedAt = none ∧ row.token.revokedAt = none

def SingleLive (tables : DeviceTables) : Prop :=
  ∀ first ∈ tables.refreshTokens, ∀ second ∈ tables.refreshTokens,
    first.token.familyId = second.token.familyId → Live first → Live second → first = second

-- From these tables on no token of the family is exchanged again, whatever is called.
def NeverAgain (tables : DeviceTables) (familyId : DeviceTokenFamilyId) : Prop :=
  ∀ calls replacement, ∀ token ∈ (tables.runSessions calls).refreshTokens, token.token.familyId = familyId →
    (tables.runSessions calls).rotateRefresh token.token.secretDigest replacement = .ok (tables.runSessions calls, .rejected)

structure UsedAnswer (tables : DeviceTables) (digest : SecretDigest) (replacement : DeviceTokenReplacement)
    (row : RefreshJoin) : Prop where
  refused : refuses row.context replacement.issuedAt = true → tables.rotateRefresh digest replacement = .ok (tables, .rejected)
  replayed : refuses row.context replacement.issuedAt = false →
    ∀ attempt salt, Replayable tables row.refresh.token.id replacement attempt salt →
      tables.rotateRefresh digest replacement = .ok (tables, replayOutcome row attempt salt)
  reused : refuses row.context replacement.issuedAt = false →
    (∀ attempt salt, ¬ Replayable tables row.refresh.token.id replacement attempt salt) →
      ∀ next outcome, tables.rotateRefresh digest replacement = .ok (next, outcome) →
        outcome = .reuseDetected row.device.device.id row.principal.principal.id ∧
          AllRevoked next row.refresh.token.familyId ∧ NeverAgain next row.refresh.token.familyId
  answered : refuses row.context replacement.issuedAt = false → StampFits tables row.device.device.id replacement.issuedAt →
      ∃ next outcome, tables.rotateRefresh digest replacement = .ok (next, outcome)

def SameReplacement (calls : List SessionCall) (digest : SecretDigest) (again : DeviceTokenReplacement)
    (session : StoredDeviceSession) (salt : DeviceRefreshReplaySalt) (accessDigest refreshDigest : SecretDigest) : Prop :=
  ∃ before first after next given expiresAt replay requested, calls = before ++ .refresh digest first :: after ∧
    (empty.runSessions before).rotateRefresh digest first = .ok (next, .rotated given expiresAt) ∧
    first.replay = some replay ∧ again.replay = some requested ∧ requested.attemptId = replay.attemptId ∧
    salt = replay.salt ∧ accessDigest = first.accessTokenDigest ∧ refreshDigest = first.refreshTokenDigest ∧
    session.accessTokenExpiresAt = first.accessTokenExpiresAt

variable {row : RefreshJoin} {tables : DeviceTables} {digest : SecretDigest}

theorem sound_single_live (sound : Sound tables) : SingleLive tables := by
  intro first listed second listed' same live live'
  have id := sound.single first listed second listed' same live.1 live'.1
  exact key_unique (·.token.id) tables.refreshTokens sound.refreshIds first second listed listed' id

theorem ended_never_again (sound : Sound tables) (ended : Ended tables familyId) : NeverAgain tables familyId := by
  intro calls replacement token listed ofFamily
  have later := ended_later tables _ (run_later tables sound calls) familyId ended
  exact ended_rejects (run_sound tables sound) later listed ofFamily

theorem used_token_answer (sound : Sound tables) (joined : tables.joinRefresh digest = some row)
    (used : row.refresh.token.consumedAt ≠ none) : UsedAnswer tables digest replacement row where
  refused := refused_presentation joined
  replayed := fun accepted => replayable_presentation joined accepted used
  reused := by
    intro accepted unmatched next outcome run
    rw [unmatched_presentation joined accepted used unmatched] at run
    obtain ⟨compromised, compromises, built⟩ := unbind run
    cases built
    have shut := presented_shut sound joined compromises
    have ended := reused_ends joined shut
    have later := shut_sound shut sound
    exact ⟨rfl, ended_revoked later ended, ended_never_again later ended⟩
  answered := by
    intro accepted fits
    by_cases replays : ∃ attempt salt, Replayable tables row.refresh.token.id replacement attempt salt
    · obtain ⟨attempt, salt, replays⟩ := replays
      exact ⟨tables, _, replayable_presentation joined accepted used attempt salt replays⟩
    · have unmatched : ∀ attempt salt, ¬ Replayable tables row.refresh.token.id replacement attempt salt :=
        fun attempt salt found => replays ⟨attempt, salt, found⟩
      have owned : ∀ other ∈ tables.families, other.family.id = row.family.family.id →
          other.family.deviceId = row.device.device.id := by
        intro other listed same
        rw [joined_family sound joined listed same]
        exact (join_refresh_some joined).deviceId.symm
      obtain ⟨next, compromises⟩ := compromise_device_total
        row.family.family.id fits owned
      refine ⟨next, .reuseDetected row.device.device.id row.principal.principal.id, ?_⟩
      rw [unmatched_presentation joined accepted used unmatched, compromises]
      rfl

theorem join_attempt_some {refreshId : DeviceRefreshTokenId} {row : AttemptJoin} (run : tables.joinAttempt refreshId = some row) :
    (row.attempt ∈ tables.attempts ∧ row.attempt.refreshTokenId = refreshId) ∧
      (row.successor ∈ tables.refreshTokens ∧ row.successor.token.id = row.attempt.successorRefreshTokenId) ∧
      row.access ∈ tables.accessTokens ∧ row.access.token.id = row.attempt.accessTokenId := by
  obtain ⟨attempt, recorded, later⟩ := Option.bind_eq_some_iff.mp run
  obtain ⟨successor, succeeds, later⟩ := Option.bind_eq_some_iff.mp later
  obtain ⟨access, grants, built⟩ := Option.bind_eq_some_iff.mp later
  cases built
  exact ⟨⟨List.mem_of_find?_eq_some recorded, by simpa using List.find?_some recorded⟩,
    ⟨List.mem_of_find?_eq_some succeeds, by simpa using List.find?_some succeeds⟩,
    List.mem_of_find?_eq_some grants, by simpa using List.find?_some grants⟩

theorem replayed_same_replacement {again : DeviceTokenReplacement} {attempt : AttemptJoin}
    (joined : (empty.runSessions calls).joinRefresh digest = some row)
    (replays : Replayable (empty.runSessions calls) row.refresh.token.id again attempt salt)
    {session : StoredDeviceSession} (expiry : session.accessTokenExpiresAt = attempt.access.token.expiresAt) :
    SameReplacement calls digest again session salt attempt.access.token.secretDigest
      attempt.successor.token.secretDigest := by
  have sound := run_empty_sound calls
  have found := join_refresh_some joined
  obtain ⟨⟨recorded, ofRow⟩, ⟨succeeds, successorId⟩, grants, accessId⟩ :=
    join_attempt_some replays.recorded
  obtain ⟨digest', first, replay, history⟩ := run_recorded calls attempt.attempt recorded
  obtain ⟨requested, asked, allowed⟩ := replays.allowed
  simp only [replayAllowed, Bool.and_eq_true, decide_eq_true_eq] at allowed
  obtain ⟨old, oldListed, oldId, oldDigest⟩ := history.old
  have presented := key_unique (·.token.id) _ sound.refreshIds old row.refresh oldListed found.refresh (oldId.trans ofRow)
  obtain ⟨successor, listed, named, issued⟩ := history.successor
  have sameSuccessor := key_unique (·.token.id) _ sound.refreshIds successor attempt.successor listed succeeds
    (named.trans successorId.symm)
  obtain ⟨access, listed', named', granted, until'⟩ := history.access
  have sameAccess := key_unique (·.token.id) _ sound.accessIds access attempt.access listed' grants
    (named'.trans accessId.symm)
  subst presented sameSuccessor sameAccess
  obtain rfl : digest' = digest := oldDigest.symm.trans found.digest
  obtain ⟨before, after, next, given, expiresAt, split, run⟩ := history.issued
  have sameSalt : salt = replay.salt := by
    rcases history.salt with dropped | kept
    · cases replays.salted.symm.trans dropped
    · exact Option.some.inj (replays.salted.symm.trans kept)
  exact ⟨before, first, after, next, given, expiresAt, replay, requested, split, run, history.asked, asked,
    allowed.1.1.symm.trans history.attemptId, sameSalt, granted, issued, expiry.trans until'⟩

theorem refresh_families_are_safe (calls : List SessionCall) : SingleLive (empty.runSessions calls) ∧
      (∀ digest replacement row, (empty.runSessions calls).joinRefresh digest = some row →
        row.refresh.token.consumedAt ≠ none → UsedAnswer (empty.runSessions calls) digest replacement row) ∧
      ∀ digest again next session expiresAt salt accessDigest refreshDigest,
        (empty.runSessions calls).rotateRefresh digest again =
          .ok (next, .replayed session expiresAt salt accessDigest refreshDigest) →
        next = empty.runSessions calls ∧
          SameReplacement calls digest again session salt accessDigest refreshDigest := by
  have sound := run_empty_sound calls
  refine ⟨sound_single_live sound, ?_, ?_⟩
  · intro digest replacement row joined used
    exact used_token_answer sound joined used
  · intro digest again next session expiresAt salt accessDigest refreshDigest run
    generalize answer : DeviceRefreshOutcome.replayed session expiresAt salt accessDigest refreshDigest = outcome at run
    cases rotate_refresh_presents run with
    | unknown _ => cases answer
    | refused _ _ _ => cases answer
    | replayed row joined _ _ attempt salt' replays =>
      cases answer
      exact ⟨rfl, replayed_same_replacement joined replays rfl⟩
    | reused _ _ _ _ _ _ _ => cases answer
    | rotated _ _ row joined _ _ rotated =>
      obtain ⟨⟨_, _, rotates⟩, _⟩ := presented_rotated sound joined rotated
      rw [rotates] at answer
      cases answer

def sampleAccount : PrincipalRegistration where
  principal := { id := ⟨1⟩, status := .active }
  oidcIssuer := "issuer"
  oidcSubject := "alice"

def sampleDevice : Device where
  id := ⟨2⟩
  principalId := ⟨1⟩
  publicSigningKey := ⟨7⟩
  trustState := .pending
  lastSeenAt := none
  revokedAt := none
  createdAt := 0

def sampleFamily : DeviceTokenFamily where
  id := ⟨3⟩
  deviceId := ⟨2⟩
  state := .active
  createdAt := 0
  authenticatedAt := none
  expiresAt := 100
  revokedAt := none
  compromiseDetectedAt := none

def sampleSession : DeviceSessionRegistration where
  authorizationTokenDigest := ⟨1⟩
  authorizationReceiptExpiresAt := 50
  family := sampleFamily
  accessTokenId := ⟨10⟩
  accessTokenDigest := ⟨10⟩
  accessTokenExpiresAt := 50
  refreshTokenId := ⟨20⟩
  refreshTokenDigest := ⟨20⟩
  issuedAt := 0

def sampleLifetime : SlidingLifetime := ⟨100, 1000, by decide⟩

def sampleReplacement (index : Nat) (issuedAt expiresAt : UtcMillis) (replay : Option DeviceRefreshReplay) :
    DeviceTokenReplacement where
  accessTokenId := ⟨10 + index⟩
  accessTokenDigest := ⟨10 + index⟩
  accessTokenExpiresAt := expiresAt
  refreshTokenId := ⟨20 + index⟩
  refreshTokenDigest := ⟨20 + index⟩
  issuedAt
  refreshLifetime := sampleLifetime
  replay

def sampleCalls : List SessionCall :=
  [.register sampleAccount sampleDevice sampleSession, .refresh ⟨20⟩ (sampleReplacement 1 ⟨90, by decide⟩ ⟨140, by decide⟩ none)]

def lateReuse : DeviceTokenReplacement := sampleReplacement 2 ⟨120, by decide⟩ ⟨170, by decide⟩ none

-- The family was renewed, the used token was not: past its own expiry its reuse is only rejected.
theorem expired_reuse_ends_nothing : ¬ ∀ calls digest replacement row, (empty.runSessions calls).joinRefresh digest = some row →
      row.refresh.token.consumedAt ≠ none → replacement.replay = none →
        AllRevoked ((empty.runSessions calls).perform (.refresh digest replacement)) row.refresh.token.familyId := by
  intro claimed
  have joined : ∃ row, (empty.runSessions sampleCalls).joinRefresh ⟨20⟩ = some row ∧
      row.refresh.token.consumedAt ≠ none ∧ row.refresh.token.familyId = ⟨3⟩ := ⟨_, rfl, by decide, by decide⟩
  obtain ⟨row, found, used, family⟩ := joined
  have revoked := (claimed sampleCalls ⟨20⟩ lateReuse row found used rfl).2
  rw [family] at revoked
  have still : ∃ token ∈ ((empty.runSessions sampleCalls).perform (.refresh ⟨20⟩ lateReuse)).refreshTokens,
      token.token.familyId = ⟨3⟩ ∧ token.token.revokedAt = none := by decide
  obtain ⟨token, listed, ofFamily, open'⟩ := still
  exact revoked token listed ofFamily open'

-- Its families end, now and whatever is called later.
theorem revoked_device_is_signed_out (calls : List SessionCall)
    (revoked : (empty.runSessions calls).revokeDevice principalId deviceId now = .ok (next, .revoked)) :
    ∀ row ∈ next.families, row.family.deviceId = deviceId → AllRevoked next row.family.id ∧ NeverAgain next row.family.id := by
  intro row listed mine
  unfold revokeDevice at revoked
  split at revoked
  · cases revoked
  · rename_i device found
    have named := (of_decide_eq_true (@List.find?_some _ _ device _ found)).1
    simp only [decode_device_ok] at revoked
    obtain ⟨_, decoded, revoked⟩ := unbind revoked
    cases decoded
    split at revoked
    · cases revoked
    · obtain ⟨_, shuts, revoked⟩ := unbind revoked
      cases revoked
      have shut : Shut _ next deviceId none := named ▸ revoke_device_ok shuts
      have sound := shut_sound shut (run_empty_sound calls)
      obtain ⟨old, _, family⟩ := related_from shut.families listed
      have ended : Ended next row.family.id := ⟨row, listed, rfl, family.ended.mpr (.inr (family.same.device.symm.trans mine))⟩
      exact ⟨ended_revoked sound ended, ended_never_again sound ended⟩

theorem sample_device_is_signed_out : ∃ next, (empty.runSessions sampleCalls).revokeDevice ⟨1⟩ ⟨2⟩ 100 = .ok (next, .revoked) ∧
    ∀ row ∈ next.families, row.family.deviceId = ⟨2⟩ → AllRevoked next row.family.id ∧ NeverAgain next row.family.id := by
  have revoked : (empty.runSessions sampleCalls).revokeDevice ⟨1⟩ ⟨2⟩ 100 = .ok (_, .revoked) := rfl
  exact ⟨_, revoked, revoked_device_is_signed_out sampleCalls revoked⟩

theorem tables_advance (calls more : List SessionCall) : Sound (empty.runSessions calls) ∧
    Later (empty.runSessions calls) ((empty.runSessions calls).runSessions more) :=
  ⟨run_empty_sound calls, run_later _ (run_empty_sound calls) more⟩

end DeviceTables

end AgentRoom
