import AgentRoom.Device.Reuse

namespace AgentRoom

open Library

namespace DeviceTables

def NotCompromised (tables : DeviceTables) (familyId : DeviceTokenFamilyId) : Prop :=
  ∀ row ∈ tables.families, row.family.id = familyId → row.family.state ≠ .compromised

def Unused (tables : DeviceTables) (familyId : DeviceTokenFamilyId) (digest : SecretDigest) : Prop :=
  ∃ row ∈ tables.refreshTokens, row.token.secretDigest = digest ∧ row.token.familyId = familyId ∧ row.token.consumedAt = none

-- A token that this attempt may present: not exchanged yet, or exchanged for this
-- attempt and for nothing that was used since.
def Awaits (tables : DeviceTables) (familyId : DeviceTokenFamilyId) (digest : SecretDigest)
    (attemptId : DeviceRefreshAttemptId) : Prop :=
  ∃ row ∈ tables.refreshTokens, row.token.secretDigest = digest ∧ row.token.familyId = familyId ∧
    (row.token.consumedAt = none ∨ ∃ attempt ∈ tables.attempts, attempt.refreshTokenId = row.token.id ∧
      attempt.attemptId = attemptId ∧ attempt.replaySalt ≠ none)

theorem unused_awaits (unused : Unused tables familyId digest) : Awaits tables familyId digest attemptId := by
  obtain ⟨row, listed, presented, family, fresh⟩ := unused
  exact ⟨row, listed, presented, family, .inl fresh⟩

def Foreign (familyId : DeviceTokenFamilyId) (tables : DeviceTables) (call : SessionCall) : Prop :=
  ∀ token ∈ tables.refreshTokens, token.token.familyId = familyId →
    ∀ replacement, call ≠ .refresh token.token.secretDigest replacement

structure Untouched (tables next : DeviceTables) (familyId : DeviceTokenFamilyId) : Prop where
  refresh : ∀ old ∈ tables.refreshTokens, old.token.familyId = familyId → ∃ new ∈ next.refreshTokens,
    SameToken old new ∧ (old.token.consumedAt = none → new.token.consumedAt = none)
  attempts : ∀ attempt ∈ tables.attempts, ∀ old ∈ tables.refreshTokens, old.token.id = attempt.refreshTokenId →
    old.token.familyId = familyId → attempt ∈ next.attempts
  families : NotCompromised tables familyId → NotCompromised next familyId

theorem same_untouched (same : SameSessions tables next) : Untouched tables next familyId where
  refresh := fun old listed _ => ⟨old, same.refresh ▸ listed, ⟨rfl, rfl, rfl⟩, id⟩
  attempts := fun attempt listed _ _ _ _ => same.attempts ▸ listed
  families := by
    intro safe row listed
    exact safe row (same.families ▸ listed)

theorem shut_untouched {compromised : Option DeviceTokenFamilyId}
    (shut : Shut tables next deviceId compromised) (other : compromised ≠ some familyId) : Untouched tables next familyId where
  refresh := by
    intro old listed _
    obtain ⟨new, member, same, _⟩ := related_to shut.refresh listed
    exact ⟨new, member, ⟨by rw [same], by rw [same], by rw [same]⟩, by rw [same]; exact id⟩
  attempts := fun attempt listed _ _ _ _ => shut.attempts ▸ listed
  families := by
    intro safe new listed named bad
    obtain ⟨old, member, kept⟩ := related_from shut.families listed
    have here : old.family.id = familyId := kept.same.id.symm.trans named
    rcases kept.marked.mp bad with before | ⟨marked, _⟩
    · exact safe old member here before
    · exact other (marked.symm.trans (congrArg some here))

theorem registered_untouched {session : DeviceSessionRegistration} {family : FamilyRow}
    (registered : Registered tables next session device closed family access refresh) : Untouched tables next familyId := by
  have shut : Untouched tables closed familyId := shut_untouched registered.shut (by simp)
  exact {
    refresh := by
      intro old listed ofFamily
      obtain ⟨new, member, kept⟩ := shut.refresh old listed ofFamily
      refine ⟨new, ?_, kept⟩
      rw [registered.refreshTokens]
      exact List.mem_append_left _ member
    attempts := by
      intro attempt listed old member named ofFamily
      rw [registered.attempts]
      exact shut.attempts attempt listed old member named ofFamily
    families := by
      intro safe new listed named bad
      rw [registered.families] at listed
      rcases List.mem_append.mp listed with earlier | last
      · exact shut.families safe new earlier named bad
      · rw [List.mem_singleton.mp last, registered.active] at bad
        cases bad }

theorem rotated_untouched (sound : Sound tables) (rotated : Rotated tables next locked replacement access refresh)
    (listed : presented ∈ tables.refreshTokens) (id : presented.token.id = locked.refreshId)
    (elsewhere : presented.token.familyId ≠ familyId) : Untouched tables next familyId := by
  have other (row : RefreshRow) (member : row ∈ tables.refreshTokens) (ofFamily : row.token.familyId = familyId) :
      row.token.id ≠ locked.refreshId := by
    intro same
    have presents := key_unique (·.token.id) tables.refreshTokens sound.refreshIds row presented member listed
      (same.trans id.symm)
    exact elsewhere (presents ▸ ofFamily)
  have kept (attempt : AttemptRow) (member : attempt ∈ tables.attempts) (old : RefreshRow)
      (oldListed : old ∈ tables.refreshTokens) (named : old.token.id = attempt.refreshTokenId)
      (ofFamily : old.token.familyId = familyId) : dropSalt locked.refreshId attempt = attempt := by
    obtain ⟨old', successor, token, linked⟩ := sound.attempts attempt member
    have same := key_unique (·.token.id) tables.refreshTokens sound.refreshIds old' old linked.oldListed oldListed
      (linked.oldId.trans named.symm)
    have successorFamily : successor.token.familyId = familyId := by rw [linked.successorFamily, same, ofFamily]
    have away := other successor linked.successorListed successorFamily
    rw [dropSalt, if_neg]
    rw [← linked.successorId]
    exact away
  have settled (attempt : AttemptRow) (member : attempt ∈ tables.attempts.map (dropSalt locked.refreshId)) :
      attempt ∈ next.attempts := by
    have recorded := rotated.attempts
    cases asked : replacement.replay with
    | none =>
      rw [asked] at recorded
      exact recorded ▸ member
    | some replay =>
      rw [asked] at recorded
      obtain ⟨made, appended, _⟩ := recorded
      rw [appended]
      exact List.mem_append_left _ member
  exact {
    refresh := by
      intro old member ofFamily
      obtain ⟨new, member', row⟩ := rotated_row_to rotated old (.inl member)
      refine ⟨new, member', ⟨row.id, row.family, row.digest⟩, ?_⟩
      intro unused
      exact row.unused.mpr ⟨unused, other old member ofFamily⟩
    attempts := by
      intro attempt member old oldListed named ofFamily
      apply settled
      rw [← kept attempt member old oldListed named ofFamily]
      exact List.mem_map_of_mem member
    families := by
      intro safe new member named
      obtain ⟨old, member', same, _⟩ := related_from rotated.families member
      rw [same]
      rw [same] at named
      exact safe old member' named }

theorem foreign_untouched (sound : Sound tables) (call : SessionCall) (foreign : Foreign familyId tables call)
    (step : SessionStep tables call next) : Untouched tables next familyId := by
  have elsewhere (digest : SecretDigest) (replacement : DeviceTokenReplacement) (row : RefreshJoin)
      (joined : tables.joinRefresh digest = some row) (presents : call = .refresh digest replacement) :
      row.refresh.token.familyId ≠ familyId := by
    intro mine
    have found := join_refresh_some joined
    apply foreign row.refresh found.refresh mine replacement
    rw [presents, found.digest]
  cases step with
  | same _ _ same => exact same_untouched same
  | revoked _ _ _ _ shut => exact shut_untouched shut (by simp)
  | registered _ _ _ _ _ _ _ _ registered => exact registered_untouched registered
  | reused digest replacement _ row joined shut =>
    apply shut_untouched shut
    intro marked
    have found := join_refresh_some joined
    exact elsewhere digest replacement row joined rfl (found.familyId.symm.trans (Option.some.inj marked))
  | rotated digest replacement _ row joined _ _ _ _ _ _ _ rotated =>
    have found := join_refresh_some joined
    exact rotated_untouched sound rotated found.refresh rfl (elsewhere digest replacement row joined rfl)

theorem unused_untouched (untouched : Untouched tables next familyId)
    (unused : Unused tables familyId digest) : Unused next familyId digest := by
  obtain ⟨old, listed, presented, ofFamily, fresh⟩ := unused
  obtain ⟨new, member, kept, still⟩ := untouched.refresh old listed ofFamily
  exact ⟨new, member, kept.digest.trans presented, kept.family.trans ofFamily, still fresh⟩

theorem awaits_untouched (untouched : Untouched tables next familyId) (awaits : Awaits tables familyId digest attemptId) :
    Awaits next familyId digest attemptId := by
  obtain ⟨old, listed, presented, ofFamily, either⟩ := awaits
  obtain ⟨new, member, kept, still⟩ := untouched.refresh old listed ofFamily
  refine ⟨new, member, kept.digest.trans presented, kept.family.trans ofFamily, ?_⟩
  rcases either with fresh | ⟨attempt, recorded, named, same, salted⟩
  · exact .inl (still fresh)
  · have stays := untouched.attempts attempt recorded old listed named.symm ofFamily
    exact .inr ⟨attempt, stays, named.trans kept.id.symm, same, salted⟩

section

variable {tables : DeviceTables} {familyId : DeviceTokenFamilyId} {digest : SecretDigest}
  {attemptId : DeviceRefreshAttemptId} {replacement : DeviceTokenReplacement}

theorem linked_join (sound : Sound tables) (recorded : attempt ∈ tables.attempts)
    (linked : Linked tables attempt old successor access) :
    tables.joinAttempt attempt.refreshTokenId = some { attempt, successor, access } := by
  have first := find_key sound.attemptIds attempt recorded
  have second := find_key sound.refreshIds successor linked.successorListed
  have third := find_key sound.accessIds access linked.accessListed
  rw [linked.successorId] at second
  rw [linked.accessId] at third
  rw [joinAttempt, first]
  simp only [Option.bind_eq_bind, Option.bind_some]
  rw [second]
  simp only [Option.bind_some]
  rw [third]
  rfl

theorem awaited_replays (sound : Sound tables) (joined : tables.joinRefresh digest = some row)
    (accepted : refuses row.context replacement.issuedAt = false) (recorded : attempt ∈ tables.attempts)
    (named : attempt.refreshTokenId = row.refresh.token.id) (same : attempt.attemptId = attemptId)
    (salted : attempt.replaySalt ≠ none) (asked : replacement.replay = some requested) (mine : requested.attemptId = attemptId) :
    ∃ found salt, Replayable tables row.refresh.token.id replacement found salt := by
  obtain ⟨old, successor, access, linked⟩ := sound.attempts attempt recorded
  have found := join_refresh_some joined
  have presented := key_unique (·.token.id) tables.refreshTokens sound.refreshIds old row.refresh linked.oldListed
    found.refresh (linked.oldId.trans named)
  obtain ⟨_, _, active, until', _, _⟩ := (refuses_iff row.context replacement.issuedAt).mp accepted
  have owner (holder : FamilyRow) (holds : holder ∈ tables.families)
      (ofFamily : holder.family.id = row.refresh.token.familyId) : holder = row.family :=
    joined_family sound joined holds (ofFamily.trans found.familyId.symm)
  obtain ⟨holder, holds, ofFamily, revoked, expiry⟩ := sound.refresh successor linked.successorListed
  have sameHolder := owner holder holds (by rw [ofFamily, linked.successorFamily, presented])
  obtain ⟨keeper, keeps, ofFamily', _, revoked'⟩ := sound.access access linked.accessListed
  have sameKeeper := owner keeper keeps (by rw [ofFamily', linked.accessFamily, presented])
  subst sameHolder sameKeeper
  have unused := linked.current salted
  have open' : successor.token.revokedAt = none := by
    by_contra gone
    exact revoked.mp gone active
  have openAccess : access.token.revokedAt = none := by
    by_contra gone
    exact revoked'.mp gone active
  have current : replacement.issuedAt < successor.token.expiresAt := by
    rw [expiry unused active]
    exact until'
  obtain ⟨salt, salted'⟩ := Option.ne_none_iff_exists'.mp salted
  refine ⟨{ attempt, successor, access }, salt, ?_⟩
  exact {
    recorded := named ▸ linked_join sound recorded linked
    salted := salted'
    allowed := ⟨requested, asked, by simp [replayAllowed, successorCurrent, same, mine, unused, open', openAccess, current]⟩ }

def Successor (tables : DeviceTables) (familyId : DeviceTokenFamilyId) (digest other : SecretDigest) : Prop :=
  Unused tables familyId other ∧ other ≠ digest

structure Harmless (tables next : DeviceTables) (familyId : DeviceTokenFamilyId) (digest : SecretDigest)
    (attemptId : DeviceRefreshAttemptId) (replacement : DeviceTokenReplacement) (outcome : DeviceRefreshOutcome) : Prop where
  quiet : ∀ deviceId principalId, outcome ≠ .reuseDetected deviceId principalId
  safe : NotCompromised next familyId
  awaits : Awaits next familyId digest attemptId
  keeps : ∀ other, Successor tables familyId digest other → Successor next familyId digest other
  rotated : ∀ session expiresAt, outcome = .rotated session expiresAt →
    Successor next familyId digest replacement.refreshTokenDigest
  replayed : ∀ session expiresAt salt accessDigest refreshDigest,
    outcome = .replayed session expiresAt salt accessDigest refreshDigest → Successor next familyId digest refreshDigest

theorem rejected_harmless (safe : NotCompromised tables familyId) (awaits : Awaits tables familyId digest attemptId) :
    Harmless tables tables familyId digest attemptId replacement .rejected where
  quiet := by simp
  safe := safe
  awaits := awaits
  keeps := fun _ => id
  rotated := by simp
  replayed := by simp

theorem replayed_harmless (sound : Sound tables) (safe : NotCompromised tables familyId)
    (awaits : Awaits tables familyId digest attemptId) (joined : tables.joinRefresh digest = some row)
    (ofFamily : row.refresh.token.familyId = familyId) {attempt : AttemptJoin}
    (replays : Replayable tables row.refresh.token.id replacement attempt salt) :
    Harmless tables tables familyId digest attemptId replacement (replayOutcome row attempt salt) where
  quiet := by simp [replayOutcome]
  safe := safe
  awaits := awaits
  keeps := fun _ => id
  rotated := by simp [replayOutcome]
  replayed := by
    intro session expiresAt salt' accessDigest refreshDigest answer
    cases answer
    obtain ⟨⟨recorded, ofRow⟩, ⟨succeeds, successorId⟩, _⟩ :=
      join_attempt_some replays.recorded
    obtain ⟨old, successor, access, linked⟩ := sound.attempts attempt.attempt recorded
    have found := join_refresh_some joined
    have presented := key_unique (·.token.id) tables.refreshTokens sound.refreshIds old row.refresh linked.oldListed
      found.refresh (linked.oldId.trans ofRow)
    have same := key_unique (·.token.id) tables.refreshTokens sound.refreshIds successor attempt.successor
      linked.successorListed succeeds (linked.successorId.trans successorId.symm)
    subst presented same
    have salted : attempt.attempt.replaySalt ≠ none := by
      rw [replays.salted]
      simp
    have unused := linked.current salted
    refine ⟨⟨attempt.successor, succeeds, rfl, linked.successorFamily.trans ofFamily, unused⟩, ?_⟩
    intro digests
    have rows := key_unique (·.token.secretDigest) tables.refreshTokens sound.refreshDigests attempt.successor row.refresh
      succeeds found.refresh (digests.trans found.digest.symm)
    rw [rows] at unused
    exact linked.consumed unused

theorem rotated_harmless (sound : Sound tables) (unused : row.refresh.token.consumedAt = none)
    (safe : NotCompromised tables familyId) (joined : tables.joinRefresh digest = some row)
    (ofFamily : row.refresh.token.familyId = familyId) (rotated : Rotated tables next row.context replacement access refresh)
    (asked : replacement.replay = some requested) (mine : requested.attemptId = attemptId) :
    Harmless tables next familyId digest attemptId replacement (.rotated session expiresAt) where
  quiet := by simp
  safe := by
    intro new member named
    obtain ⟨old, member', same, _⟩ := related_from rotated.families member
    rw [same] at named ⊢
    exact safe old member' named
  awaits := by
    have found := join_refresh_some joined
    obtain ⟨new, member, kept⟩ := rotated_row_to rotated row.refresh (.inl found.refresh)
    have recorded := rotated.attempts
    rw [asked] at recorded
    obtain ⟨attempt, appended, _, ofPresented, sameAttempt, _, _, salted⟩ := recorded
    refine ⟨new, member, kept.digest.trans found.digest, kept.family.trans ofFamily, .inr ⟨attempt, ?_, ?_, ?_, ?_⟩⟩
    · rw [appended]
      exact List.mem_concat_self
    · rw [ofPresented, kept.id]
      rfl
    · rw [sameAttempt, mine]
    · simp [salted]
  keeps := by
    intro other successor
    obtain ⟨⟨kept, listed, presented, family, fresh⟩, different⟩ := successor
    have found := join_refresh_some joined
    have sameFamily : kept.token.familyId = row.refresh.token.familyId := family.trans ofFamily.symm
    have id := sound.single kept listed row.refresh found.refresh sameFamily fresh unused
    have same := key_unique (·.token.id) tables.refreshTokens sound.refreshIds kept row.refresh listed found.refresh id
    subst same
    exact (different (presented.symm.trans found.digest)).elim
  rotated := by
    intro _ _ _
    have found := join_refresh_some joined
    obtain ⟨new, member, kept⟩ := rotated_row_to rotated refresh (.inr rfl)
    obtain ⟨_, family, issued, issuedUnused, _⟩ := rotated.refreshToken
    obtain ⟨id, digests⟩ := rotated.freshRefresh row.refresh found.refresh
    refine ⟨⟨new, member, kept.digest.trans issued, ?_, ?_⟩, ?_⟩
    · rw [kept.family, family]
      exact found.familyId.trans ofFamily
    · exact kept.unused.mpr ⟨issuedUnused, fun same => id same.symm⟩
    · intro same
      exact digests (by rw [found.digest, issued, same])
  replayed := by simp

theorem awaited_presentation (sound : Sound tables) (safe : NotCompromised tables familyId)
    (awaits : Awaits tables familyId digest attemptId)
    (asked : replacement.replay = some requested) (mine : requested.attemptId = attemptId) {next : DeviceTables}
    (run : tables.rotateRefresh digest replacement = .ok (next, outcome)) :
    Harmless tables next familyId digest attemptId replacement outcome := by
  obtain ⟨token, listed, presented, family, either⟩ := awaits
  have again : Awaits tables familyId digest attemptId := ⟨token, listed, presented, family, either⟩
  have same (row : RefreshJoin) (joined : tables.joinRefresh digest = some row) : token = row.refresh := by
    have found := join_refresh_some joined
    exact key_unique (·.token.secretDigest) tables.refreshTokens sound.refreshDigests token row.refresh listed
      found.refresh (presented.trans found.digest.symm)
  cases rotate_refresh_presents run with
  | unknown _ => exact rejected_harmless safe again
  | refused _ _ _ => exact rejected_harmless safe again
  | replayed row joined _ _ attempt salt replays =>
    exact replayed_harmless sound safe again joined (same row joined ▸ family) replays
  | reused _ row joined accepted used unmatched _ =>
    have this := same row joined
    subst this
    rcases either with fresh | ⟨attempt, recorded, named, sameAttempt, salted⟩
    · exact (used fresh).elim
    · obtain ⟨found, salt, replays⟩ := awaited_replays sound joined accepted recorded named sameAttempt salted asked mine
      exact (unmatched found salt replays).elim
  | rotated _ _ row joined accepted unused rotated =>
    obtain ⟨⟨session, expiresAt, rfl⟩, access, refresh, moved⟩ :=
      presented_rotated sound joined rotated
    exact rotated_harmless sound unused safe joined (same row joined ▸ family) moved asked mine

end

end DeviceTables

end AgentRoom
