import AgentRoom.Device.Specs

namespace AgentRoom

open Library

namespace DeviceTables

def RefreshOwned (families : List FamilyRow) (row : RefreshRow) : Prop :=
  ∃ owner ∈ families, owner.family.id = row.token.familyId ∧ (row.token.revokedAt ≠ none ↔ owner.family.state ≠ .active) ∧
    (row.token.consumedAt = none → owner.family.state = .active → row.token.expiresAt = owner.family.expiresAt)

def AccessOwned (families : List FamilyRow) (row : AccessRow) : Prop :=
  ∃ owner ∈ families, owner.family.id = row.token.familyId ∧ owner.family.deviceId = row.token.deviceId ∧
    (row.token.revokedAt ≠ none ↔ owner.family.state ≠ .active)

-- What a recorded attempt refers to. Its salt is gone once its successor is used up.
structure Linked (tables : DeviceTables) (attempt : AttemptRow) (old successor : RefreshRow) (access : AccessRow) : Prop where
  oldListed : old ∈ tables.refreshTokens
  successorListed : successor ∈ tables.refreshTokens
  accessListed : access ∈ tables.accessTokens
  oldId : old.token.id = attempt.refreshTokenId
  successorId : successor.token.id = attempt.successorRefreshTokenId
  accessId : access.token.id = attempt.accessTokenId
  successorFamily : successor.token.familyId = old.token.familyId
  accessFamily : access.token.familyId = old.token.familyId
  consumed : old.token.consumedAt ≠ none
  current : attempt.replaySalt ≠ none → successor.token.consumedAt = none

structure Sound (tables : DeviceTables) : Prop where
  familyIds : (tables.families.map (·.family.id)).Nodup
  accessIds : (tables.accessTokens.map (·.token.id)).Nodup
  accessDigests : (tables.accessTokens.map (·.token.secretDigest)).Nodup
  refreshIds : (tables.refreshTokens.map (·.token.id)).Nodup
  refreshDigests : (tables.refreshTokens.map (·.token.secretDigest)).Nodup
  attemptIds : (tables.attempts.map (·.refreshTokenId)).Nodup
  refresh : ∀ row ∈ tables.refreshTokens, RefreshOwned tables.families row
  access : ∀ row ∈ tables.accessTokens, AccessOwned tables.families row
  single : ∀ first ∈ tables.refreshTokens, ∀ second ∈ tables.refreshTokens,
    first.token.familyId = second.token.familyId → first.token.consumedAt = none → second.token.consumedAt = none →
      first.token.id = second.token.id
  attempts : ∀ attempt ∈ tables.attempts, ∃ old successor access, Linked tables attempt old successor access

theorem sound_empty : Sound empty where
  familyIds := List.nodup_nil
  accessIds := List.nodup_nil
  accessDigests := List.nodup_nil
  refreshIds := List.nodup_nil
  refreshDigests := List.nodup_nil
  attemptIds := List.nodup_nil
  refresh := fun _ listed => nomatch listed
  access := fun _ listed => nomatch listed
  single := fun _ listed => nomatch listed
  attempts := fun _ listed => nomatch listed

theorem same_sessions_sound (same : SameSessions tables next) (sound : Sound tables) : Sound next where
  familyIds := same.families ▸ sound.familyIds
  accessIds := same.access ▸ sound.accessIds
  accessDigests := same.access ▸ sound.accessDigests
  refreshIds := same.refresh ▸ sound.refreshIds
  refreshDigests := same.refresh ▸ sound.refreshDigests
  attemptIds := same.attempts ▸ sound.attemptIds
  refresh := by
    rw [same.refresh, same.families]
    exact sound.refresh
  access := by
    rw [same.access, same.families]
    exact sound.access
  single := by
    rw [same.refresh]
    exact sound.single
  attempts := by
    rw [same.attempts]
    intro attempt listed
    obtain ⟨old, successor, access, linked⟩ := sound.attempts attempt listed
    refine ⟨old, successor, access, ?_⟩
    exact { linked with
      oldListed := same.refresh ▸ linked.oldListed
      successorListed := same.refresh ▸ linked.successorListed
      accessListed := same.access ▸ linked.accessListed }

theorem of_device_iff {families : List FamilyRow} (distinct : (families.map (·.family.id)).Nodup)
    (listed : owner ∈ families) (deviceId : DeviceId) (row : RefreshRow) (owns : owner.family.id = row.token.familyId) :
    ofDevice families deviceId row = true ↔ owner.family.deviceId = deviceId := by
  simp only [ofDevice, List.any_eq_true, decide_eq_true_eq]
  constructor
  · rintro ⟨other, member, named, onDevice⟩
    have same := key_unique (·.family.id) families distinct other owner member listed (named.trans owns.symm)
    exact same ▸ onDevice
  · intro onDevice
    exact ⟨owner, listed, owns, onDevice⟩

section

variable {tables next : DeviceTables} {deviceId : DeviceId} {compromised : Option DeviceTokenFamilyId}

section

variable (shut : Shut tables next deviceId compromised)
include shut

theorem shut_refresh_owned (sound : Sound tables) (new : RefreshRow)
    (listed : new ∈ next.refreshTokens) : RefreshOwned next.families new := by
  obtain ⟨old, member, same, revoked⟩ := related_from shut.refresh listed
  obtain ⟨owner, owns, named, ended, expiry⟩ := sound.refresh old member
  obtain ⟨owner', owns', kept⟩ := related_to shut.families owns
  have onDevice := of_device_iff sound.familyIds owns deviceId old named
  refine ⟨owner', owns', ?_, ?_, ?_⟩
  · rw [kept.same.id, same]
    exact named
  · rw [revoked, kept.ended, onDevice, ended]
  · intro unused active
    have before : owner.family.state = .active := by
      by_contra gone
      exact kept.ended.mpr (.inl gone) active
    rw [same] at unused ⊢
    rw [kept.same.expiry]
    exact expiry unused before

theorem shut_access_owned (sound : Sound tables) (new : AccessRow)
    (listed : new ∈ next.accessTokens) : AccessOwned next.families new := by
  obtain ⟨old, member, same, revoked⟩ := related_from shut.access listed
  obtain ⟨owner, owns, named, onDevice, ended⟩ := sound.access old member
  obtain ⟨owner', owns', kept⟩ := related_to shut.families owns
  refine ⟨owner', owns', ?_, ?_, ?_⟩
  · rw [kept.same.id, same]
    exact named
  · rw [kept.same.device, same]
    exact onDevice
  · rw [revoked, kept.ended, ended, onDevice]

theorem shut_linked (linked : Linked tables attempt old successor access) :
    ∃ old successor access, Linked next attempt old successor access := by
  obtain ⟨old', oldListed, oldSame, _⟩ := related_to shut.refresh linked.oldListed
  obtain ⟨successor', successorListed, successorSame, _⟩ := related_to shut.refresh linked.successorListed
  obtain ⟨access', accessListed, accessSame, _⟩ := related_to shut.access linked.accessListed
  refine ⟨old', successor', access', ?_⟩
  exact {
    oldListed
    successorListed
    accessListed
    oldId := by rw [oldSame, linked.oldId]
    successorId := by rw [successorSame, linked.successorId]
    accessId := by rw [accessSame, linked.accessId]
    successorFamily := by rw [oldSame, successorSame, linked.successorFamily]
    accessFamily := by rw [oldSame, accessSame, linked.accessFamily]
    consumed := by
      rw [oldSame]
      exact linked.consumed
    current := by
      rw [successorSame]
      exact linked.current }

theorem shut_sound (sound : Sound tables) : Sound next where
  familyIds := by
    rw [related_column (·.family.id) (fun _ _ kept => kept.same.id) shut.families]
    exact sound.familyIds
  accessIds := by
    rw [related_column (·.token.id) (fun old new kept => by rw [kept.1]) shut.access]
    exact sound.accessIds
  accessDigests := by
    rw [related_column (·.token.secretDigest) (fun old new kept => by rw [kept.1]) shut.access]
    exact sound.accessDigests
  refreshIds := by
    rw [related_column (·.token.id) (fun old new kept => by rw [kept.1]) shut.refresh]
    exact sound.refreshIds
  refreshDigests := by
    rw [related_column (·.token.secretDigest) (fun old new kept => by rw [kept.1]) shut.refresh]
    exact sound.refreshDigests
  attemptIds := shut.attempts ▸ sound.attemptIds
  refresh := shut_refresh_owned shut sound
  access := shut_access_owned shut sound
  single := by
    intro first listed second listed' family unused unused'
    obtain ⟨old, member, same, _⟩ := related_from shut.refresh listed
    obtain ⟨old', member', same', _⟩ := related_from shut.refresh listed'
    rw [same] at family unused ⊢
    rw [same'] at family unused' ⊢
    exact sound.single old member old' member' family unused unused'
  attempts := by
    rw [shut.attempts]
    intro attempt listed
    obtain ⟨old, successor, access, linked⟩ := sound.attempts attempt listed
    exact shut_linked shut linked

end

end

section

variable {tables next closed : DeviceTables} {session : DeviceSessionRegistration} {device : Device}
  {family : FamilyRow} {access : AccessRow} {refresh : RefreshRow}

variable {more families : List FamilyRow}

theorem refresh_owned_append (owned : RefreshOwned families row) : RefreshOwned (families ++ more) row := by
  obtain ⟨owner, listed, rest⟩ := owned
  exact ⟨owner, List.mem_append_left _ listed, rest⟩

theorem access_owned_append (owned : AccessOwned families row) : AccessOwned (families ++ more) row := by
  obtain ⟨owner, listed, rest⟩ := owned
  exact ⟨owner, List.mem_append_left _ listed, rest⟩

theorem registered_single (registered : Registered tables next session device closed family access refresh)
    (sound : Sound closed) (listed : old ∈ closed.refreshTokens) : old.token.familyId ≠ refresh.token.familyId := by
  obtain ⟨owner, owns, named, _⟩ := sound.refresh old listed
  obtain ⟨_, ofFamily, _⟩ := registered.refreshToken
  rw [ofFamily, ← named]
  exact registered.freshFamily owner owns

theorem registered_sound (registered : Registered tables next session device closed family access refresh)
    (before : Sound tables) : Sound next := by
  have sound := shut_sound registered.shut before
  obtain ⟨_, accessFamily, accessDevice, _, accessOpen⟩ := registered.accessToken
  obtain ⟨_, refreshFamily, _, refreshUnused, refreshOpen, refreshExpiry⟩ := registered.refreshToken
  have owns : family ∈ closed.families ++ [family] := List.mem_concat_self
  exact {
    familyIds := by
      rw [registered.families]
      exact keys_append sound.familyIds registered.freshFamily
    accessIds := by
      rw [registered.accessTokens]
      exact keys_append sound.accessIds fun old listed => (registered.freshAccess old listed).1
    accessDigests := by
      rw [registered.accessTokens]
      exact keys_append sound.accessDigests fun old listed => (registered.freshAccess old listed).2
    refreshIds := by
      rw [registered.refreshTokens]
      exact keys_append sound.refreshIds fun old listed => (registered.freshRefresh old listed).1
    refreshDigests := by
      rw [registered.refreshTokens]
      exact keys_append sound.refreshDigests fun old listed => (registered.freshRefresh old listed).2
    attemptIds := registered.attempts ▸ sound.attemptIds
    refresh := by
      rw [registered.refreshTokens, registered.families]
      intro row listed
      rcases List.mem_append.mp listed with earlier | last
      · exact refresh_owned_append (sound.refresh row earlier)
      · obtain rfl := List.mem_singleton.mp last
        refine ⟨family, owns, refreshFamily.symm, ?_, fun _ _ => refreshExpiry⟩
        simp [refreshOpen, registered.active]
    access := by
      rw [registered.accessTokens, registered.families]
      intro row listed
      rcases List.mem_append.mp listed with earlier | last
      · exact access_owned_append (sound.access row earlier)
      · obtain rfl := List.mem_singleton.mp last
        refine ⟨family, owns, accessFamily.symm, registered.familyDevice.trans accessDevice.symm, ?_⟩
        simp [accessOpen, registered.active]
    single := by
      rw [registered.refreshTokens]
      intro first listed second listed' same unused unused'
      rcases List.mem_append.mp listed with earlier | last
      · rcases List.mem_append.mp listed' with earlier' | last'
        · exact sound.single first earlier second earlier' same unused unused'
        · obtain rfl := List.mem_singleton.mp last'
          exact (registered_single registered sound earlier same).elim
      · obtain rfl := List.mem_singleton.mp last
        rcases List.mem_append.mp listed' with earlier' | last'
        · exact (registered_single registered sound earlier' same.symm).elim
        · rw [List.mem_singleton.mp last']
    attempts := by
      rw [registered.attempts]
      intro attempt listed
      obtain ⟨old, successor, token, linked⟩ := sound.attempts attempt listed
      refine ⟨old, successor, token, ?_⟩
      exact { linked with
        oldListed := by
          rw [registered.refreshTokens]
          exact List.mem_append_left _ linked.oldListed
        successorListed := by
          rw [registered.refreshTokens]
          exact List.mem_append_left _ linked.successorListed
        accessListed := by
          rw [registered.accessTokens]
          exact List.mem_append_left _ linked.accessListed } }

end

structure RefreshKept (presented : DeviceRefreshTokenId) (old new : RefreshRow) : Prop where
  id : new.token.id = old.token.id
  family : new.token.familyId = old.token.familyId
  digest : new.token.secretDigest = old.token.secretDigest
  expiry : new.token.expiresAt = old.token.expiresAt
  revoked : new.token.revokedAt = old.token.revokedAt
  unused : new.token.consumedAt = none ↔ old.token.consumedAt = none ∧ old.token.id ≠ presented

theorem refresh_consumed_kept (consumed : RefreshConsumed presented successor at' old new) : RefreshKept presented old new := by
  rw [RefreshConsumed] at consumed
  by_cases hits : old.token.id = presented ∧ old.token.consumedAt = none
  · rw [if_pos hits] at consumed
    exact ⟨by rw [consumed], by rw [consumed], by rw [consumed], by rw [consumed], by rw [consumed], by simp [consumed, hits.1]⟩
  · rw [if_neg hits] at consumed
    refine ⟨by rw [consumed], by rw [consumed], by rw [consumed], by rw [consumed], by rw [consumed], ?_⟩
    rw [consumed]
    exact ⟨fun unused => ⟨unused, fun mine => hits ⟨mine, unused⟩⟩, And.left⟩

structure Presented (tables : DeviceTables) (locked : LockedRefreshContext) (row : RefreshRow) (owner : FamilyRow) : Prop where
  listed : row ∈ tables.refreshTokens
  owns : owner ∈ tables.families
  id : row.token.id = locked.refreshId
  familyId : row.token.familyId = locked.family.id
  family : owner.family = locked.family
  device : locked.device.id = locked.family.deviceId
  unused : row.token.consumedAt = none
  active : locked.family.state = .active

section

variable {tables next : DeviceTables} {locked : LockedRefreshContext} {replacement : DeviceTokenReplacement}
  {access : AccessRow} {refresh presented : RefreshRow} {owner : FamilyRow}

theorem drop_salt_kept (salted : (dropSalt successor row).replaySalt ≠ none) :
    row.successorRefreshTokenId ≠ successor ∧ row.replaySalt ≠ none := by
  by_cases hits : row.successorRefreshTokenId = successor
  · rw [dropSalt, if_pos hits] at salted
    exact (salted rfl).elim
  · rw [dropSalt, if_neg hits] at salted
    exact ⟨hits, salted⟩

theorem settled_keys (successor : DeviceRefreshTokenId) (rows : List AttemptRow) :
    (rows.map (dropSalt successor)).map (·.refreshTokenId) = rows.map (·.refreshTokenId) := by
  rw [List.map_map]
  apply List.map_congr_left
  intro row _
  exact (drop_salt_keeps successor row).1

variable {attempt : AttemptRow} (rotated : Rotated tables next locked replacement access refresh)
include rotated

theorem rotated_row (listed : new ∈ next.refreshTokens) :
    ∃ old, (old ∈ tables.refreshTokens ∨ old = refresh) ∧ RefreshKept locked.refreshId old new := by
  obtain ⟨old, member, consumed⟩ := related_from rotated.refreshTokens listed
  have kept := refresh_consumed_kept consumed
  rcases List.mem_append.mp member with earlier | last
  · exact ⟨old, .inl earlier, kept⟩
  · exact ⟨old, .inr (List.mem_singleton.mp last), kept⟩

theorem rotated_row_to (old : RefreshRow) (member : old ∈ tables.refreshTokens ∨ old = refresh) :
    ∃ new ∈ next.refreshTokens, RefreshKept locked.refreshId old new := by
  have listed : old ∈ tables.refreshTokens ++ [refresh] := by
    rcases member with earlier | last
    · exact List.mem_append_left _ earlier
    · exact List.mem_append_right _ (List.mem_singleton.mpr last)
  obtain ⟨new, member', consumed⟩ := related_to rotated.refreshTokens listed
  exact ⟨new, member', refresh_consumed_kept consumed⟩

theorem rotated_refresh_owned (sound : Sound tables)
    (found : Presented tables locked presented owner) (new : RefreshRow) (listed : new ∈ next.refreshTokens) :
    RefreshOwned next.families new := by
  obtain ⟨old, member, kept⟩ := rotated_row rotated listed
  rcases member with earlier | last
  · obtain ⟨holder, owns, named, ended, expiry⟩ := sound.refresh old earlier
    obtain ⟨holder', owns', same, elsewhere, _⟩ := related_to rotated.families owns
    have id : holder'.family.id = holder.family.id := by rw [same]
    have state : holder'.family.state = holder.family.state := by rw [same]
    refine ⟨holder', owns', ?_, ?_, ?_⟩
    · rw [id, kept.family]
      exact named
    · rw [state, kept.revoked]
      exact ended
    · intro unused active
      obtain ⟨still, other⟩ := kept.unused.mp unused
      rw [state] at active
      have notHere : holder.family.id ≠ locked.family.id := by
        intro here
        have sameFamily : old.token.familyId = presented.token.familyId := by rw [← named, here, found.familyId]
        have sameId := sound.single old earlier presented found.listed sameFamily still found.unused
        exact other (sameId.trans found.id)
      rw [kept.expiry, elsewhere notHere]
      exact expiry still active
  · subst last
    obtain ⟨owner', owns', same, _, renewed⟩ := related_to rotated.families found.owns
    obtain ⟨_, family, _, _, live⟩ := rotated.refreshToken
    have id : owner'.family.id = locked.family.id := by rw [same, found.family]
    have state : owner'.family.state = .active := by rw [same, found.family, found.active]
    refine ⟨owner', owns', ?_, ?_, ?_⟩
    · rw [id, kept.family, family]
    · simp [kept.revoked, live, state]
    · intro _ _
      rw [kept.expiry, renewed (by rw [found.family]) (by rw [found.family, found.active])]

theorem rotated_access_owned (sound : Sound tables)
    (found : Presented tables locked presented owner) (new : AccessRow) (listed : new ∈ next.accessTokens) :
    AccessOwned next.families new := by
  rw [rotated.accessTokens] at listed
  rcases List.mem_append.mp listed with earlier | last
  · obtain ⟨holder, owns, named, onDevice, ended⟩ := sound.access new earlier
    obtain ⟨holder', owns', same, _⟩ := related_to rotated.families owns
    exact ⟨holder', owns', by rw [same]; exact named, by rw [same]; exact onDevice, by rw [same]; exact ended⟩
  · obtain rfl := List.mem_singleton.mp last
    obtain ⟨owner', owns', same, _⟩ := related_to rotated.families found.owns
    obtain ⟨_, family, device, _, _, live⟩ := rotated.accessToken
    have state : owner'.family.state = .active := by rw [same, found.family, found.active]
    refine ⟨owner', owns', ?_, ?_, ?_⟩
    · rw [same, family, found.family]
    · rw [same, device, found.device, found.family]
    · simp [state, live]

theorem rotated_single (sound : Sound tables)
    (found : Presented tables locked presented owner) (listed : first ∈ next.refreshTokens)
    (listed' : second ∈ next.refreshTokens) (same : first.token.familyId = second.token.familyId)
    (unused : first.token.consumedAt = none) (unused' : second.token.consumedAt = none) : first.token.id = second.token.id := by
  obtain ⟨old, member, kept⟩ := rotated_row rotated listed
  obtain ⟨old', member', kept'⟩ := rotated_row rotated listed'
  obtain ⟨still, other⟩ := kept.unused.mp unused
  obtain ⟨still', other'⟩ := kept'.unused.mp unused'
  have sameFamily : old.token.familyId = old'.token.familyId := by rw [← kept.family, ← kept'.family, same]
  have onlyPresented (row : RefreshRow) (earlier : row ∈ tables.refreshTokens) (open' : row.token.consumedAt = none)
      (family : row.token.familyId = refresh.token.familyId) : row.token.id = locked.refreshId := by
    have here : row.token.familyId = presented.token.familyId := by
      rw [family, rotated.refreshToken.2.1, found.familyId]
    exact (sound.single row earlier presented found.listed here open' found.unused).trans found.id
  rw [kept.id, kept'.id]
  rcases member with earlier | rfl
  · rcases member' with earlier' | rfl
    · exact sound.single old earlier old' earlier' sameFamily still still'
    · exact (other (onlyPresented old earlier still sameFamily)).elim
  · rcases member' with earlier' | rfl
    · exact (other' (onlyPresented old' earlier' still' sameFamily.symm)).elim
    · rfl

theorem rotated_linked (linked : Linked tables attempt old successor token) :
    ∃ old successor token, Linked next (dropSalt locked.refreshId attempt) old successor token := by
  obtain ⟨old', oldListed, oldKept⟩ := rotated_row_to rotated old (.inl linked.oldListed)
  obtain ⟨successor', successorListed, successorKept⟩ :=
    rotated_row_to rotated successor (.inl linked.successorListed)
  obtain ⟨refreshId, _, successorId, accessId⟩ := drop_salt_keeps locked.refreshId attempt
  refine ⟨old', successor', token, ?_⟩
  exact {
    oldListed
    successorListed
    accessListed := by
      rw [rotated.accessTokens]
      exact List.mem_append_left _ linked.accessListed
    oldId := by rw [oldKept.id, refreshId, linked.oldId]
    successorId := by rw [successorKept.id, successorId, linked.successorId]
    accessId := by rw [accessId, linked.accessId]
    successorFamily := by rw [successorKept.family, oldKept.family, linked.successorFamily]
    accessFamily := by rw [oldKept.family, linked.accessFamily]
    consumed := by
      intro unused
      exact linked.consumed (oldKept.unused.mp unused).1
    current := by
      intro salted
      obtain ⟨other, kept⟩ := drop_salt_kept salted
      rw [successorKept.unused, linked.successorId]
      exact ⟨linked.current kept, other⟩ }

structure RecordedFor (locked : LockedRefreshContext) (replacement : DeviceTokenReplacement) (attempt : AttemptRow) : Prop where
  refreshTokenId : attempt.refreshTokenId = locked.refreshId
  successor : attempt.successorRefreshTokenId = replacement.refreshTokenId
  access : attempt.accessTokenId = replacement.accessTokenId
  replay : ∃ replay, replacement.replay = some replay ∧ attempt.attemptId = replay.attemptId ∧
    attempt.replaySalt = some replay.salt

theorem rotated_attempt_linked (found : Presented tables locked presented owner) (recorded : RecordedFor locked replacement attempt) :
    ∃ old successor token, Linked next attempt old successor token := by
  obtain ⟨old, oldListed, oldKept⟩ := rotated_row_to rotated presented (.inl found.listed)
  obtain ⟨successor, successorListed, successorKept⟩ := rotated_row_to rotated refresh (.inr rfl)
  obtain ⟨issued, family, _, unused, _⟩ := rotated.refreshToken
  obtain ⟨granted, ofFamily, _⟩ := rotated.accessToken
  refine ⟨old, successor, access, ?_⟩
  exact {
    oldListed
    successorListed
    accessListed := by
      rw [rotated.accessTokens]
      exact List.mem_concat_self
    oldId := by rw [oldKept.id, found.id, recorded.refreshTokenId]
    successorId := by rw [successorKept.id, issued, recorded.successor]
    accessId := by rw [granted, recorded.access]
    successorFamily := by rw [successorKept.family, family, oldKept.family, found.familyId]
    accessFamily := by rw [ofFamily, oldKept.family, found.familyId]
    consumed := by
      intro still
      exact (oldKept.unused.mp still).2 found.id
    current := by
      intro _
      rw [successorKept.unused]
      refine ⟨unused, fun same => ?_⟩
      exact (rotated.freshRefresh presented found.listed).1 (found.id.trans same.symm) }

theorem rotated_attempts (listed : attempt ∈ next.attempts) :
    (∃ old ∈ tables.attempts, attempt = dropSalt locked.refreshId old) ∨
      RecordedFor locked replacement attempt := by
  have recorded := rotated.attempts
  have settled (member : attempt ∈ tables.attempts.map (dropSalt locked.refreshId)) :
      ∃ old ∈ tables.attempts, attempt = dropSalt locked.refreshId old := by
    obtain ⟨old, earlier, same⟩ := List.mem_map.mp member
    exact ⟨old, earlier, same.symm⟩
  cases asked : replacement.replay with
  | none =>
    rw [asked] at recorded
    exact .inl (settled (recorded ▸ listed))
  | some replay =>
    rw [asked] at recorded
    obtain ⟨made, appended, _, ofPresented, attemptId, successorId, accessId, salt⟩ := recorded
    rw [appended] at listed
    rcases List.mem_append.mp listed with earlier | last
    · exact .inl (settled earlier)
    · rw [List.mem_singleton.mp last]
      exact .inr ⟨ofPresented, successorId, accessId, replay, asked, attemptId, salt⟩

theorem rotated_attempt_ids (sound : Sound tables) :
    (next.attempts.map (·.refreshTokenId)).Nodup := by
  have recorded := rotated.attempts
  have distinct := sound.attemptIds
  rw [← settled_keys locked.refreshId] at distinct
  cases asked : replacement.replay with
  | none =>
    rw [asked] at recorded
    rw [recorded]
    exact distinct
  | some replay =>
    rw [asked] at recorded
    obtain ⟨made, appended, fresh, ofPresented, _⟩ := recorded
    rw [appended]
    apply keys_append distinct
    intro row listed
    obtain ⟨old, earlier, rfl⟩ := List.mem_map.mp listed
    rw [(drop_salt_keeps locked.refreshId old).1, ofPresented]
    exact fresh old earlier

theorem rotated_sound (sound : Sound tables)
    (found : Presented tables locked presented owner) : Sound next where
  familyIds := by
    rw [related_column (·.family.id) (fun old new kept => by rw [kept.1]) rotated.families]
    exact sound.familyIds
  accessIds := by
    rw [rotated.accessTokens]
    exact keys_append sound.accessIds fun old listed => (rotated.freshAccess old listed).1
  accessDigests := by
    rw [rotated.accessTokens]
    exact keys_append sound.accessDigests fun old listed => (rotated.freshAccess old listed).2
  refreshIds := by
    rw [related_column (·.token.id) (fun old new kept => (refresh_consumed_kept kept).id)
      rotated.refreshTokens]
    exact keys_append sound.refreshIds fun old listed => (rotated.freshRefresh old listed).1
  refreshDigests := by
    rw [related_column (·.token.secretDigest) (fun old new kept => (refresh_consumed_kept kept).digest)
      rotated.refreshTokens]
    exact keys_append sound.refreshDigests fun old listed => (rotated.freshRefresh old listed).2
  attemptIds := rotated_attempt_ids rotated sound
  refresh := rotated_refresh_owned rotated sound found
  access := rotated_access_owned rotated sound found
  single := fun first listed second listed' => rotated_single rotated sound found listed listed'
  attempts := by
    intro attempt listed
    rcases rotated_attempts rotated listed with ⟨old, earlier, rfl⟩ | recorded
    · obtain ⟨consumed, successor, token, linked⟩ := sound.attempts old earlier
      exact rotated_linked rotated linked
    · exact rotated_attempt_linked rotated found recorded

end

end DeviceTables

end AgentRoom
