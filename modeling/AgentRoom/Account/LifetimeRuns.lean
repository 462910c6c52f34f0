import AgentRoom.Account.Lifetime

namespace AgentRoom.Account

open Library AccountStore

variable {policy : AuthenticationPolicy} {encodings : AccountEncodings} {request : AccountRequest} {origin : AccountWorld}

def Keeps {α ε : Type} (policy : AuthenticationPolicy) (encodings : AccountEncodings) (request : AccountRequest) (origin : AccountWorld)
    (told : α → Prop) (program : ExceptT ε (Program AccountCall AccountAnswer) α) (world : AccountWorld) : Prop :=
  Tells (accountDiscipline policy encodings).toRely ((accountDiscipline policy encodings).may request origin) (fun value _ => told value)
    program world

section

variable {α β ε : Type} {world : AccountWorld}

variable {first : ExceptT ε (Program AccountCall AccountAnswer) α} {next : α → ExceptT ε (Program AccountCall AccountAnswer) β}

theorem keeps_then {told : β → Prop} (middle : α → Prop) (early : Keeps policy encodings request origin middle first world)
    (late : ∀ value now, middle value → Keeps policy encodings request origin told (next value) now) :
    Keeps policy encodings request origin told (first >>= next) world :=
  tells_then (fun value _ => middle value) early fun value now _ _ held => late value now held

theorem keeps_next {told : β → Prop} (early : Keeps policy encodings request origin (fun _ => True) first world)
    (late : ∀ value now, Keeps policy encodings request origin told (next value) now) :
    Keeps policy encodings request origin told (first >>= next) world :=
  keeps_then (fun _ => True) early fun value now _ => late value now

variable {told : α → Prop}

theorem keeps_call (call : AccountCall) (read : AccountAnswer call → Except ε α)
    (allowed : ∀ now, May policy encodings request now call) (reads : ∀ answer value, read answer = .ok value → told value) :
    Keeps policy encodings request origin told (consult call read) world :=
  tells_call (fun now _ _ => allowed now) (fun _ _ _ _ _ held => held) fun _ answer _ value _ _ _ _ same =>
    reads answer value same

theorem keeps_settled (result : Except ε α) (holds : ∀ value, result = .ok value → told value) :
    Keeps policy encodings request origin told (settled result : ExceptT ε (Program AccountCall AccountAnswer) α) world :=
  tells_settled fun value _ _ _ same => holds value same

theorem keeps_settle (result : Except ε α) :
    Keeps policy encodings request origin (fun _ => True) (settled result : ExceptT ε (Program AccountCall AccountAnswer) α) world :=
  keeps_settled result fun _ _ => trivial

theorem keeps_pure (holds : told value) :
    Keeps policy encodings request origin told (pure value : ExceptT ε (Program AccountCall AccountAnswer) α) world :=
  tells_pure fun _ _ _ => holds

theorem keeps_attempted (program : ExceptT δ (Program AccountCall AccountAnswer) α)
    (keeps : Keeps policy encodings request origin (fun _ => True) program world) :
    Keeps policy encodings request origin (fun _ => True) (attempted program : ExceptT ε (Program AccountCall AccountAnswer) (Except δ α)) world :=
  tells_weaker (fun _ _ _ _ => trivial) (tells_attempted keeps)

end

section

variable {world : AccountWorld}

theorem keeps_clock : Keeps policy encodings request origin (fun _ => True) clock world :=
  keeps_call .clock _ (fun _ => trivial) fun _ _ _ => trivial

theorem keeps_new_id : Keeps policy encodings request origin (fun _ => True) newId world :=
  keeps_call .newId _ (fun _ => trivial) fun _ _ _ => trivial

theorem keeps_generate : Keeps policy encodings request origin (fun _ => True) (generate operation) world :=
  keeps_call .generate _ (fun _ => trivial) fun _ _ _ => trivial

theorem keeps_ask (allowed : ∀ now, May policy encodings request now (.store op)) :
    Keeps policy encodings request origin (fun _ => True) (ask operation op) world :=
  keeps_call (.store op) _ allowed fun _ _ _ => trivial

theorem keeps_ask_for {kind : AuthenticationFailureKind} {read : StoreAnswer op → Option α}
    (allowed : ∀ now, May policy encodings request now (.store op)) :
    Keeps policy encodings request origin (fun _ => True) (askFor operation op kind read) world :=
  keeps_call (.store op) _ allowed fun _ _ _ => trivial

theorem keeps_begin_login :
    Keeps policy encodings request origin (fun _ => True) (beginLogin policy encodings delivery intent) world := by
  refine keeps_next keeps_clock fun now _ => ?_
  refine keeps_next (keeps_settle _) fun expiresAt _ => ?_
  refine keeps_next (keeps_call _ _ (fun _ => trivial) fun _ _ _ => trivial) fun authorization _ => ?_
  refine keeps_next keeps_generate fun secret _ => ?_
  refine keeps_next keeps_new_id fun id _ => ?_
  refine keeps_next (keeps_ask fun _ => ⟨trivial, trivial⟩) fun _ _ => ?_
  exact keeps_pure trivial

theorem keeps_revoke_others :
    Keeps policy encodings request origin (fun _ => True) (revokeOnceChanged completed principalId keep issued) world := by
  unfold revokeOnceChanged
  by_cases changed : completed.passwordChanged = true
  · rw [if_pos changed]
    refine keeps_next (keeps_attempted _ (keeps_ask fun _ => ⟨trivial, trivial⟩)) fun _ _ => ?_
    exact keeps_pure trivial
  · rw [if_neg changed]
    exact keeps_pure trivial

theorem keeps_session_registration :
    Keeps policy encodings request origin (fun session => policy.sessionLifetime.renewedUntil session.authenticatedAt session.createdAt =
      .ok session.expiresAt) (sessionRegistration policy encodings secret authenticatedAt now operation) world := by
  refine keeps_then (fun expiresAt => policy.sessionLifetime.renewedUntil authenticatedAt now = .ok expiresAt)
    (keeps_settled _ fun value same => map_error_read same) fun expiresAt _ renewed => ?_
  refine keeps_next keeps_new_id fun id _ => ?_
  exact keeps_pure renewed

theorem keeps_web_login :
    Keeps policy encodings request origin (fun _ => True) (completeWebLogin policy encodings completed returnPath) world := by
  refine keeps_next keeps_generate fun secret _ => ?_
  refine keeps_then (fun session => policy.sessionLifetime.renewedUntil session.authenticatedAt session.createdAt =
    .ok session.expiresAt) keeps_session_registration fun session _ renewed => ?_
  refine keeps_next (keeps_ask fun _ => ⟨renewed, trivial⟩) fun stored _ => ?_
  refine keeps_next keeps_revoke_others fun _ _ => ?_
  exact keeps_pure trivial

theorem keeps_desktop_login : Keeps policy encodings request origin (fun _ => True)
      (completeDesktopLogin policy encodings completed clientState codeChallenge returnPath) world := by
  refine keeps_next keeps_generate fun secret _ => ?_
  refine keeps_next (keeps_settle _) fun expiresAt _ => ?_
  refine keeps_next (keeps_ask fun _ => ⟨trivial, trivial⟩) fun principal _ => ?_
  refine keeps_next keeps_revoke_others fun _ _ => ?_
  exact keeps_pure trivial

theorem keeps_complete_login {browserSecret : SecretValue} {passwordChange : Option PasswordChange} :
    Keeps policy encodings request origin (fun _ => True)
      (completeLogin policy encodings code returnedState browserSecret passwordChange) world := by
  refine keeps_next (keeps_settle _) fun _ _ => ?_
  refine keeps_next keeps_clock fun now _ => ?_
  refine keeps_next (keeps_ask_for fun _ => ⟨trivial, trivial⟩) fun attempt _ => ?_
  refine keeps_next (keeps_call _ _ (fun _ => trivial) fun _ _ _ => trivial) fun identity _ => ?_
  refine keeps_next (keeps_settle _) fun authenticatedAt _ => ?_
  refine keeps_next keeps_new_id fun principalId _ => ?_
  cases attempt.delivery with
  | web returnPath => exact keeps_web_login
  | desktop clientState codeChallenge returnPath => exact keeps_desktop_login

theorem keeps_exchange : Keeps policy encodings (.exchangeDesktop code verifier) origin (fun _ => True)
      (exchangeDesktopAuthorization policy encodings code verifier) world := by
  refine keeps_next (keeps_settle _) fun _ _ => ?_
  refine keeps_then (fun challenge => derivePkceChallenge encodings verifier = some challenge) (keeps_settled _ ?_)
    fun challenge _ derived => ?_
  · intro challenge same
    cases derived : derivePkceChallenge encodings verifier with
    | none =>
      rw [derived] at same
      cases same
    | some found =>
      rw [derived] at same
      cases same
      rfl
  refine keeps_next keeps_clock fun now _ => ?_
  refine keeps_next keeps_generate fun secret _ => ?_
  refine keeps_then (fun expiresAt => policy.sessionLifetime.renewedUntil now now = .ok expiresAt)
    (keeps_settled _ fun value same => map_error_read same) fun expiresAt _ renewed => ?_
  refine keeps_next keeps_new_id fun id _ => ?_
  refine keeps_next (keeps_ask_for fun _ => ⟨renewed, code, verifier, rfl, rfl, derived⟩) fun session _ => ?_
  refine keeps_next (keeps_settle _) fun latest _ => ?_
  by_cases ended : latest ≤ now
  · rw [if_pos ended]
    refine keeps_next (keeps_attempted _ (keeps_ask fun _ => ⟨trivial, trivial⟩)) fun _ _ => ?_
    exact keeps_settle _
  · rw [if_neg ended]
    exact keeps_pure trivial

theorem keeps_authorize : Keeps policy encodings request origin (fun _ => True)
      (authorizeDesktopSession policy encodings sessionSecret clientState codeChallenge returnPath) world := by
  refine keeps_next keeps_clock fun now _ => ?_
  refine keeps_next (keeps_ask_for fun _ => ⟨trivial, trivial⟩) fun active _ => ?_
  refine keeps_next (keeps_settle _) fun latest _ => ?_
  refine keeps_next (keeps_settle _) fun _ _ => ?_
  refine keeps_next keeps_generate fun secret _ => ?_
  refine keeps_next (keeps_settle _) fun expiresAt _ => ?_
  refine keeps_next (keeps_ask_for fun _ => ⟨trivial, trivial⟩) fun _ _ => ?_
  exact keeps_pure trivial

theorem keeps_logout : Keeps policy encodings request origin (fun _ => True) (logout encodings sessionSecret) world := by
  refine keeps_next keeps_clock fun now _ => ?_
  refine keeps_next (keeps_ask fun _ => ⟨trivial, trivial⟩) fun revoked _ => ?_
  cases revoked with
  | none => exact keeps_pure trivial
  | some account =>
    refine keeps_next (keeps_call _ _ (fun _ => trivial) fun _ _ _ => trivial) fun _ _ => ?_
    exact keeps_pure trivial

theorem keeps_suspend : Keeps policy encodings request origin (fun _ => True) (suspendPrincipal principalId) world := by
  refine keeps_next keeps_clock fun now _ => ?_
  refine keeps_next (keeps_ask fun _ => ⟨trivial, trivial⟩) fun _ _ => ?_
  exact keeps_pure trivial

theorem keeps_sign_out :
    Keeps policy encodings request origin (fun _ => True) (signOut encodings actor sessionSecret keepChatDevice) world := by
  refine keeps_next (keeps_call _ _ (fun _ => trivial) fun _ _ _ => trivial) fun now _ => ?_
  refine keeps_next (keeps_call _ _ (fun _ => ⟨trivial, trivial⟩) fun _ _ _ => trivial) fun revoked _ => ?_
  refine keeps_next ?_ fun ended _ => ?_
  · cases revoked with
    | none => exact keeps_pure trivial
    | some others => exact keeps_call _ _ (fun _ => trivial) fun _ _ _ => trivial
  refine keeps_next (keeps_call _ _ (fun _ => trivial) fun _ _ _ => trivial) fun devices _ => ?_
  exact keeps_pure trivial

end

section

variable {world next : AccountWorld}

theorem runs_end (start first second : AccountStore) (journal : List Commit) (run : Runs Performs start journal first)
    (other : Runs Performs start journal second) : first = second := by
  induction journal generalizing start with
  | nil => exact run.symm.trans other
  | cons commit rest ih =>
    obtain ⟨next, performs, onward⟩ := run
    obtain ⟨next', performs', onward'⟩ := other
    rw [← performs.2.2] at onward
    rw [← performs'.2.2] at onward'
    exact ih commit.after onward onward'

theorem onward_run (journaled : Journaled .empty world) (journaled' : Journaled .empty next)
    (grown : next.journal = world.journal ++ more) : Runs Performs world.store more next.store := by
  rw [Journaled, grown] at journaled'
  obtain ⟨middle, early, late⟩ := (runs_append ..).mp journaled'
  rw [runs_end _ _ _ _ journaled early]
  exact late

theorem found_onward (onward : Onward world next)
    (found : Found secretDigest origin now session world) : Found secretDigest origin now session next := by
  obtain ⟨more, commit, grown, listed, op, accepted⟩ := found
  obtain ⟨further, onward⟩ := onward.journal
  exact ⟨more ++ further, commit, by rw [onward, grown, List.append_assoc], List.mem_append_left _ listed, op, accepted⟩

variable {holds : WebSessionRow → Prop} {failed : AuthenticationFailure} {id : WebSessionId} {renewed : UtcMillis}

theorem still_onward (sound : Sound policy world) (sound' : Sound policy next) (onward : Onward world next)
    (lasting : ∀ row later, Later row later → holds row → holds later)
    (still : StillThere session secretDigest world holds) : StillThere session secretDigest next holds := by
  obtain ⟨more, grown⟩ := onward.journal
  obtain ⟨row, listed, id, digest, authenticatedAt, createdAt, expires, held⟩ := still
  obtain ⟨later, there, since⟩ := session_persists listed (onward_run sound.journaled sound'.journaled grown)
  exact ⟨later, there, since.id.trans id, since.digest.trans digest, since.authenticatedAt.trans authenticatedAt,
    since.createdAt.trans createdAt, UtcMillis.le_trans _ _ _ expires since.expires, lasting row later since held⟩

theorem prolonged_later (session : StoredWebSession) (now : UtcMillis) (row later : WebSessionRow) (since : Later row later)
    (prolonged : Prolonged policy session now row) : Prolonged policy session now later := by
  rcases prolonged with revoked | enough
  · exact .inl (by rw [since.revoked revoked]; exact revoked)
  · have expires : row.expiresAt.value ≤ later.expiresAt.value := since.expires
    exact .inr (Nat.le_trans enough (Nat.add_le_add_right expires _))

structure Held (policy : AuthenticationPolicy) (secretDigest : SecretDigest) (origin : AccountWorld) (now : UtcMillis)
    (session : StoredWebSession) (holds : WebSessionRow → Prop) (world : AccountWorld) : Prop where
  found : Found secretDigest origin now session world
  still : StillThere session secretDigest world holds

theorem held_onward (sound : Sound policy world) (sound' : Sound policy next) (onward : Onward world next)
    (lasting : ∀ row later, Later row later → holds row → holds later)
    (held : Held policy secretDigest origin now session holds world) : Held policy secretDigest origin now session holds next :=
  ⟨found_onward onward held.found, still_onward sound sound' onward lasting held.still⟩

variable {secretDigest : SecretDigest} {now : UtcMillis} {session : StoredWebSession}

theorem refused_in_vain (held : Held policy secretDigest origin now session holds world)
    (vain : usable policy session now = false ∨ ∀ renewed, policy.sessionLifetime.renewedUntil session.authenticatedAt now ≠ .ok renewed)
    (plain : failed.kind ≠ .reauthenticationRequired) : Answered policy secretDigest origin now (.error failed) world := by
  obtain ⟨more, commit, grown, listed, op, accepted⟩ := held.found
  refine ⟨?_, fun _ _ _ => .inr ⟨more, commit, grown, listed, op, fun other same => ?_⟩⟩
  · rintro (⟨_, impossible⟩ | ⟨other, same, kind⟩)
    · cases impossible
    · cases same
      exact absurd kind plain
  · cases accepted.symm.trans same
    exact vain

theorem refused_unavailable (kind : failed.kind = .dependencyUnavailable) :
    Answered policy secretDigest origin now (.error failed) world := by
  refine ⟨?_, fun other same _ => .inl (by cases same; exact kind)⟩
  rintro (⟨_, impossible⟩ | ⟨other, same, kind'⟩)
  · cases impossible
  · cases same
    rw [kind] at kind'
    cases kind'

theorem store_refused (replies : StoreReplies world op reply next)
    (same : reply = .error error) (works : ∃ answer store, world.store.perform op = .ok (answer, store)) : error = .unavailable := by
  rcases replies with ⟨_, _, _, _, answered | lost⟩ | ⟨_, other, failed, performed | unavailable⟩
  · cases answered.symm.trans same
  · cases lost.symm.trans same
    rfl
  · obtain ⟨answer, store, found⟩ := works
    cases performed.symm.trans found
  · cases failed.symm.trans same
    exact unavailable

theorem extend_works (sound : Sound policy world) :
    ∃ answer store, world.store.perform (.extend id expiresAt) = .ok (answer, store) := by
  have kept : ∀ row ∈ world.store.sessions, decide (row.id = id ∧ row.revokedAt = none ∧ row.expiresAt < expiresAt) = true →
      WebSessionRow.checks { row with expiresAt } = true := by
    intro row listed selected
    obtain ⟨_, standing, sooner⟩ := of_decide_eq_true selected
    have timed := sound.timed row listed
    have later : row.createdAt < expiresAt := Nat.lt_trans timed.after sooner
    simp [WebSessionRow.checks, later, timed.lead, standing]
  exact ⟨_, _, by
    show world.store.extend id expiresAt = _
    rw [AccountStore.extend, updateRows, (ensure_ok _ _ ()).mpr kept]
    rfl⟩

theorem extended_prolonged
    (performed : world.store.perform (.extend id renewed) = .ok (answer, store)) (mine : session.id = id)
    (ends : renewed.value = endOf policy session.authenticatedAt now) (still : StillThere session secretDigest world fun _ => True) :
    StillThere session secretDigest (world.commit (.extend id renewed) answer store) (Prolonged policy session now) := by
  subst mine
  obtain ⟨row, listed, id, digest, authenticatedAt, createdAt, expires, _⟩ := still
  have since := rewritten_later (.extend session.id renewed) row
  refine ⟨rewritten (.extend session.id renewed) row, ?_, since.id.trans id, since.digest.trans digest,
    since.authenticatedAt.trans authenticatedAt, since.createdAt.trans createdAt, UtcMillis.le_trans _ _ _ expires since.expires, ?_⟩
  · show rewritten (.extend session.id renewed) row ∈ store.sessions
    rw [extend_ok world.store performed]
    exact List.mem_map_of_mem listed
  · by_cases standing : row.revokedAt = none
    · right
      rw [← ends]
      by_cases sooner : row.expiresAt < renewed
      · have selected : shorter session.id renewed row = true := decide_eq_true ⟨id, standing, sooner⟩
        simp [rewritten, selected]
      · have enough : renewed.value ≤ row.expiresAt.value := Nat.le_of_not_lt sooner
        have kept : row.expiresAt.value ≤ (rewritten (.extend session.id renewed) row).expiresAt.value := since.expires
        omega
    · left
      rw [since.revoked standing]
      exact standing

theorem finds_session (requested : Onward origin world) :
    Safe (accountDiscipline policy encodings).toRely ((accountDiscipline policy encodings).may request origin)
      (Passes (Answered policy secretDigest origin now) fun session => Held policy secretDigest origin now session fun _ => True)
      (askFor "authentication.authenticate" (.findActive secretDigest now) .invalidSession
        (fun session => (session : Option StoredWebSession)) : AccountProgram StoredWebSession).run world := by
  refine safe_consult fun reading sound since => ⟨⟨trivial, trivial⟩, ?_⟩
  intro answer after replies sound' between final sound'' later
  obtain ⟨more, grown⟩ := (onward_trans _ _ _ requested since).journal
  cases answer with
  | error error =>
    have unavailable := store_refused replies rfl ⟨_, _, rfl⟩
    subst unavailable
    exact refused_unavailable rfl
  | ok found =>
    obtain ⟨store, performed, rfl⟩ := store_replied found replies rfl
    obtain ⟨rfl, finds⟩ := find_active_ok reading.store performed
    obtain ⟨further, grew⟩ := later.journal
    have listed : final.journal = origin.journal ++ (more ++ [⟨reading.store, .findActive secretDigest now, found, reading.store⟩] ++ further) := by
      rw [grew, AccountWorld.commit, grown]
      simp [List.append_assoc]
    have mine : (⟨reading.store, .findActive secretDigest now, found, reading.store⟩ : Commit) ∈
        more ++ [⟨reading.store, .findActive secretDigest now, found, reading.store⟩] ++ further := by simp
    cases found with
    | none =>
      refine ⟨?_, fun _ _ _ => .inr ⟨_, _, listed, mine, rfl, nofun⟩⟩
      rintro (⟨_, impossible⟩ | ⟨failed, same, kind⟩)
      · cases impossible
      · cases same
        cases kind
    | some session =>
      obtain ⟨row, found⟩ := finds session rfl
      refine ⟨⟨_, _, listed, mine, rfl, rfl⟩, still_onward sound' sound'' later (fun _ _ _ _ => trivial) ?_⟩
      have same := found.answered
      exact ⟨row, found.listed, by rw [same]; rfl, found.digest, by rw [same]; rfl, by rw [same]; rfl,
        by rw [same]; exact UtcMillis.le_refl _, trivial⟩

theorem usable_active (active : session.principal.allowsAuthentication = true)
    (reads : policy.sessionLifetime.latest session.authenticatedAt = .ok latest) (before : now < latest) :
    usable policy session now = true := by
  rw [usable, reads, active]
  exact decide_eq_true before

theorem held_renews (held : Held policy secretDigest origin now session holds world)
    (use : usable policy session now = true) (reads : policy.sessionLifetime.renewedUntil session.authenticatedAt now = .ok renewed) :
    Renews policy world.journal session.id now renewed := by
  obtain ⟨more, ⟨before, op, answer, left⟩, grown, listed, rfl, accepted⟩ := held.found
  refine ⟨_, by rw [grown]; exact List.mem_append_right _ listed, session, ?_, rfl, reads⟩
  obtain rfl : answer = some session := accepted
  exact if_pos use

section

variable {β : Type} (post : Except AuthenticationFailure β → AccountWorld → Prop)
  (refuses : ∀ failed next, Answered policy secretDigest origin now (.error failed) next → post (.error failed) next)

include refuses

theorem settles_time {read : DomainResult α} (sound : Sound policy world)
    (held : Held policy secretDigest origin now session (fun _ => True) world)
    (vain : (∀ value, read ≠ .ok value) → usable policy session now = false ∨
      ∀ renewed, policy.sessionLifetime.renewedUntil session.authenticatedAt now ≠ .ok renewed) :
    Safe (accountDiscipline policy encodings).toRely ((accountDiscipline policy encodings).may request origin)
      (Passes post fun value next => read = .ok value ∧ Held policy secretDigest origin now session (fun _ => True) next)
      (settled (internal "authentication.authenticate" read) : AccountProgram α).run world := by
  refine safe_settled fun next sound' since => ?_
  have held := held_onward sound sound' since (fun _ _ _ _ => trivial) held
  cases reads : read with
  | error error => exact refuses _ _ (refused_in_vain held (vain fun value same => nomatch reads.symm.trans same) nofun)
  | ok value => exact ⟨rfl, held⟩

theorem settles_check [Decidable condition] (sound : Sound policy world)
    (held : Held policy secretDigest origin now session (fun _ => True) world)
    (vain : ¬ condition → usable policy session now = false) (plain : kind ≠ .reauthenticationRequired) :
    Safe (accountDiscipline policy encodings).toRely ((accountDiscipline policy encodings).may request origin)
      (Passes post fun _ next => condition ∧ Held policy secretDigest origin now session (fun _ => True) next)
      (settled (ensure (failure "authentication.authenticate" kind) condition) : AccountProgram Unit).run world := by
  refine safe_settled fun next sound' since => ?_
  have held := held_onward sound sound' since (fun _ _ _ _ => trivial) held
  by_cases holds : condition
  · rw [(ensure_ok _ _ ()).mpr holds]
    exact ⟨holds, held⟩
  · rw [ensure, if_neg holds]
    exact refuses _ _ (refused_in_vain held (.inl (vain holds)) plain)

end

theorem renews_session (sound : Sound policy world) (active : session.principal.allowsAuthentication = true)
    (held : Held policy secretDigest origin now session (fun _ => True) world) :
    Safe (accountDiscipline policy encodings).toRely ((accountDiscipline policy encodings).may request origin)
      (Passes (Answered policy secretDigest origin now) fun _ next => usable policy session now = true ∧
        Held policy secretDigest origin now session (Prolonged policy session now) next)
      (renewSession policy session now).run world := by
  refine safe_then _ (settles_time _ (fun _ _ refused => refused) sound held fun none => .inl ?_)
    fun latest reading sound since ⟨reads, held⟩ => ?_
  · cases reads : policy.sessionLifetime.latest session.authenticatedAt with
    | error error => rw [usable, reads, Bool.and_false]
    | ok latest => exact absurd reads (none latest)
  refine safe_then _ (settles_check _ (fun _ _ refused => refused) sound held (fun ended => ?_) nofun)
    fun _ checked sound since ⟨before, held⟩ => ?_
  · rw [usable, reads]
    simp [ended]
  have use := usable_active active reads before
  refine safe_then _ (settles_time _ (fun _ _ refused => refused) sound held .inr)
    fun renewed timed sound since ⟨renews, held⟩ => ?_
  have ends := renewed_until_ok policy renews
  by_cases small : (renewed.value : Int) - session.expiresAt.value < policy.sessionRenewalStep
  · rw [if_pos small]
    refine safe_settled fun next sound' since => ⟨use, ?_⟩
    obtain ⟨found, row, listed, id, digest, authenticatedAt, createdAt, expires, _⟩ :=
      held_onward sound sound' since (fun _ _ _ _ => trivial) held
    have later : session.expiresAt.value ≤ row.expiresAt.value := expires
    exact ⟨found, row, listed, id, digest, authenticatedAt, createdAt, expires, .inr (by omega)⟩
  · rw [if_neg small]
    refine safe_then (fun _ next => usable policy session now = true ∧ Held policy secretDigest origin now session
      (Prolonged policy session now) next) ?_ fun _ reached sound since held =>
        safe_settled fun next sound' since =>
          ⟨use, held_onward sound sound' since (prolonged_later session now) held.2⟩
    refine safe_consult fun asking sound' since => ?_
    have held := held_onward sound sound' since (fun _ _ _ _ => trivial) held
    refine ⟨⟨⟨now, held_renews held use renews⟩, trivial⟩, fun answer after replies sound'' between final sound''' later => ?_⟩
    cases answer with
    | error error =>
      have unavailable := store_refused replies rfl (extend_works sound')
      subst unavailable
      exact refused_unavailable rfl
    | ok answer =>
      obtain ⟨store, performed, rfl⟩ := store_replied answer replies rfl
      refine ⟨use, held_onward sound'' sound''' later (prolonged_later session now) ⟨found_onward between held.found, ?_⟩⟩
      exact extended_prolonged performed rfl ends held.still

theorem authenticates (sessionSecret : SecretValue) (requirement : AuthenticationRequirement) (requested : Onward origin world) :
    Safe (accountDiscipline policy encodings).toRely ((accountDiscipline policy encodings).may request origin)
      (Answered policy (encodings.digest sessionSecret) origin now)
      (authenticateAt policy encodings sessionSecret requirement now).run world := by
  refine safe_then _ (finds_session requested) fun session reading sound since held => ?_
  refine safe_then _ (settles_check _ (fun _ _ refused => refused) sound held (fun barred => ?_) (fun none => by cases none)) ?_
  · rw [usable, Bool.eq_false_iff.mpr barred, Bool.false_and]
  rintro _ checked sound since ⟨active, held⟩
  refine safe_then _ (renews_session sound active held) ?_
  rintro _ renewed sound since ⟨use, held⟩
  have taken : ∀ next result, Sound policy next → Onward renewed next → TakesUse result →
      (∀ failed, result = .error failed → failed.kind = .reauthenticationRequired) →
      Answered policy (encodings.digest sessionSecret) origin now result next := by
    intro next result sound' since taken plain
    have held := held_onward sound sound' since (prolonged_later session now) held
    exact ⟨fun _ => ⟨session, held.found, use, held.still⟩, fun failed same other => absurd (plain failed same) other⟩
  refine safe_then (fun _ _ => True) ?_ fun _ reached sound' since' _ => ?_
  · refine safe_settled fun next sound' since' => ?_
    by_cases recent : requirement = .recentAuthentication → (sessionView policy session now).recentlyAuthenticated = true
    · rw [(ensure_ok _ _ ()).mpr recent]
      trivial
    · rw [ensure, if_neg recent]
      refine taken next _ sound' since' (.inr ⟨_, rfl, rfl⟩) fun failed same => ?_
      cases same
      rfl
  · exact safe_settled fun next sound'' since'' =>
      taken next _ sound'' (onward_trans _ _ _ since' since'') (.inl ⟨_, rfl⟩) fun _ same => by cases same

end

end AgentRoom.Account
