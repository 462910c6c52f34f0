import AgentRoom.Account.LifetimeRuns
import AgentRoom.Account.SignedOut

namespace AgentRoom.Account

open Library AccountStore

section

theorem answered_onward {policy : AuthenticationPolicy} {secretDigest : SecretDigest}
    {result : Except AuthenticationFailure AuthenticatedPrincipal} (sound : Sound policy world) (sound' : Sound policy next)
    (onward : Onward world next) (answered : Answered policy secretDigest origin now result world) :
    Answered policy secretDigest origin now result next := by
  refine ⟨fun taken => ?_, fun failed same other => ?_⟩
  · obtain ⟨session, found, use, still⟩ := answered.accepted taken
    exact ⟨session, found_onward onward found, use, still_onward sound sound' onward (prolonged_later session now) still⟩
  · rcases answered.refused failed same other with unavailable | ⟨more, commit, grown, listed, vain⟩
    · exact .inl unavailable
    · obtain ⟨further, grew⟩ := onward.journal
      exact .inr ⟨more ++ further, commit, by rw [grew, grown, List.append_assoc], List.mem_append_left _ listed, vain⟩

variable {policy : AuthenticationPolicy} {encodings : AccountEncodings}

theorem keeps_program {request : AccountRequest} {reply : α → AccountReply}
    (keeps : Keeps policy encodings request origin (fun _ => True) program world)
    (silent : ∀ result world, Promises policy encodings request origin result world) :
    (accountDiscipline policy encodings).SafeCall request origin (do return reply (← program) : AccountProgram AccountReply).run world :=
  safe_mono _ _ _ _ (fun result next _ _ => silent result next)
    (keeps_next keeps fun _ _ => (keeps_pure trivial : Keeps policy encodings request origin (fun _ => True) _ _))

theorem account_opens (request : AccountRequest) (world : AccountWorld) :
    (accountDiscipline policy encodings).SafeCall request world (accountProgram policy encodings request) world := by
  cases request with
  | beginLogin delivery intent => exact keeps_program (keeps_begin_login) fun _ _ => trivial
  | completeLogin code returnedState browserSecret passwordChange =>
    exact keeps_program (keeps_complete_login) fun _ _ => trivial
  | exchangeDesktop code verifier => exact keeps_program (keeps_exchange) fun _ _ => trivial
  | authorizeDesktop sessionSecret clientState codeChallenge returnPath =>
    exact keeps_program (keeps_authorize) fun _ _ => trivial
  | authenticate sessionSecret requirement =>
    refine safe_then (fun answer next => Answered policy (encodings.digest sessionSecret) world answer.1 answer.2 next) ?_
      fun answer reading sound' _ answered => safe_settled fun next sound'' since =>
        answered_onward sound' sound'' since answered
    refine safe_then (fun _ _ => True) ?_ fun now reading sound' since _ => ?_
    · exact safe_consult fun _ _ _ => ⟨trivial, fun _ _ _ _ _ _ _ _ => trivial⟩
    refine safe_then (fun result next => Answered policy (encodings.digest sessionSecret) world now result next) ?_
      fun result reached sound'' _ answered => safe_settled fun next sound''' later =>
        answered_onward sound'' sound''' later answered
    exact safe_attempted (safe_mono _ _ _ _ (fun _ _ _ held => held) (authenticates sessionSecret requirement since))
  | logout sessionSecret => exact keeps_program (keeps_logout) fun _ _ => trivial
  | suspend principalId => exact keeps_program (keeps_suspend) fun _ _ => trivial
  | signOutElsewhere sessionSecret keepChatDevice =>
    refine keeps_program ?_ fun _ _ => trivial
    refine tells_then (fun _ _ => True) keeps_clock fun now reading _ since _ => ?_
    refine tells_then (fun _ _ => True) ?_ fun actor _ _ _ _ => keeps_attempted _ (keeps_sign_out)
    exact safe_mono _ _ _ _ (fun _ _ _ _ _ _ => trivial) (authenticates sessionSecret .activeSession since)

end

theorem principal_persists (listed : row ∈ start.principals) (run : Runs Performs start journal final) :
    ∃ later ∈ final.principals, later.principal.id = row.principal.id ∧
      (later.principal.allowsAuthentication = true → row.principal.allowsAuthentication = true) := by
  refine runs_invariant (fun store => ∃ later ∈ store.principals, later.principal.id = row.principal.id ∧
    (later.principal.allowsAuthentication = true → row.principal.allowsAuthentication = true)) ?_
    ⟨row, listed, rfl, id⟩ run
  rintro store commit next ⟨now, there, same, since⟩ performs
  obtain ⟨more, principals, _⟩ := (performs_changed performs).principals
  refine ⟨barred commit.op now, ?_, (barred_id commit.op now).trans same, fun active => since ?_⟩
  · rw [principals]
    exact List.mem_append_left _ (List.mem_map_of_mem there)
  · cases op : commit.op with
    | suspend principalId at' =>
      rw [op] at active
      by_cases mine : now.principal.id = principalId
      · simp [barred, mine, Principal.allowsAuthentication] at active
      · simpa [barred, mine] using active
    | _ =>
      rw [op] at active
      exact active

theorem same_principal (distinct : Distinct store) (mine : first ∈ store.principals)
    (yours : second ∈ store.principals) (same : first.principal.id = second.principal.id) : first = second :=
  List.inj_on_of_nodup_map distinct.principals mine yours same

theorem looks_up (distinct : Distinct store) (listed : row ∈ store.sessions) (standing : row.revokedAt = none) (now : UtcMillis)
    (before : now < row.expiresAt) (known : owner ∈ store.principals) (owns : owner.principal.id = row.principalId) :
    store.activeSession row.secretDigest now = some (row, owner.principal) := by
  have found : store.sessions.find? (current row.secretDigest now) = some row := by
    cases search : store.sessions.find? (current row.secretDigest now) with
    | none =>
      have missed := List.find?_eq_none.mp search row listed
      exact absurd (decide_eq_true ⟨rfl, standing, before⟩) missed
    | some other =>
      have chosen : current row.secretDigest now other = true := List.find?_some search
      have digest := (of_decide_eq_true chosen).1
      rw [same_secret distinct (List.mem_of_find?_eq_some search) listed digest]
  have owned : store.principalById row.principalId = some owner := by
    cases search : store.principalById row.principalId with
    | none => exact absurd (decide_eq_true owns) (List.find?_eq_none.mp search owner known)
    | some other =>
      have ⟨inside, same⟩ := principal_by_id_some store search
      rw [same_principal distinct inside known (same.trans owns.symm)]
  rw [AccountStore.activeSession, found, Option.bind_eq_bind, Option.bind_some, owned]
  rfl

theorem goes_on (sound : Sound policy middle) (sound' : Sound policy world) (there : old ∈ middle.store.sessions)
    (listed : row ∈ world.store.sessions) (same : old.id = row.id) (standing : row.revokedAt = none)
    (active : ∀ owner ∈ world.store.principals, owner.principal.id = row.principalId → owner.principal.allowsAuthentication = true)
    (before : now < old.expiresAt) (absolute : policy.sessionLifetime.latest old.authenticatedAt = .ok latest)
    (inside : now < latest) (renews : policy.sessionLifetime.renewedUntil old.authenticatedAt now = .ok renewed)
    (grown : ∃ earlier, world.journal = middle.journal ++ (earlier ++ more)) (made : commit ∈ more) :
    ¬ InVain policy row.secretDigest now commit := by
  obtain ⟨earlier, grown⟩ := grown
  obtain ⟨front, back, rfl⟩ := List.append_of_mem made
  have onward := onward_run sound.journaled sound'.journaled grown
  obtain ⟨early, performs, late⟩ := run_split (by rw [List.append_assoc]) onward
  have distinct := run_distinct (run_distinct empty_distinct sound.journaled) early
  have distinct' := run_distinct empty_distinct sound'.journaled
  obtain ⟨found, inStore, since⟩ := session_persists there early
  obtain ⟨next, performed, stays⟩ : ∃ next ∈ commit.after.sessions, Later found next := by
    have changed := performs_changed performs
    refine ⟨rewritten commit.op found, ?_, rewritten_later commit.op found⟩
    rw [changed.sessions]
    exact List.mem_append_left _ (List.mem_map_of_mem inStore)
  obtain ⟨last, final, until'⟩ := session_persists performed late
  have one : last = row := same_session distinct' final listed (until'.id.trans (stays.id.trans (since.id.trans same)))
  subst one
  have later := later_trans _ _ _ stays until'
  have unrevoked : found.revokedAt = none := by
    by_contra revoked
    rw [later.revoked revoked] at standing
    exact revoked standing
  obtain ⟨owner, known, owns⟩ := sound.owned old there
  obtain ⟨owner', known', owns', was⟩ := principal_persists known early
  obtain ⟨owner'', known'', owns'', was'⟩ : ∃ there ∈ world.store.principals, there.principal.id = owner'.principal.id ∧
      (there.principal.allowsAuthentication = true → owner'.principal.allowsAuthentication = true) :=
    principal_persists known' (show Runs Performs commit.before (commit :: back) world.store from ⟨commit.after, performs, late⟩)
  have mine : owner'.principal.id = found.principalId := owns'.trans (owns.trans since.owner.symm)
  have may := was' (active owner'' known'' (owns''.trans (mine.trans later.owner.symm)))
  rintro ⟨op, vain⟩
  obtain ⟨store, _, answer, after⟩ := commit
  obtain rfl := op
  have looked := looks_up distinct inStore unrevoked now (Nat.lt_of_lt_of_le before since.expires) known' mine
  have found' : answer = (store.activeSession last.secretDigest now).map fun found => storedSession found.1.toWebSessionRegistration found.2 :=
    (congrArg Prod.fst (Except.ok.inj performs.2.1)).symm
  rw [later.digest, looked] at found'
  rcases vain _ found' with unusable | overflows
  · rw [usable_active may (by rw [← absolute]; exact congrArg _ since.authenticatedAt) inside] at unusable
    cases unusable
  · refine overflows renewed ?_
    show policy.sessionLifetime.renewedUntil found.authenticatedAt now = _
    rw [since.authenticatedAt]
    exact renews

section

variable (policy : AuthenticationPolicy) (encodings : AccountEncodings)

def Reckoned (secretDigest : SecretDigest) (middle : AccountScene) (row : WebSessionRow) (since : UtcMillis) : Prop :=
  (since = row.createdAt ∧ ∃ old ∈ middle.world.store.sessions, old.id = row.id) ∨
    ∃ use ∈ middle.ended, ∃ sessionSecret requirement result, use.request = .authenticate sessionSecret requirement ∧
      encodings.digest sessionSecret = secretDigest ∧ use.result = .ok (.authenticated since result) ∧ TakesUse result

structure SessionLifetime (lasts : AuthenticationPolicy → (authenticatedAt since now : UtcMillis) → Prop) (start : UtcMillis)
    (turns : List (Turn AccountRequest)) (final : AccountScene) : Prop where
  -- A session is accepted before its limits only,
  used : ∀ call ∈ final.ended, ∀ sessionSecret requirement now result, call.request = .authenticate sessionSecret requirement →
    call.result = .ok (.authenticated now result) → TakesUse result → ∃ more commit session,
      final.world.journal = call.origin.journal ++ more ∧ commit ∈ more ∧ commit.op = .findActive (encodings.digest sessionSecret) now ∧
        useOf policy commit = some (session, now)
  limited : EachUpTo (useOf policy) (fun earlier use => InTime policy earlier use ∧
    use.2.value < use.1.authenticatedAt.value + policy.sessionLifetime.maximum.value) final.world.journal
  -- and is accepted as long as it lasts.
  lasting : ∀ early late middle, turns = early ++ late → AccountRuns policy encodings (openingAt start) early middle →
    AccountRuns policy encodings middle late final → ∀ call ∈ final.ended, ∀ sessionSecret requirement now result,
      call.request = .authenticate sessionSecret requirement → call.result = .ok (.authenticated now result) →
      (∃ more, call.origin.journal = middle.world.journal ++ more) → ∀ row ∈ final.world.store.sessions,
        row.secretDigest = encodings.digest sessionSecret → row.revokedAt = none →
        (∀ owner ∈ final.world.store.principals, owner.principal.id = row.principalId → owner.principal.allowsAuthentication = true) →
        ∀ since, Reckoned encodings row.secretDigest middle row since → lasts policy row.authenticatedAt since now →
          TakesUse result ∨ ∃ failed, result = .error failed ∧ failed.kind = .dependencyUnavailable
  chained : ∀ row ∈ final.world.store.sessions, StemsFrom final.world.journal (.session row.id) row.authenticatedAt ∧
    ∀ authenticatedAt, StemsFrom final.world.journal (.session row.id) authenticatedAt → authenticatedAt = row.authenticatedAt
  attempts : EachPair consumedOf (fun first _ second => first ≠ second) final.world.journal
  codes : EachPair exchangedOf (fun first _ second => first ≠ second) final.world.journal
  -- A code is taken by a call that was given it and the verifier of its challenge.
  verified : ∀ before commit after codeDigest, final.world.journal = before ++ commit :: after → exchangedOf commit = some codeDigest →
    ∃ row ∈ commit.before.codes, row.codeDigest = codeDigest ∧ ∃ made ∈ final.history, made.op = .store commit.op ∧
      ∃ code verifier, made.request = .exchangeDesktop code verifier ∧ codeDigest = encodings.digest code ∧
        derivePkceChallenge encodings verifier = some row.codeChallenge

-- Before the earlier of its two ends, by a step, where these times can be told.
def LastsAlmost (policy : AuthenticationPolicy) (authenticatedAt since now : UtcMillis) : Prop :=
  now.value + policy.sessionRenewalStep < endOf policy authenticatedAt since ∧
    now.value + policy.sessionLifetime.idle.value ≤ i64Max ∧ authenticatedAt.value + policy.sessionLifetime.maximum.value ≤ i64Max

end

section

variable {policy : AuthenticationPolicy} {encodings : AccountEncodings} {start : UtcMillis} {turns : List (Turn AccountRequest)}
  {middle final : AccountScene}

theorem usable_before (use : usable policy session now = true) :
    now.value < session.authenticatedAt.value + policy.sessionLifetime.maximum.value := by
  rw [usable, Bool.and_eq_true] at use
  cases reads : policy.sessionLifetime.latest session.authenticatedAt with
  | error error => rw [reads] at use; cases use.2
  | ok latest =>
    rw [reads] at use
    have before : now.value < latest.value := of_decide_eq_true use.2
    rw [← UtcMillis.checked_add_value reads]
    exact before

theorem use_usable (use : useOf policy commit = some (session, now)) : usable policy session now = true := by
  obtain ⟨before, op, answer, left⟩ := commit
  cases op with
  | findActive secretDigest at' =>
    obtain ⟨found, _, chosen⟩ := Option.bind_eq_some_iff.mp use
    by_cases may : usable policy found at' = true
    · rw [if_pos may] at chosen
      cases chosen
      exact may
    · rw [if_neg may] at chosen
      cases chosen
  | _ => cases use

theorem opening_sound (now : UtcMillis) : Sound policy ⟨.empty, now, []⟩ where
  journaled := rfl
  timed := nofun
  owned := nofun
  uses := by
    intro before entry after item split
    simp at split

theorem account_kept (run : AccountRuns policy encodings (openingAt start) turns final) : (accountDiscipline policy encodings).Kept final :=
  (kept_run (fun request world _ => account_opens request world)
    (opening_kept (opening_sound start)) run).1

theorem calls_present (run : AccountRuns policy encodings (openingAt start) turns final) (commit : Commit)
    (listed : commit ∈ final.world.journal) : ∃ made ∈ final.history, made.op = .store commit.op ∧ Presents encodings made.request commit.op := by
  refine kept_history (fun request world _ => account_opens request world) (fun world history =>
    ∀ commit ∈ world.journal, ∃ made ∈ history, made.op = .store commit.op ∧ Presents encodings made.request commit.op) ?_ ?_
    (opening_kept (opening_sound start)) nofun run commit listed
  · intro history request origin world op answer next told sound since may answers later commit listed
    have old : commit ∈ world.journal → ∃ made ∈ history ++ [⟨request, op, answer⟩], made.op = .store commit.op ∧
        Presents encodings made.request commit.op := by
      intro there
      obtain ⟨made, inside, same⟩ := told commit there
      exact ⟨made, List.mem_append_left _ inside, same⟩
    cases op with
    | clock => exact old (answers.2 ▸ listed)
    | store op =>
      rcases answers with ⟨found, store, performed, rfl, _⟩ | ⟨rfl, _⟩
      · rcases List.mem_append.mp listed with there | new
        · exact old there
        · cases List.mem_singleton.mp new
          exact ⟨_, List.mem_concat_self, rfl, may.2⟩
      · exact old listed
    | _ => exact old (answers ▸ listed)
  · rintro history world next told _ ⟨now, _, rfl⟩ _
    exact told

theorem reckoned_in_time (run : AccountRuns policy encodings (openingAt start) turns middle) {final : AccountWorld} (sound : Sound policy final)
    (onward : Onward middle.world final) (listed : row ∈ final.store.sessions) (standing : row.revokedAt = none)
    {since : UtcMillis} (reckoned : Reckoned encodings row.secretDigest middle row since)
    (lasts : LastsAlmost policy row.authenticatedAt since now) :
    ∃ old ∈ middle.world.store.sessions, old.id = row.id ∧ old.authenticatedAt = row.authenticatedAt ∧ now < old.expiresAt := by
  have kept := account_kept run
  have distinct := run_distinct empty_distinct sound.journaled
  obtain ⟨more, grown⟩ := onward.journal
  have later : ∀ old ∈ middle.world.store.sessions, (old.id = row.id ∨ old.secretDigest = row.secretDigest) → Later old row := by
    intro old there same
    obtain ⟨last, inside, since⟩ := session_persists there (onward_run kept.invariant.journaled sound.journaled grown)
    have one : last = row := by
      rcases same with id | digest
      · exact same_session distinct inside listed (since.id.trans id)
      · exact same_secret distinct inside listed (since.digest.trans digest)
    exact one ▸ since
  have ends := lasts.1
  rcases reckoned with ⟨rfl, old, there, same⟩ | ⟨use, ended, sessionSecret, requirement, result, asked, mine, answered, taken⟩
  · have onto := later old there (.inl same)
    have least := (kept.invariant.timed old there).least
    rw [onto.authenticatedAt, onto.createdAt] at ends
    refine ⟨old, there, same, onto.authenticatedAt.symm, ?_⟩
    show now.value < old.expiresAt.value
    omega
  · have promised := kept_promise kept ended
    rw [asked, answered] at promised
    obtain ⟨session, _, _, old, there, _, digest, authenticatedAt, _, _, prolonged⟩ := promised.accepted taken
    have onto := later old there (.inr (digest.trans mine))
    refine ⟨old, there, onto.id.symm, onto.authenticatedAt.symm, ?_⟩
    rcases prolonged with revoked | enough
    · rw [onto.revoked revoked] at standing
      exact absurd standing revoked
    · rw [onto.authenticatedAt, authenticatedAt] at ends
      show now.value < old.expiresAt.value
      omega

theorem sessions_live_as_long_as_they_should (policy : AuthenticationPolicy) (encodings : AccountEncodings) (start : UtcMillis)
    (turns : List (Turn AccountRequest)) (final : AccountScene) (run : AccountRuns policy encodings (openingAt start) turns final) :
    SessionLifetime policy encodings LastsAlmost start turns final := by
  have kept := account_kept run
  have journaled := kept.invariant.journaled
  refine ⟨?_, ?_, ?_, fun row listed => stems_carried journaled listed, consumed_once empty_distinct journaled,
    exchanged_once empty_distinct journaled, ?_⟩
  · intro call ended sessionSecret requirement now result asked answered taken
    have promised := kept_promise kept ended
    rw [asked, answered] at promised
    obtain ⟨session, ⟨more, ⟨before, _, answer, left⟩, grown, made, rfl, accepted⟩, use, _⟩ := promised.accepted taken
    obtain rfl : answer = some session := accepted
    exact ⟨more, _, session, grown, made, rfl, if_pos use⟩
  · intro before commit after use split of
    exact ⟨kept.invariant.uses before commit after use split of, usable_before (use_usable of)⟩
  · intro early late middle _ reached onward call ended sessionSecret requirement now result asked answered ⟨between, grown⟩ row listed digest
      standing active since reckoned lasts
    have promised := kept_promise kept ended
    rw [asked, answered] at promised
    have middle_kept := account_kept reached
    have later := (kept_run (fun request world _ => account_opens request world) middle_kept onward).2
    obtain ⟨old, there, same, authenticatedAt, before⟩ :=
      reckoned_in_time reached kept.invariant later listed standing reckoned lasts
    obtain ⟨ends, idle, maximum⟩ := lasts
    obtain ⟨latest, absolute, limit⟩ := checked_add_fits maximum
    obtain ⟨renewed, renews⟩ := renewed_until_fits policy idle maximum
    have inside : now < latest := by
      show now.value < latest.value
      rw [endOf] at ends
      omega
    by_cases taken : TakesUse result
    · exact .inl taken
    · cases result with
      | ok principal => exact absurd (.inl ⟨principal, rfl⟩) taken
      | error failed =>
        have plain : failed.kind ≠ .reauthenticationRequired := fun kind => taken (.inr ⟨failed, rfl, kind⟩)
        rcases promised.refused failed rfl plain with unavailable | ⟨more, commit, grew, made, vain⟩
        · exact .inr ⟨failed, rfl, unavailable⟩
        · rw [← digest] at vain
          rw [← authenticatedAt] at absolute renews
          exact absurd vain (goes_on middle_kept.invariant kept.invariant there listed same standing active before
            absolute inside renews ⟨between, by rw [grew, grown, List.append_assoc]⟩ made)
  · intro before commit after codeDigest split of
    obtain ⟨_, performs, _⟩ := run_split split journaled
    obtain ⟨⟨row, listed, mine, _, codeChallenge, session, now, op, challenge⟩, _⟩ := exchanged_spent performs of
    obtain ⟨made, inside, same, presents⟩ := calls_present run commit (by rw [split]; exact List.mem_append_cons_self)
    rw [op] at presents
    obtain ⟨code, verifier, asked, digest, derived⟩ := presents
    exact ⟨row, listed, mine, made, inside, same, code, verifier, asked, digest, challenge ▸ derived⟩

end

-- Before both ends, but only by a step before the idle one.
def LastsToBothEnds (policy : AuthenticationPolicy) (authenticatedAt since now : UtcMillis) : Prop :=
  now.value < authenticatedAt.value + policy.sessionLifetime.maximum.value ∧
    now.value + policy.sessionRenewalStep < since.value + policy.sessionLifetime.idle.value

def cappedPolicy : AuthenticationPolicy := ⟨1000, ⟨10000, 15000, by decide⟩, 5000, 5000⟩

def cappedTurn (scene : AccountScene) (turn : Turn AccountRequest) : AccountScene :=
  enact (oblige leakSecret ⟨"https://id.example", "state", "nonce", "verifier"⟩ fun now => ⟨"issuer", "subject", some now⟩) (tick 500)
    (accountProgram cappedPolicy leakEncodings) scene turn

theorem enacted_capped {turns : List (Turn AccountRequest)} :
    ∃ taken, AccountRuns cappedPolicy leakEncodings scene taken (turns.foldl cappedTurn scene) :=
  enacted_run accountEnvironment (oblige_replies _ _ _) (tick_passes) (accountProgram cappedPolicy leakEncodings) scene turns

def usedAfter (after : Nat) : List (Turn AccountRequest) := List.replicate after .outside ++ alone (.authenticate (leakSecret 2) .activeSession)

def usedScene : AccountScene :=
  (alone (.beginLogin (.web "/") .signIn) ++ alone (.completeLogin "code" "state" (leakSecret 0) none) ++ usedAfter 9 ++ usedAfter 19).foldl cappedTurn
    (openingAt 0)

def refusedScene : AccountScene := (usedAfter 1).foldl cappedTurn usedScene

instance (op : StoreOp) : DecidableEq (StoreAnswer op) :=
  match op with
  | .create _ => inferInstanceAs (DecidableEq Unit)
  | .consume _ _ _ => inferInstanceAs (DecidableEq (Option LoginAttempt))
  | .complete _ _ => inferInstanceAs (DecidableEq StoredWebSession)
  | .completeDesktop _ _ | .suspend _ _ => inferInstanceAs (DecidableEq Principal)
  | .authorizeDesktopSession _ _ _ | .exchangeDesktop _ _ _ _ | .findActive _ _ => inferInstanceAs (DecidableEq (Option StoredWebSession))
  | .revoke _ _ => inferInstanceAs (DecidableEq (Option SignInAccount))
  | .revokeOthers _ _ _ _ => inferInstanceAs (DecidableEq (Option OtherSessionsRevoked))
  | .extend _ _ => inferInstanceAs (DecidableEq Bool)

deriving instance DecidableEq for Commit

def lastUse (scene : AccountScene) : Option (AccountRequest × List Commit × UtcMillis × Except AuthenticationFailure AuthenticatedPrincipal) :=
  match scene.ended.getLast? with
  | some ⟨request, origin, .ok (.authenticated now result)⟩ => some (request, origin.journal, now, result)
  | _ => none

theorem last_use (scene : AccountScene) (request : AccountRequest) (journal : List Commit) (now : UtcMillis)
    (result : Except AuthenticationFailure AuthenticatedPrincipal) (last : lastUse scene = some (request, journal, now, result)) :
    ∃ call ∈ scene.ended, call.request = request ∧ call.origin.journal = journal ∧ call.result = .ok (.authenticated now result) := by
  unfold lastUse at last
  split at last
  · rename_i found
    cases last
    exact ⟨_, List.mem_of_getLast? found, rfl, rfl, rfl⟩
  · cases last

-- Used after 14 seconds, the session is refused half a second later, before both its ends.
theorem refused_before_both_ends : ¬ ∀ policy encodings start turns final, AccountRuns policy encodings (openingAt start) turns final →
    SessionLifetime policy encodings LastsToBothEnds start turns final := by
  intro always
  obtain ⟨early, reached⟩ : ∃ taken, AccountRuns cappedPolicy leakEncodings (openingAt 0) taken usedScene := enacted_capped
  obtain ⟨late, onward⟩ : ∃ taken, AccountRuns cappedPolicy leakEncodings usedScene taken refusedScene := enacted_capped
  have lasting := (always _ _ _ _ _ ((runs_append ..).mpr ⟨_, reached, onward⟩)).lasting early late usedScene rfl reached onward
  let accepted : AuthenticatedPrincipal := ⟨⟨2⟩, 0, 15000, false⟩
  let refused : AuthenticationFailure := ⟨"authentication.authenticate", .invalidSession⟩
  obtain ⟨use, used, asked, _, taken⟩ := last_use usedScene (.authenticate (leakSecret 2) .activeSession)
    (usedScene.world.journal.take 5) 14000 (.ok accepted) (by decide +kernel)
  obtain ⟨call, ended, asked', origin, answered⟩ := last_use refusedScene (.authenticate (leakSecret 2) .activeSession) usedScene.world.journal
    14500 (.error refused) (by decide +kernel)
  have row : ∃ row ∈ refusedScene.world.store.sessions, row.secretDigest = leakEncodings.digest (leakSecret 2) ∧ row.revokedAt = none ∧
      row.authenticatedAt = 0 := by decide +kernel
  have active : ∀ owner ∈ refusedScene.world.store.principals, owner.principal.allowsAuthentication = true := by decide +kernel
  obtain ⟨row, listed, digest, standing, authenticatedAt⟩ := row
  have outcome := lasting call ended _ _ 14500 _ asked' answered ⟨[], by rw [origin, List.append_nil]⟩ row listed digest standing
    (fun owner known _ => active owner known) 14000 (.inr ⟨use, used, _, _, _, asked, digest.symm, taken, .inl ⟨accepted, rfl⟩⟩)
    (authenticatedAt ▸ ⟨by decide, by decide⟩)
  rcases outcome with (⟨_, impossible⟩ | ⟨failed, same, kind⟩) | ⟨failed, same, kind⟩
  · cases impossible
  · cases same
    cases kind
  · cases same
    cases kind

-- From the used session comes a desktop one. Its stored expiry lies past the absolute limit, where its second use fails.
def chainedScene : AccountScene :=
  (alone (.authorizeDesktop (leakSecret 2) "desktop" leakVerifier "/") ++ alone (.exchangeDesktop (leakSecret 7) leakVerifier) ++
    alone (.authenticate (leakSecret 8) .activeSession) ++ List.replicate 2 Turn.outside ++
    alone (.authenticate (leakSecret 8) .activeSession)).foldl cappedTurn usedScene

theorem used_session_lives_as_long : ∃ turns, SessionLifetime cappedPolicy leakEncodings LastsAlmost 0 turns chainedScene ∧
    chainedScene.world.store.sessions.map (fun row => (row.createdAt, row.authenticatedAt, row.expiresAt)) =
      [(0, 0, 14500), (14000, 0, 24000)] := by
  obtain ⟨early, reached⟩ : ∃ taken, AccountRuns cappedPolicy leakEncodings (openingAt 0) taken usedScene := enacted_capped
  obtain ⟨late, onward⟩ : ∃ taken, AccountRuns cappedPolicy leakEncodings usedScene taken chainedScene := enacted_capped
  have run := (runs_append ..).mpr ⟨_, reached, onward⟩
  exact ⟨_, sessions_live_as_long_as_they_should cappedPolicy leakEncodings 0 _ chainedScene run, by decide +kernel⟩

-- No stored session is dropped, revived, shortened or handed on.
theorem sessions_keep_their_owner (policy : AuthenticationPolicy) (encodings : AccountEncodings) (start : UtcMillis)
    (early late : List (Turn AccountRequest)) (middle final : AccountScene) (run : AccountRuns policy encodings (openingAt start) early middle)
    (onward : AccountRuns policy encodings middle late final) : Distinct final.world.store ∧
    ∀ row ∈ middle.world.store.sessions, ∃ now ∈ final.world.store.sessions, Later row now := by
  have kept := account_kept run
  obtain ⟨kept', later⟩ := kept_run (fun request world _ => account_opens request world) kept onward
  obtain ⟨more, grown⟩ := later.journal
  exact ⟨run_distinct empty_distinct kept'.invariant.journaled,
    fun row listed => session_persists listed (onward_run kept.invariant.journaled kept'.invariant.journaled grown)⟩

theorem used_session_stays : ∃ row ∈ usedScene.world.store.sessions, ∃ now ∈ refusedScene.world.store.sessions, Later row now := by
  obtain ⟨early, reached⟩ : ∃ taken, AccountRuns cappedPolicy leakEncodings (openingAt 0) taken usedScene := enacted_capped
  obtain ⟨late, onward⟩ : ∃ taken, AccountRuns cappedPolicy leakEncodings usedScene taken refusedScene := enacted_capped
  obtain ⟨row, listed⟩ := List.exists_mem_of_length_pos (show 0 < usedScene.world.store.sessions.length by decide +kernel)
  exact ⟨row, listed, (sessions_keep_their_owner _ _ _ _ _ _ _ reached onward).2 row listed⟩

end AgentRoom.Account
