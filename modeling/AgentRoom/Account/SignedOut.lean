import AgentRoom.Account.Bearers

namespace AgentRoom.Account

open Library AccountStore

structure SignOut where
  principalId : PrincipalId
  keep : Option SecretDigest
  now : UtcMillis
  issued : Option SecretDigest
  before : AccountStore

def signOutOf (commit : Commit) : Option SignOut :=
  match commit.op with
  | .revokeOthers principalId keep now issued => some ⟨principalId, keep, now, issued, commit.before⟩
  | _ => none

namespace SignOut

variable (signOut : SignOut)

-- The sessions it did not revoke since their time was over.
def Lapsed (id : WebSessionId) : Prop :=
  ∃ old ∈ signOut.before.sessions, old.id = id ∧ old.principalId = signOut.principalId ∧ old.revokedAt = none ∧
    old.expiresAt ≤ signOut.now ∧ signOut.keep ≠ some old.secretDigest

def Left (codeDigest : SecretDigest) : Prop :=
  (∃ old ∈ signOut.before.codes, old.codeDigest = codeDigest ∧ old.principalId = signOut.principalId) ∧
    signOut.issued ≠ some codeDigest

-- No such code is exchanged afterwards, no session that had lapsed is prolonged past the
-- sign-out, or looked up in its time by a call that read the clock before it, and no
-- login authenticated before it is completed after it.
def Clear (commit : Commit) : Prop :=
  match commit.op with
  | .complete registration session =>
    commit.before.accountPrincipal registration = signOut.principalId → signOut.now ≤ session.authenticatedAt
  | .completeDesktop registration authorization =>
    commit.before.accountPrincipal registration = signOut.principalId → signOut.now ≤ authorization.authenticatedAt
  | .exchangeDesktop codeDigest codeChallenge _ now =>
    (∃ code ∈ commit.before.codes, outstanding codeDigest codeChallenge now code = true) → ¬ signOut.Left codeDigest
  | .extend sessionId expiresAt => signOut.Lapsed sessionId → expiresAt ≤ signOut.now
  | .findActive secretDigest now | .authorizeDesktopSession secretDigest _ now =>
    ∀ row ∈ commit.before.sessions, row.secretDigest = secretDigest → signOut.Lapsed row.id →
      signOut.now ≤ now ∨ row.expiresAt ≤ now
  | _ => True

instance (id : WebSessionId) : Decidable (signOut.Lapsed id) := inferInstanceAs (Decidable (∃ old ∈ signOut.before.sessions, _))

instance (codeDigest : SecretDigest) : Decidable (signOut.Left codeDigest) :=
  inferInstanceAs (Decidable ((∃ old ∈ signOut.before.codes, _) ∧ _))

instance (commit : Commit) : Decidable (signOut.Clear commit) :=
  match commit with
  | ⟨before, .complete registration session, _, _⟩ =>
    inferInstanceAs (Decidable (before.accountPrincipal registration = _ → signOut.now ≤ session.authenticatedAt))
  | ⟨before, .completeDesktop registration authorization, _, _⟩ =>
    inferInstanceAs (Decidable (before.accountPrincipal registration = _ → signOut.now ≤ authorization.authenticatedAt))
  | ⟨before, .exchangeDesktop _ _ _ _, _, _⟩ => inferInstanceAs (Decidable ((∃ code ∈ before.codes, _) → ¬ _))
  | ⟨_, .extend sessionId _, _, _⟩ => inferInstanceAs (Decidable (signOut.Lapsed sessionId → _))
  | ⟨before, .findActive _ _, _, _⟩ => inferInstanceAs (Decidable (∀ row ∈ before.sessions, _ → _ → _ ∨ _))
  | ⟨before, .authorizeDesktopSession _ _ _, _, _⟩ => inferInstanceAs (Decidable (∀ row ∈ before.sessions, _ → _ → _ ∨ _))
  | ⟨_, .create _, _, _⟩ | ⟨_, .consume _ _ _, _, _⟩ | ⟨_, .revoke _ _, _, _⟩ | ⟨_, .revokeOthers _ _ _ _, _, _⟩ |
    ⟨_, .suspend _ _, _, _⟩ => inferInstanceAs (Decidable True)

-- What may still be used to begin with: the kept session, the code of the login itself,
-- and what is authenticated from then on.
inductive Begins (after : List Commit) : Bearer → Prop
  | kept (row : WebSessionRow) (listed : row ∈ signOut.before.sessions) (kept : signOut.keep = some row.secretDigest) :
      Begins after (.session row.id)
  | issued (codeDigest : SecretDigest) (issued : signOut.issued = some codeDigest) : Begins after (.code codeDigest)
  | login (commit : Commit) (made : commit ∈ after) (bearer : Bearer) (authenticatedAt : UtcMillis)
      (brings : Brings commit bearer authenticatedAt) (recent : signOut.now ≤ authenticatedAt) : Begins after bearer

def Admitted (after : List Commit) (bearer : Bearer) : Prop := Comes after (signOut.Begins after) bearer

theorem admitted_more (sub : ∀ commit ∈ earlier, commit ∈ later)
    (admitted : signOut.Admitted earlier bearer) : signOut.Admitted later bearer := by
  refine comes_more sub (fun bearer begins => ?_) admitted
  cases begins with
  | kept row listed kept => exact .kept row listed kept
  | issued codeDigest issued => exact .issued codeDigest issued
  | login commit made bearer authenticatedAt brings recent => exact .login commit (sub commit made) bearer authenticatedAt brings recent

theorem admitted_snoc {after : List Commit} (admitted : signOut.Admitted after bearer) :
    signOut.Admitted (after ++ [last]) bearer :=
  admitted_more signOut (fun _ listed => List.mem_append_left _ listed) admitted

-- Each session of the person is kept, or came later, or is revoked, or is past its time for good.
def SessionClear (after : List Commit) (row : WebSessionRow) : Prop :=
  signOut.keep = some row.secretDigest ∧ signOut.Admitted after (.session row.id) ∨
    (∀ old ∈ signOut.before.sessions, old.id ≠ row.id) ∧ signOut.Admitted after (.session row.id) ∨
    row.revokedAt ≠ none ∨ signOut.Lapsed row.id ∧ row.expiresAt ≤ signOut.now

structure Holds (after : List Commit) (store : AccountStore) : Prop where
  sessions : ∀ row ∈ store.sessions, row.principalId = signOut.principalId → signOut.SessionClear after row
  codes : ∀ row ∈ store.codes, row.principalId = signOut.principalId →
    signOut.Admitted after (.code row.codeDigest) ∨ signOut.Left row.codeDigest

variable {signOut : SignOut} {after : List Commit} {store next : AccountStore}

variable {row : WebSessionRow}

theorem session_clear_more (clear : signOut.SessionClear after row) : signOut.SessionClear (after ++ [commit]) row := by
  rcases clear with ⟨kept, admitted⟩ | ⟨fresh, admitted⟩ | revoked | lapsed
  · exact .inl ⟨kept, admitted_snoc signOut admitted⟩
  · exact .inr (.inl ⟨fresh, admitted_snoc signOut admitted⟩)
  · exact .inr (.inr (.inl revoked))
  · exact .inr (.inr (.inr lapsed))

theorem rewritten_clear (allowed : signOut.Clear commit) (clear : signOut.SessionClear after row) :
    signOut.SessionClear after (rewritten commit.op row) := by
  have later := rewritten_later commit.op row
  rcases clear with ⟨kept, admitted⟩ | ⟨fresh, admitted⟩ | revoked | ⟨lapsed, ended⟩
  · exact .inl ⟨by rw [later.digest]; exact kept, by rw [later.id]; exact admitted⟩
  · exact .inr (.inl ⟨by rw [later.id]; exact fresh, by rw [later.id]; exact admitted⟩)
  · rw [later.revoked revoked]
    exact .inr (.inr (.inl revoked))
  · refine .inr (.inr (.inr ⟨by rw [later.id]; exact lapsed, ?_⟩))
    rcases rewritten_expiry commit.op row with same | ⟨expiresAt, extended, same⟩
    · rw [same]
      exact ended
    · rw [Clear, extended] at allowed
      rw [same]
      exact allowed lapsed

def Remembers (signOut : SignOut) (store : AccountStore) : Prop :=
  ∀ old ∈ signOut.before.sessions, ∃ row ∈ store.sessions, row.id = old.id ∧ row.secretDigest = old.secretDigest

theorem remembers_step (remembers : signOut.Remembers store) (changed : Changed store commit next) : signOut.Remembers next := by
  intro old listed
  obtain ⟨row, there, same, digest⟩ := remembers old listed
  have later := rewritten_later commit.op row
  refine ⟨rewritten commit.op row, ?_, later.id.trans same, later.digest.trans digest⟩
  rw [changed.sessions]
  exact List.mem_append_left _ (List.mem_map_of_mem there)

section

variable (holds : signOut.Holds after store)
include holds

theorem found_clear (allowed : signOut.Clear commit)
    (before : commit.before = store) (changed : Changed store commit next) (accepted : commit.accepted = some session)
    (mine : session.principal.id = signOut.principalId) : signOut.Admitted after (.session session.id) ∧
      ((∃ row ∈ store.sessions, row.id = session.id ∧ signOut.keep = some row.secretDigest) ∨
        ∀ old ∈ signOut.before.sessions, old.id ≠ session.id) := by
  obtain ⟨secretDigest, now, row, presented, finds⟩ := changed.accepts session accepted
  have identified : session.id = row.id := by
    rw [finds.answered]
    rfl
  rw [identified]
  rcases holds.sessions row finds.listed (finds.owner.symm.trans mine) with ⟨kept, admitted⟩ | ⟨fresh, admitted⟩ | revoked | ⟨lapsed, ended⟩
  · exact ⟨admitted, .inl ⟨row, finds.listed, rfl, kept⟩⟩
  · exact ⟨admitted, .inr fresh⟩
  · exact absurd finds.standing revoked
  · have late : signOut.now ≤ now ∨ row.expiresAt ≤ now := by
      unfold Commit.presented at presented
      unfold Clear at allowed
      split at presented
      · rename_i op
        cases presented
        rw [op] at allowed
        exact allowed row (before ▸ finds.listed) finds.digest lapsed
      · rename_i op
        cases presented
        rw [op] at allowed
        exact allowed row (before ▸ finds.listed) finds.digest lapsed
      · cases presented
    have ended : row.expiresAt ≤ now := late.elim (fun since => UtcMillis.le_trans _ _ _ ended since) id
    exact absurd finds.before ((UtcMillis.not_lt_iff _ _).mpr ended)

theorem opened_clear (remembers : signOut.Remembers store) (allowed : signOut.Clear commit)
    (performs : Performs store commit next) (opened : row ∈ commit.opened)
    (mine : row.principalId = signOut.principalId) : signOut.SessionClear (after ++ [commit]) row := by
  have changed := performs_changed performs
  have last : commit ∈ after ++ [commit] := List.mem_concat_self
  have fresh : ∀ old ∈ signOut.before.sessions, old.id ≠ row.id := by
    intro old listed same
    obtain ⟨there, inside, identified, _⟩ := remembers old listed
    exact (changed.freshSessions row opened there inside).1 (identified.trans same)
  rcases opened_from performs opened with ⟨brings, _, session, op, same, owner⟩ | ⟨code, there, begets, _, owner, _, _, _, op, waiting, _⟩
  · rw [Clear, op, performs.1] at allowed
    have recent := allowed (owner.symm.trans mine)
    rw [same] at recent
    exact .inr (.inl ⟨fresh, .first _ (.login commit last _ _ brings recent)⟩)
  · rw [Clear, op, performs.1] at allowed
    rcases holds.codes code there (owner.symm.trans mine) with admitted | left
    · exact .inr (.inl ⟨fresh, .next commit last _ _ begets (admitted_snoc signOut admitted)⟩)
    · exact absurd left (allowed ⟨code, there, waiting⟩)

theorem issued_admitted (allowed : signOut.Clear commit) (performs : Performs store commit next)
    {code : DesktopCodeRow} (issued : code ∈ commit.issued) (mine : code.principalId = signOut.principalId) :
    signOut.Admitted (after ++ [commit]) (.code code.codeDigest) := by
  have changed := performs_changed performs
  have last : commit ∈ after ++ [commit] := List.mem_concat_self
  rcases issued_from performs issued with ⟨brings, _, _, op, same, owner⟩ | ⟨row, _, session, begets, _, accepted, identified, owner⟩
  · rw [Clear, op, performs.1] at allowed
    exact .first _ (.login commit last _ _ brings (same ▸ allowed (owner.symm.trans mine)))
  · have admitted := (found_clear holds allowed performs.1 changed accepted (owner.symm.trans mine)).1
    exact .next commit last _ _ begets (admitted_snoc signOut (identified ▸ admitted))

theorem holds_step (remembers : signOut.Remembers store) (allowed : signOut.Clear commit)
    (performs : Performs store commit next) : signOut.Holds (after ++ [commit]) next := by
  have changed := performs_changed performs
  refine ⟨fun row listed mine => ?_, fun code listed mine => ?_⟩
  · rw [changed.sessions] at listed
    rcases List.mem_append.mp listed with rewrote | opened
    · obtain ⟨old, there, rfl⟩ := List.mem_map.mp rewrote
      have owned : old.principalId = signOut.principalId := (rewritten_later commit.op old).owner.symm.trans mine
      exact session_clear_more (rewritten_clear allowed (holds.sessions old there owned))
    · exact opened_clear holds remembers allowed performs opened mine
  · rw [changed.codes] at listed
    rcases List.mem_append.mp listed with rewrote | issued
    · obtain ⟨old, there, rfl⟩ := List.mem_map.mp rewrote
      obtain ⟨same, owner, _⟩ := spent_same commit.op old
      have digest : (spent commit.op old).codeDigest = old.codeDigest := congrArg _ same
      rw [digest]
      rcases holds.codes old there (owner.symm.trans mine) with admitted | left
      · exact .inl (admitted_snoc signOut admitted)
      · exact .inr left
    · exact .inl (issued_admitted holds allowed performs issued mine)

theorem holds_run (remembers : signOut.Remembers store)
    (allowed : ∀ commit ∈ later, signOut.Clear commit) (run : Runs Performs store later final) :
    signOut.Holds (after ++ later) final ∧ signOut.Remembers final := by
  induction later generalizing after store with
  | nil =>
    cases run
    exact ⟨by rw [List.append_nil]; exact holds, remembers⟩
  | cons commit rest ih =>
    obtain ⟨next, performs, onward⟩ := run
    have mine := allowed commit List.mem_cons_self
    have stepped := holds_step holds remembers mine performs
    have still := remembers_step remembers (performs_changed performs)
    have ended := ih stepped still (fun other listed => allowed other (List.mem_cons_of_mem _ listed)) onward
    rw [List.append_assoc] at ended
    exact ended

end

theorem holds_start (of : signOutOf entry = some signOut) (performs : Performs entry.before entry entry.after) :
    signOut.Holds [] entry.after ∧ signOut.Remembers entry.after := by
  have changed := performs_changed performs
  have remembers : signOut.Remembers entry.before → signOut.Remembers entry.after := fun before => remembers_step before changed
  obtain ⟨before, op, answer, left⟩ := entry
  cases op with
  | revokeOthers principalId keep now issued =>
    cases of
    refine ⟨⟨fun row listed mine => ?_, fun code listed mine => ?_⟩, remembers fun old listed => ⟨old, listed, rfl, rfl⟩⟩
    · rw [changed.sessions] at listed
      rcases List.mem_append.mp listed with rewrote | none'
      · obtain ⟨old, there, rfl⟩ := List.mem_map.mp rewrote
        have later := rewritten_later (.revokeOthers principalId keep now issued) old
        by_cases kept : keep = some old.secretDigest
        · refine .inl ⟨by rw [later.digest]; exact kept, ?_⟩
          rw [later.id]
          exact .first _ (.kept old there kept)
        · by_cases gone : old.revokedAt = none
          · by_cases before' : now < old.expiresAt
            · have selected : other principalId keep now old = true :=
                decide_eq_true ⟨later.owner.symm.trans mine, gone, before', kept⟩
              simp only [rewritten, selected, if_true]
              exact .inr (.inr (.inl (Option.some_ne_none _)))
            · have selected : other principalId keep now old = false :=
                decide_eq_false fun all => before' all.2.2.1
              simp only [rewritten, selected, Bool.false_eq_true, if_false]
              have ended := (UtcMillis.not_lt_iff _ _).mp before'
              exact .inr (.inr (.inr ⟨⟨old, there, rfl, later.owner.symm.trans mine, gone, ended, kept⟩, ended⟩))
          · rw [later.revoked gone]
            exact .inr (.inr (.inl gone))
      · cases none'
    · have same : left.codes = before.codes := changed.codes.trans (kept_all fun _ _ => rfl).symm
      rw [same] at listed
      by_cases own : issued = some code.codeDigest
      · exact .inl (.first _ (.issued code.codeDigest own))
      · exact .inr ⟨⟨code, listed, rfl, mine⟩, own⟩
  | _ => cases of

end SignOut

def loggedOutOf (commit : Commit) : Option SecretDigest :=
  match commit.op with
  | .revoke secretDigest _ => if (commit.before.sessions.any fun row => decide (row.secretDigest = secretDigest)) = true then some secretDigest else none
  | _ => none

def suspendedOf (commit : Commit) : Option PrincipalId :=
  match commit.op with
  | .suspend principalId _ => some principalId
  | _ => none

-- After a sign-out elsewhere only what may still be used is accepted, and of the
-- sessions there were only the kept one; a session that was logged out is not, nor any
-- of a suspended person, who gets no new one either.
structure SignedOutForGood (journal : List Commit) : Prop where
  elsewhere : EachSince signOutOf (fun signOut after => ∀ commit ∈ after, ∀ session, commit.accepted = some session →
    session.principal.id = signOut.principalId → signOut.Admitted after (.session session.id) ∧
      ∀ old ∈ signOut.before.sessions, old.id = session.id → signOut.keep = some old.secretDigest) journal
  loggedOut : EachSince loggedOutOf (fun secretDigest after => ∀ commit ∈ after, ∀ session, commit.accepted = some session →
    ∀ now, commit.presented ≠ some (secretDigest, now)) journal
  suspended : EachSince suspendedOf (fun principalId after => ∀ commit ∈ after,
    (∀ session, commit.accepted = some session → session.principal.id ≠ principalId) ∧
      ∀ row ∈ commit.opened, row.principalId ≠ principalId) journal

theorem signed_out_elsewhere (distinct : Distinct start) (run : Runs Performs start journal final)
    (clear : EachSince signOutOf (fun signOut after => ∀ commit ∈ after, signOut.Clear commit) journal) :
    EachSince signOutOf (fun signOut after => ∀ commit ∈ after, ∀ session, commit.accepted = some session →
      session.principal.id = signOut.principalId → signOut.Admitted after (.session session.id) ∧
        ∀ old ∈ signOut.before.sessions, old.id = session.id → signOut.keep = some old.secretDigest) journal := by
  intro before entry after signOut split of commit made session accepted mine
  obtain ⟨early, performs, late⟩ := run_split split run
  obtain ⟨holds, remembers⟩ := SignOut.holds_start of performs
  have allowed := clear before entry after signOut split of
  have fresh := changed_distinct (performs_changed performs) (run_distinct distinct early)
  obtain ⟨earlier, later, inner⟩ := List.append_of_mem made
  obtain ⟨reached, committed, _⟩ := run_split inner late
  have still := SignOut.holds_run holds remembers
    (fun other listed => allowed other (by rw [inner]; exact List.mem_append_left _ listed)) reached
  rw [List.nil_append] at still
  have changed := performs_changed committed
  obtain ⟨admitted, known⟩ := SignOut.found_clear still.1 (allowed commit made) rfl changed accepted mine
  refine ⟨SignOut.admitted_more signOut (fun other listed => by rw [inner]; exact List.mem_append_left _ listed) admitted, ?_⟩
  intro old listed same
  rcases known with ⟨row, there, identified, kept⟩ | new
  · obtain ⟨other, inside, sameId, digest⟩ := still.2 old listed
    have one := same_session (run_distinct fresh reached) inside there
      (sameId.trans (same.trans identified.symm))
    rw [kept, ← one, digest]
  · exact absurd same (new old listed)

theorem logged_out_for_good (distinct : Distinct start) (run : Runs Performs start journal final) :
    EachSince loggedOutOf (fun secretDigest after => ∀ commit ∈ after, ∀ session, commit.accepted = some session →
      ∀ now, commit.presented ≠ some (secretDigest, now)) journal := by
  intro before entry after secretDigest split of commit made session accepted now presented
  obtain ⟨early, performs, late⟩ := run_split split run
  have changed := performs_changed performs
  have fresh := changed_distinct changed (run_distinct distinct early)
  have gone : ∃ row ∈ entry.after.sessions, row.secretDigest = secretDigest ∧ row.revokedAt ≠ none := by
    unfold loggedOutOf at of
    split at of
    · rename_i digest revokedAt op
      split at of
      · rename_i known
        cases of
        obtain ⟨old, there, same⟩ := List.any_eq_true.mp known
        have digest := of_decide_eq_true same
        refine ⟨rewritten entry.op old, ?_, (rewritten_later entry.op old).digest.trans digest, ?_⟩
        · rw [changed.sessions]
          exact List.mem_append_left _ (List.mem_map_of_mem there)
        · by_cases standing' : old.revokedAt = none
          · have selected : standing secretDigest old = true := decide_eq_true ⟨digest, standing'⟩
            rw [op]
            simp only [rewritten, selected, if_true]
            exact Option.some_ne_none _
          · rw [(rewritten_later entry.op old).revoked standing']
            exact standing'
      · cases of
    · cases of
  obtain ⟨row, listed, digest, revoked⟩ := gone
  obtain ⟨earlier, later, inner⟩ := List.append_of_mem made
  obtain ⟨reached, committed, _⟩ := run_split inner late
  obtain ⟨presentedDigest, _, found, shown, finds⟩ := (performs_changed committed).accepts session accepted
  cases presented.symm.trans shown
  obtain ⟨still, there, since⟩ := session_persists listed reached
  have one := same_secret (run_distinct fresh reached) finds.listed there
    (finds.digest.trans (since.digest.trans digest).symm)
  have same := since.revoked revoked
  rw [one, same] at finds
  exact revoked finds.standing

structure Barred (principalId : PrincipalId) (store : AccountStore) : Prop where
  known : ∃ row ∈ store.principals, row.principal.id = principalId
  inactive : ∀ row ∈ store.principals, row.principal.id = principalId → row.principal.allowsAuthentication = false
  revoked : ∀ row ∈ store.sessions, row.principalId = principalId → row.revokedAt ≠ none

theorem barred_inactive (inactive : row.principal.allowsAuthentication = false) :
    (barred op row).principal.allowsAuthentication = false := by
  cases op with
  | suspend principalId now =>
    by_cases mine : row.principal.id = principalId
    · simp only [barred, mine, if_true]
      rfl
    · simp only [barred, mine, if_false]
      exact inactive
  | _ => exact inactive

theorem barred_step (changed : Changed store commit next) (known : ∃ row ∈ store.principals, row.principal.id = principalId)
    (inactive : ∀ row ∈ store.principals, row.principal.id = principalId → (barred commit.op row).principal.allowsAuthentication = false)
    (revoked : ∀ row ∈ store.sessions, row.principalId = principalId → (rewritten commit.op row).revokedAt ≠ none) :
    Barred principalId next ∧ ∀ row ∈ commit.opened, row.principalId ≠ principalId := by
  obtain ⟨more, same, _, fresh⟩ := changed.principals
  have inactive' : ∀ row ∈ next.principals, row.principal.id = principalId → row.principal.allowsAuthentication = false := by
    intro row listed mine
    rw [same] at listed
    rcases List.mem_append.mp listed with rewrote | new
    · obtain ⟨old, there, rfl⟩ := List.mem_map.mp rewrote
      exact inactive old there ((barred_id commit.op old).symm.trans mine)
    · obtain ⟨old, there, known⟩ := known
      exact absurd (known.trans mine.symm) (fresh row new old there)
  have none' : ∀ row ∈ commit.opened, row.principalId ≠ principalId := by
    intro row opened mine
    obtain ⟨there, inside, owner, active⟩ := changed.owned row opened
    rw [inactive' there inside (owner.trans mine)] at active
    cases active
  refine ⟨⟨?_, inactive', ?_⟩, none'⟩
  · obtain ⟨row, there, mine⟩ := known
    refine ⟨barred commit.op row, ?_, (barred_id commit.op row).trans mine⟩
    rw [same]
    exact List.mem_append_left _ (List.mem_map_of_mem there)
  · intro row listed mine
    rw [changed.sessions] at listed
    rcases List.mem_append.mp listed with rewrote | opened
    · obtain ⟨old, there, rfl⟩ := List.mem_map.mp rewrote
      exact revoked old there ((rewritten_later commit.op old).owner.symm.trans mine)
    · exact absurd mine (none' row opened)

theorem barred_run (held : Barred principalId start) (run : Runs Performs start journal final) : Barred principalId final := by
  refine runs_invariant (Barred principalId) (fun store commit next before performs => ?_) held run
  refine (barred_step (performs_changed performs) before.known
    (fun row there mine => barred_inactive (before.inactive row there mine)) fun row there mine => ?_).1
  rw [(rewritten_later commit.op row).revoked (before.revoked row there mine)]
  exact before.revoked row there mine

theorem suspended_for_good (run : Runs Performs start journal final) :
    EachSince suspendedOf (fun principalId after => ∀ commit ∈ after,
      (∀ session, commit.accepted = some session → session.principal.id ≠ principalId) ∧
        ∀ row ∈ commit.opened, row.principalId ≠ principalId) journal := by
  intro before entry after principalId split of commit made
  obtain ⟨early, performs, late⟩ := run_split split run
  have changed := performs_changed performs
  have held : Barred principalId entry.after := by
    obtain ⟨found, op, answer, left⟩ := entry
    cases op with
    | suspend _ now =>
      cases of
      have known : ∃ row ∈ found.principals, row.principal.id = principalId := by
        have performed := performs.2.1
        simp only [AccountStore.perform, suspend] at performed
        cases there : found.principalById principalId with
        | none => simp only [there, reduceCtorEq] at performed
        | some row => exact ⟨row, principal_by_id_some found there⟩
      refine (barred_step changed known (fun row _ mine => ?_) fun row _ mine => ?_).1
      · simp only [barred, mine, if_true]
        rfl
      · by_cases standing' : row.revokedAt = none
        · have selected : unrevoked principalId row = true := decide_eq_true ⟨mine, standing'⟩
          simp only [rewritten, selected, if_true]
          exact Option.some_ne_none _
        · rw [(rewritten_later (.suspend principalId now) row).revoked standing']
          exact standing'
    | _ => cases of
  obtain ⟨earlier, later, inner⟩ := List.append_of_mem made
  obtain ⟨reached, committed, _⟩ := run_split inner late
  have still := barred_run held reached
  have changed' := performs_changed committed
  refine ⟨fun session accepted mine => ?_, ?_⟩
  · obtain ⟨_, _, row, _, finds⟩ := changed'.accepts session accepted
    exact still.revoked row finds.listed (finds.owner.symm.trans mine) finds.standing
  · refine (barred_step changed' still.known
      (fun row there mine => barred_inactive (still.inactive row there mine)) fun row there mine => ?_).2
    rw [(rewritten_later commit.op row).revoked (still.revoked row there mine)]
    exact still.revoked row there mine

theorem signed_out_for_good (distinct : Distinct start) (run : Runs Performs start journal final)
    (clear : EachSince signOutOf (fun signOut after => ∀ commit ∈ after, signOut.Clear commit) journal) : SignedOutForGood journal :=
  ⟨signed_out_elsewhere distinct run clear, logged_out_for_good distinct run, suspended_for_good run⟩

-- In every run of the service, as long as no step is one of those that go wrong.
theorem sign_outs_are_final (policy : AuthenticationPolicy) (encodings : AccountEncodings) (now : UtcMillis)
    (turns : List (Turn AccountRequest)) (final : AccountScene) (run : AccountRuns policy encodings (openingAt now) turns final)
    (clear : EachSince signOutOf (fun signOut after => ∀ commit ∈ after, signOut.Clear commit) final.world.journal) :
    SignedOutForGood final.world.journal :=
  signed_out_for_good empty_distinct (account_journaled rfl run) clear

section

def admits (op : StoreOp) : Bool :=
  match op with
  | .complete _ _ | .completeDesktop _ _ | .authorizeDesktopSession _ _ _ => true
  | _ => false

variable {signOut : SignOut} {after : List Commit}

theorem only_kept (unissued : signOut.issued = none) (plain : ∀ commit ∈ after, admits commit.op = false)
    (admitted : signOut.Admitted after bearer) : ∃ row ∈ signOut.before.sessions, bearer = .session row.id := by
  have quiet : ∀ commit ∈ after, ∀ op, commit.op = op → admits op = false := fun commit made op same => same ▸ plain commit made
  induction admitted with
  | first bearer begins =>
    cases begins with
    | kept row listed kept => exact ⟨row, listed, rfl⟩
    | issued codeDigest issued => cases unissued.symm.trans issued
    | login commit made _ authenticatedAt brings recent =>
      cases brings with
      | login registration session op => cases quiet commit made _ op
      | desktopLogin registration authorization op => cases quiet commit made _ op
  | next commit made earlier bearer begets _ ih =>
    cases begets with
    | authorized secretDigest grant now op session accepted => cases quiet commit made _ op
    | exchanged codeDigest codeChallenge session now op opened =>
      obtain ⟨row, _, same⟩ := ih
      cases same

def leaksPast (signOut : SignOut) (after : List Commit) : Bool :=
  decide (signOut.issued = none) && after.all (fun commit => !admits commit.op) && after.any fun commit =>
    commit.accepted.any fun session => decide (session.principal.id = signOut.principalId) &&
      signOut.before.sessions.all fun old => decide (old.id ≠ session.id)

def leaks : List Commit → Bool
  | [] => false
  | entry :: after => (signOutOf entry).any (leaksPast · after) || leaks after

theorem leaks_split (leak : leaks journal = true) : ∃ before entry after signOut,
    journal = before ++ entry :: after ∧ signOutOf entry = some signOut ∧ leaksPast signOut after = true := by
  induction journal with
  | nil => cases leak
  | cons entry after ih =>
    rcases Bool.or_eq_true_iff.mp leak with here | later
    · obtain ⟨signOut, of, past⟩ := (Option.any_eq_true _ _).mp here
      exact ⟨[], entry, after, signOut, rfl, of, past⟩
    · obtain ⟨before, other, rest, signOut, split, of, past⟩ := ih later
      exact ⟨entry :: before, other, rest, signOut, by rw [split, List.cons_append], of, past⟩

theorem leaked (journal : List Commit) (leak : leaks journal = true) : ¬ SignedOutForGood journal := by
  intro final
  obtain ⟨before, entry, after, signOut, split, of, past⟩ := leaks_split leak
  simp only [leaksPast, Bool.and_eq_true, decide_eq_true_eq, List.all_eq_true, List.any_eq_true, Option.any_eq_true,
    Bool.not_eq_true'] at past
  obtain ⟨⟨unissued, plain⟩, commit, made, session, accepted, mine, fresh⟩ := past
  obtain ⟨admitted, _⟩ := final.elsewhere before entry after signOut split of commit made session accepted mine
  obtain ⟨row, listed, same⟩ := only_kept unissued plain admitted
  exact fresh row listed (Bearer.session.inj same).symm

end

def leakPolicy : AuthenticationPolicy := ⟨1000, ⟨10000, 20000, by decide⟩, 5000, 5000⟩

def leakEncodings : AccountEncodings := ⟨fun secret => ⟨BitVec.ofNat 256 (secret.toList.foldl (fun value char => value * 256 + char.toNat) 1)⟩, id⟩

def leakSecret (index : Nat) : SecretValue := "secret-" ++ Nat.repr index

def leakVerifier : String := "0123456789abcdefghijABCDEFGHIJ0123456789-_x"

def leakTurn (scene : AccountScene) (turn : Turn AccountRequest) : AccountScene :=
  enact (oblige leakSecret ⟨"https://id.example", "state", "nonce", "verifier"⟩ fun now => ⟨"issuer", "subject", some now⟩) (tick 100)
    (accountProgram leakPolicy leakEncodings) scene turn

def alone (request : AccountRequest) : List (Turn AccountRequest) := .join request :: List.replicate 12 (.proceed 0)

def leakTurns : List (Turn AccountRequest) :=
  alone (.beginLogin (.web "/") .signIn) ++ alone (.completeLogin "code" "state" (leakSecret 0) none) ++
    alone (.authorizeDesktop (leakSecret 2) "desktop" leakVerifier "/") ++ [.outside] ++
    alone (.signOutElsewhere (leakSecret 2) none) ++ alone (.exchangeDesktop (leakSecret 4) leakVerifier) ++
    alone (.authenticate (leakSecret 7) .activeSession)

def leakScene : AccountScene := leakTurns.foldl leakTurn (openingAt 1000)

theorem enacted_account (turns : List (Turn AccountRequest)) :
    ∃ taken, AccountRuns leakPolicy leakEncodings (openingAt 1000) taken (turns.foldl leakTurn (openingAt 1000)) :=
  enacted_run accountEnvironment (oblige_replies _ _ _) (tick_passes) (accountProgram leakPolicy leakEncodings)
    (openingAt 1000) turns

theorem desktop_code_outlives_sign_out : ¬ ∀ policy encodings now turns final, AccountRuns policy encodings (openingAt now) turns final →
    SignedOutForGood final.world.journal := by
  intro always
  obtain ⟨turns, run⟩ := enacted_account leakTurns
  exact leaked leakScene.world.journal (by decide +kernel) (always leakPolicy leakEncodings 1000 turns leakScene run)

def keptTurns : List (Turn AccountRequest) :=
  alone (.beginLogin (.web "/") .signIn) ++ alone (.completeLogin "code" "state" (leakSecret 0) none) ++
    alone (.authorizeDesktop (leakSecret 2) "desktop" leakVerifier "/") ++ [.outside] ++
    alone (.signOutElsewhere (leakSecret 2) none) ++ alone (.authenticate (leakSecret 2) .activeSession)

theorem kept_session_goes_on : SignedOutForGood (keptTurns.foldl leakTurn (openingAt 1000)).world.journal := by
  obtain ⟨turns, run⟩ := enacted_account keptTurns
  have checked : checkSince signOutOf (fun signOut after => decide (∀ commit ∈ after, signOut.Clear commit))
      (keptTurns.foldl leakTurn (openingAt 1000)).world.journal = true := by decide +kernel
  have clear := each_since_mono signOutOf
    (check_since signOutOf _ _ checked) fun _ _ held => of_decide_eq_true held
  exact sign_outs_are_final leakPolicy leakEncodings 1000 turns _ run clear

end AgentRoom.Account
