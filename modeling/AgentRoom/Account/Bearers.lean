import AgentRoom.Account.Journal

namespace AgentRoom.Account

open Library AccountStore

inductive Bearer where
  | session (id : WebSessionId)
  | code (codeDigest : SecretDigest)

-- What a login brings, and when that was authenticated,
inductive Brings (commit : Commit) : Bearer → UtcMillis → Prop
  | login (registration : PrincipalRegistration) (session : WebSessionRegistration) (op : commit.op = .complete registration session) :
      Brings commit (.session session.id) session.authenticatedAt
  | desktopLogin (registration : PrincipalRegistration) (authorization : DesktopAuthorizationCodeRegistration)
      (op : commit.op = .completeDesktop registration authorization) : Brings commit (.code authorization.codeDigest) authorization.authenticatedAt

-- and what one bearer is used for to get another.
inductive Begets (commit : Commit) : Bearer → Bearer → Prop
  | authorized (secretDigest : SecretDigest) (grant : DesktopAuthorizationGrant) (now : UtcMillis)
      (op : commit.op = .authorizeDesktopSession secretDigest grant now) (session : StoredWebSession)
      (accepted : commit.accepted = some session) : Begets commit (.session session.id) (.code grant.codeDigest)
  | exchanged (codeDigest : SecretDigest) (codeChallenge : PkceCodeChallenge) (session : DesktopSessionRegistration) (now : UtcMillis)
      (op : commit.op = .exchangeDesktop codeDigest codeChallenge session now) (opened : commit.opened ≠ []) :
      Begets commit (.code codeDigest) (.session session.id)

inductive Comes (journal : List Commit) (begins : Bearer → Prop) : Bearer → Prop
  | first (bearer : Bearer) (begun : begins bearer) : Comes journal begins bearer
  | next (commit : Commit) (made : commit ∈ journal) (earlier bearer : Bearer) (begets : Begets commit earlier bearer)
      (comes : Comes journal begins earlier) : Comes journal begins bearer

theorem comes_more (sub : ∀ commit ∈ earlier, commit ∈ later)
    (implies : ∀ bearer, begins bearer → more bearer) (comes : Comes earlier begins bearer) : Comes later more bearer := by
  induction comes with
  | first bearer begun => exact .first bearer (implies bearer begun)
  | next commit made earlier bearer begets _ ih => exact .next commit (sub commit made) earlier bearer begets ih

def AccountStore.accountPrincipal (store : AccountStore) (registration : PrincipalRegistration) : PrincipalId :=
  match store.principalByAccount registration.oidcIssuer registration.oidcSubject with
  | some row => row.principal.id
  | none => registration.principal.id

section

variable {store next : AccountStore} {commit : Commit}

theorem complete_owner (inserted : store.insertPrincipalIfAbsent registration = .ok known)
    (locked : known.lockAccountByOidc registration.oidcIssuer registration.oidcSubject = .ok principal) :
    principal.id = store.accountPrincipal registration := by
  obtain ⟨there, found, rfl⟩ := found_ok locked
  unfold insertPrincipalIfAbsent at inserted
  cases before : store.principalByAccount registration.oidcIssuer registration.oidcSubject with
  | some row =>
    simp only [before, Except.ok.injEq] at inserted
    subst inserted
    have same := Option.some.inj (before.symm.trans found)
    rw [accountPrincipal, before, same]
  | none =>
    simp only [before] at inserted
    obtain ⟨principals, added, built⟩ := unbind inserted
    obtain ⟨rfl, _, _⟩ := insert_row_ok added
    cases built
    have missing : store.principals.find? (fun row => decide (row.oidcIssuer = registration.oidcIssuer ∧
      row.oidcSubject = registration.oidcSubject)) = none := before
    rw [principalByAccount, List.find?_append, missing, Option.none_or, List.find?_singleton] at found
    simp only [and_self, decide_true, if_true, Option.some.injEq] at found
    rw [accountPrincipal, before, ← found]

theorem opened_from (performs : Performs store commit next) (opened : row ∈ commit.opened) :
    (Brings commit (.session row.id) row.authenticatedAt ∧ ∃ registration session, commit.op = .complete registration session ∧
      session = row.toWebSessionRegistration ∧ row.principalId = store.accountPrincipal registration) ∨
    ∃ code ∈ store.codes, Begets commit (.code code.codeDigest) (.session row.id) ∧ row.authenticatedAt = code.authenticatedAt ∧
      row.principalId = code.principalId ∧ ∃ codeChallenge session now, commit.op = .exchangeDesktop code.codeDigest codeChallenge session now ∧
        outstanding code.codeDigest codeChallenge now code = true ∧ row.createdAt = session.createdAt ∧ row.expiresAt = session.expiresAt := by
  obtain ⟨before, op, answer, left⟩ := commit
  obtain ⟨rfl, performed, rfl⟩ := performs
  cases op with
  | complete registration session =>
    cases List.mem_singleton.mp opened
    obtain ⟨known, inserted, completed⟩ := unbind performed
    obtain ⟨principal, locked, completed⟩ := unbind completed
    obtain ⟨_, _, completed⟩ := unbind completed
    obtain ⟨_, _, built⟩ := unbind completed
    cases built
    exact .inl ⟨.login registration session rfl, registration, session, rfl, rfl, complete_owner inserted locked⟩
  | exchangeDesktop codeDigest codeChallenge session now =>
    rcases exchange_ok before performed with ⟨rfl, _⟩ | ⟨stored, code, rfl, takes, _⟩
    · cases opened
    · cases List.mem_singleton.mp opened
      have same : (exchangedRow session stored).authenticatedAt = code.authenticatedAt := by
        rw [takes.answered]
        rfl
      obtain rfl := takes.digest
      exact .inr ⟨code, takes.listed, .exchanged _ codeChallenge session now rfl nofun, same, takes.owner, codeChallenge, session, now, rfl,
        decide_eq_true ⟨rfl, takes.challenge, takes.unused, takes.before⟩, rfl, rfl⟩
  | _ => cases opened

theorem issued_from (performs : Performs store commit next) (issued : code ∈ commit.issued) :
    (Brings commit (.code code.codeDigest) code.authenticatedAt ∧ ∃ registration authorization,
      commit.op = .completeDesktop registration authorization ∧ authorization.authenticatedAt = code.authenticatedAt ∧
        code.principalId = store.accountPrincipal registration) ∨
    ∃ row ∈ store.sessions, ∃ session, Begets commit (.session row.id) (.code code.codeDigest) ∧ code.authenticatedAt = row.authenticatedAt ∧
      commit.accepted = some session ∧ session.id = row.id ∧ code.principalId = session.principal.id := by
  obtain ⟨before, op, answer, left⟩ := commit
  obtain ⟨rfl, performed, rfl⟩ := performs
  cases op with
  | completeDesktop registration authorization =>
    cases List.mem_singleton.mp issued
    obtain ⟨known, inserted, completed⟩ := unbind performed
    obtain ⟨principal, locked, completed⟩ := unbind completed
    obtain ⟨_, _, completed⟩ := unbind completed
    obtain ⟨_, _, built⟩ := unbind completed
    cases built
    exact .inl ⟨.desktopLogin registration authorization rfl, registration, authorization, rfl, rfl,
      complete_owner inserted locked⟩
  | authorizeDesktopSession secretDigest grant now =>
    rcases authorize_ok before performed with ⟨rfl, _⟩ | ⟨session, row, rfl, finds, _⟩
    · cases issued
    · cases List.mem_singleton.mp issued
      have same : session.id = row.id ∧ session.authenticatedAt = row.authenticatedAt := by
        rw [finds.answered]
        exact ⟨rfl, rfl⟩
      exact .inr ⟨row, finds.listed, session, same.1 ▸ .authorized secretDigest grant now rfl session rfl, same.2, rfl, same.1, rfl⟩
  | create | consume | complete | exchangeDesktop | findActive | revoke | revokeOthers | extend | suspend => cases issued

end

end AgentRoom.Account
