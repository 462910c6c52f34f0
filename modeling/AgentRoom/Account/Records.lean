import AgentRoom.Account.World

namespace AgentRoom.Account

open Library AccountStore

def standing (secretDigest : SecretDigest) (row : WebSessionRow) : Bool :=
  decide (row.secretDigest = secretDigest ∧ row.revokedAt = none)

def shorter (sessionId : WebSessionId) (expiresAt : UtcMillis) (row : WebSessionRow) : Bool :=
  decide (row.id = sessionId ∧ row.revokedAt = none ∧ row.expiresAt < expiresAt)

def unrevoked (principalId : PrincipalId) (row : WebSessionRow) : Bool :=
  decide (row.principalId = principalId ∧ row.revokedAt = none)

def rewritten : StoreOp → WebSessionRow → WebSessionRow
  | .revoke secretDigest now, row => if standing secretDigest row then { row with revokedAt := some now } else row
  | .revokeOthers principalId keep now _, row => if other principalId keep now row then { row with revokedAt := some now } else row
  | .extend sessionId expiresAt, row => if shorter sessionId expiresAt row then { row with expiresAt } else row
  | .suspend principalId now, row => if unrevoked principalId row then { row with revokedAt := some now } else row
  | _, row => row

def exchangedRow (session : DesktopSessionRegistration) (answer : StoredWebSession) : WebSessionRow :=
  ⟨exchangedSession session answer.authenticatedAt, answer.principal.id, none⟩

def openedRows : (op : StoreOp) → StoreAnswer op → List WebSessionRow
  | .complete _ session, answer => [⟨session, StoredWebSession.principal answer |>.id, none⟩]
  | .exchangeDesktop _ _ session _, answer => (Option.map (exchangedRow session) answer).toList
  | _, _ => []

def spent : StoreOp → DesktopCodeRow → DesktopCodeRow
  | .exchangeDesktop codeDigest codeChallenge _ now, row =>
    if outstanding codeDigest codeChallenge now row then { row with consumedAt := some now } else row
  | _, row => row

def authorizedRow (grant : DesktopAuthorizationGrant) (answer : StoredWebSession) : DesktopCodeRow :=
  ⟨grantedCode grant answer.authenticatedAt, answer.principal.id, none⟩

def issuedRows : (op : StoreOp) → StoreAnswer op → List DesktopCodeRow
  | .completeDesktop _ authorization, answer => [⟨authorization, Principal.id answer, none⟩]
  | .authorizeDesktopSession _ grant _, answer => (Option.map (authorizedRow grant) answer).toList
  | _, _ => []

def used : StoreOp → AttemptRow → AttemptRow
  | .consume browserSecretDigest stateDigest now, row =>
    if awaits browserSecretDigest stateDigest now row then { row with consumedAt := some now } else row
  | _, row => row

def begunRows : StoreOp → List AttemptRow
  | .create attempt => [⟨attempt, none⟩]
  | _ => []

def barred : StoreOp → PrincipalRow → PrincipalRow
  | .suspend principalId _, row =>
    if row.principal.id = principalId then { row with principal := { row.principal with status := .suspended } } else row
  | _, row => row

section

variable (store : AccountStore)

structure Inserts (registration : PrincipalRegistration) (known : AccountStore) : Prop where
  sessions : known.sessions = store.sessions
  codes : known.codes = store.codes
  attempts : known.attempts = store.attempts
  principals : known.principals = store.principals ∨
    known.principals = store.principals ++ [⟨registration.principal, registration.oidcIssuer, registration.oidcSubject⟩] ∧
      ∀ row ∈ store.principals, row.principal.id ≠ registration.principal.id

variable {answer : Option StoredWebSession} {session : WebSessionRegistration}

theorem insert_principal_ok
    (inserted : store.insertPrincipalIfAbsent registration = .ok known) : Inserts store registration known := by
  unfold insertPrincipalIfAbsent at inserted
  cases found : store.principalByAccount registration.oidcIssuer registration.oidcSubject with
  | some row =>
    simp only [found, Except.ok.injEq] at inserted
    subst inserted
    exact ⟨rfl, rfl, rfl, .inl rfl⟩
  | none =>
    simp only [found] at inserted
    obtain ⟨principals, added, built⟩ := unbind inserted
    obtain ⟨rfl, _, fresh⟩ := insert_row_ok added
    cases built
    exact ⟨rfl, rfl, rfl, .inr ⟨rfl, fun row listed => by simpa using fresh row listed⟩⟩

variable {now : UtcMillis} {secretDigest : SecretDigest} {row : WebSessionRow}

theorem found_ok {row : Option PrincipalRow} (known : found row = .ok principal) :
    ∃ there, row = some there ∧ there.principal = principal := by
  cases row with
  | none => cases known
  | some there =>
    cases known
    exact ⟨there, rfl, rfl⟩

theorem principal_by_id_some {id : PrincipalId} {row : PrincipalRow} (found : store.principalById id = some row) :
    row ∈ store.principals ∧ row.principal.id = id :=
  ⟨List.mem_of_find?_eq_some found, by simpa using List.find?_some found⟩

theorem insert_session_ok (inserted : store.insertWebSession principalId session = .ok next) :
    next = { store with sessions := store.sessions ++ [⟨session, principalId, none⟩] } ∧
      WebSessionRow.checks ⟨session, principalId, none⟩ = true ∧
      ∀ row ∈ store.sessions, row.id ≠ session.id ∧ row.secretDigest ≠ session.secretDigest := by
  obtain ⟨sessions, added, built⟩ := unbind inserted
  obtain ⟨rfl, checked, fresh⟩ := insert_row_ok added
  cases built
  exact ⟨rfl, checked, fun row listed => by simpa using fresh row listed⟩

theorem insert_authorization_ok (inserted : store.insertDesktopAuthorization principalId authorization = .ok next) :
    next = { store with codes := store.codes ++ [⟨authorization, principalId, none⟩] } ∧
      ∀ row ∈ store.codes, row.codeDigest ≠ authorization.codeDigest := by
  obtain ⟨codes, added, built⟩ := unbind inserted
  obtain ⟨rfl, _, fresh⟩ := insert_row_ok added
  cases built
  exact ⟨rfl, fun row listed => by simpa using fresh row listed⟩

theorem active_session_some (found : store.activeSession secretDigest now = some (row, principal)) :
    row ∈ store.sessions ∧ current secretDigest now row = true ∧
      ∃ there ∈ store.principals, there.principal = principal ∧ principal.id = row.principalId := by
  obtain ⟨session, first, found⟩ := (bind_some ..).mp found
  obtain ⟨there, second, built⟩ := (bind_some ..).mp found
  cases built
  obtain ⟨listed, same⟩ := principal_by_id_some store second
  exact ⟨List.mem_of_find?_eq_some first, List.find?_some first, there, listed, rfl, same⟩

theorem complete_ok {answer : StoredWebSession} (completed : store.complete registration session = .ok (answer, next)) :
    ∃ known principal, Inserts store registration known ∧ (∃ row ∈ known.principals, row.principal = principal) ∧
      principal.allowsAuthentication = true ∧ answer = storedSession session principal ∧
      next = { known with sessions := store.sessions ++ [⟨session, principal.id, none⟩] } ∧
      WebSessionRow.checks ⟨session, principal.id, none⟩ = true ∧
      ∀ row ∈ store.sessions, row.id ≠ session.id ∧ row.secretDigest ≠ session.secretDigest := by
  obtain ⟨known, inserted, completed⟩ := unbind completed
  obtain ⟨principal, locked, completed⟩ := unbind completed
  obtain ⟨_, active, completed⟩ := unbind completed
  obtain ⟨left, opened, built⟩ := unbind completed
  have inserts := insert_principal_ok store inserted
  obtain ⟨row, found, rfl⟩ := found_ok locked
  obtain ⟨rfl, checked, fresh⟩ := insert_session_ok known opened
  cases built
  rw [inserts.sessions] at fresh
  exact ⟨known, row.principal, inserts, ⟨row, List.mem_of_find?_eq_some found, rfl⟩, (ensure_ok ..).mp active, rfl,
    by rw [inserts.sessions], checked, fresh⟩

theorem complete_desktop_ok
    {answer : Principal} (completed : store.completeDesktop registration authorization = .ok (answer, next)) :
    ∃ known, Inserts store registration known ∧ (∃ row ∈ known.principals, row.principal = answer) ∧
      answer.allowsAuthentication = true ∧ next = { known with codes := store.codes ++ [⟨authorization, answer.id, none⟩] } ∧
      ∀ row ∈ store.codes, row.codeDigest ≠ authorization.codeDigest := by
  obtain ⟨known, inserted, completed⟩ := unbind completed
  obtain ⟨principal, locked, completed⟩ := unbind completed
  obtain ⟨_, active, completed⟩ := unbind completed
  obtain ⟨left, issued, built⟩ := unbind completed
  have inserts := insert_principal_ok store inserted
  obtain ⟨row, found, rfl⟩ := found_ok locked
  obtain ⟨rfl, fresh⟩ := insert_authorization_ok known issued
  cases built
  rw [inserts.codes] at fresh
  exact ⟨known, inserts, ⟨row, List.mem_of_find?_eq_some found, rfl⟩, (ensure_ok ..).mp active, by rw [inserts.codes], fresh⟩

structure Finds (secretDigest : SecretDigest) (now : UtcMillis) (answer : StoredWebSession) (row : WebSessionRow) : Prop where
  listed : row ∈ store.sessions
  digest : row.secretDigest = secretDigest
  standing : row.revokedAt = none
  before : now < row.expiresAt
  answered : answer = storedSession row.toWebSessionRegistration answer.principal
  owner : answer.principal.id = row.principalId
  known : ∃ there ∈ store.principals, there.principal = answer.principal

theorem active_session_finds (found : store.activeSession secretDigest now = some (row, principal)) :
    Finds store secretDigest now (storedSession row.toWebSessionRegistration principal) row := by
  obtain ⟨listed, active, there, inside, same, owner⟩ := active_session_some store found
  have ⟨digest, standing, before⟩ := of_decide_eq_true active
  exact ⟨listed, digest, standing, before, rfl, owner, there, inside, same⟩

theorem find_active_ok (performed : store.findActive secretDigest now = .ok (answer, next)) :
    next = store ∧ ∀ session, answer = some session → ∃ row, Finds store secretDigest now session row := by
  cases performed
  refine ⟨rfl, fun session found => ?_⟩
  obtain ⟨⟨row, principal⟩, active, rfl⟩ := Option.map_eq_some_iff.mp found
  exact ⟨row, active_session_finds store active⟩

theorem authorize_ok (performed : store.authorizeDesktopSession secretDigest grant now = .ok (answer, next)) :
    (answer = none ∧ next = store) ∨ ∃ session row, answer = some session ∧ Finds store secretDigest now session row ∧
      session.principal.allowsAuthentication = true ∧ next = { store with codes := store.codes ++ [authorizedRow grant session] } ∧
      ∀ code ∈ store.codes, code.codeDigest ≠ grant.codeDigest := by
  unfold AccountStore.authorizeDesktopSession at performed
  cases active : store.activeSession secretDigest now with
  | none =>
    simp only [active] at performed
    cases performed
    exact .inl ⟨rfl, rfl⟩
  | some found =>
    obtain ⟨row, principal⟩ := found
    simp only [active] at performed
    obtain ⟨_, allowed, performed⟩ := unbind performed
    obtain ⟨left, issued, built⟩ := unbind performed
    obtain ⟨rfl, fresh⟩ := insert_authorization_ok store issued
    cases built
    exact .inr ⟨_, row, rfl, active_session_finds store active, (ensure_ok ..).mp allowed, rfl, fresh⟩

structure Takes (codeDigest : SecretDigest) (codeChallenge : PkceCodeChallenge) (session : DesktopSessionRegistration) (now : UtcMillis)
    (answer : StoredWebSession) (code : DesktopCodeRow) : Prop where
  listed : code ∈ store.codes
  digest : code.codeDigest = codeDigest
  challenge : code.codeChallenge = codeChallenge
  unused : code.consumedAt = none
  before : now < code.expiresAt
  answered : answer = storedSession (exchangedSession session code.authenticatedAt) answer.principal
  owner : answer.principal.id = code.principalId
  known : ∃ there ∈ store.principals, there.principal = answer.principal
  active : answer.principal.allowsAuthentication = true

theorem exchange_ok {codeDigest : SecretDigest} {codeChallenge : PkceCodeChallenge} {session : DesktopSessionRegistration}
    (performed : store.exchangeDesktop codeDigest codeChallenge session now = .ok (answer, next)) :
    (answer = none ∧ next = store ∧ ∀ code ∈ store.codes, outstanding codeDigest codeChallenge now code = false) ∨
      ∃ stored code, answer = some stored ∧ Takes store codeDigest codeChallenge session now stored code ∧
        next = { store with
          codes := store.codes.map (spent (.exchangeDesktop codeDigest codeChallenge session now))
          sessions := store.sessions ++ [exchangedRow session stored] } ∧
        WebSessionRow.checks (exchangedRow session stored) = true ∧
        ∀ row ∈ store.sessions, row.id ≠ session.id ∧ row.secretDigest ≠ session.secretDigest := by
  obtain ⟨codes, updated, performed⟩ := unbind performed
  have same := update_rows_ok updated
  cases found : store.codes.find? (outstanding codeDigest codeChallenge now) with
  | none =>
    simp only [found] at performed
    cases performed
    exact .inl ⟨rfl, rfl, fun code listed => by simpa using List.find?_eq_none.mp found code listed⟩
  | some code =>
    simp only [found] at performed
    obtain ⟨principal, locked, performed⟩ := unbind performed
    obtain ⟨_, allowed, performed⟩ := unbind performed
    obtain ⟨left, opened, built⟩ := unbind performed
    obtain ⟨there, known, rfl⟩ := found_ok locked
    obtain ⟨inside, owner⟩ := principal_by_id_some store known
    obtain ⟨rfl, checked, fresh⟩ := insert_session_ok _ opened
    cases built
    have waiting := List.find?_some found
    simp only [outstanding, decide_eq_true_eq] at waiting
    obtain ⟨digest, challenge, unused, before⟩ := waiting
    rw [← owner] at checked
    refine .inr ⟨_, code, rfl, ⟨List.mem_of_find?_eq_some found, digest, challenge, unused, before, rfl, owner,
      ⟨there, inside, rfl⟩, (ensure_ok ..).mp allowed⟩, ?_, checked, fresh⟩
    rw [same, ← owner]
    rfl

theorem consume_ok {now : UtcMillis} {answer : Option LoginAttempt}
    (performed : store.consume browserSecretDigest stateDigest now = .ok (answer, next)) :
    next = { store with attempts := store.attempts.map (used (.consume browserSecretDigest stateDigest now)) } ∧
      ∀ attempt, answer = some attempt → ∃ row ∈ store.attempts, row.attempt = attempt ∧
        awaits browserSecretDigest stateDigest now row = true := by
  obtain ⟨attempts, updated, built⟩ := unbind performed
  have same := update_rows_ok updated
  cases built
  refine ⟨by rw [same]; rfl, fun attempt found => ?_⟩
  obtain ⟨row, first, rfl⟩ := Option.map_eq_some_iff.mp found
  exact ⟨row, List.mem_of_find?_eq_some first, rfl, List.find?_some first⟩

theorem revoke_rows_ok (revoked : store.revokeRows selects now = .ok next) :
    next = { store with sessions := store.sessions.map fun row => if selects row then { row with revokedAt := some now } else row } := by
  obtain ⟨sessions, updated, built⟩ := unbind revoked
  have same := update_rows_ok updated
  cases built
  rw [same]

theorem revoke_ok {now : UtcMillis} {answer : Option SignInAccount}
    (performed : store.revoke secretDigest now = .ok (answer, next)) :
    next = { store with sessions := store.sessions.map (rewritten (.revoke secretDigest now)) } := by
  obtain ⟨left, revoked, built⟩ := unbind performed
  have same := revoke_rows_ok store revoked
  cases built
  exact same

theorem revoke_others_ok {keep : Option SecretDigest} (issued : Option SecretDigest)
    {answer : Option OtherSessionsRevoked} (performed : store.revokeOthers principalId keep now = .ok (answer, next)) :
    next = { store with sessions := store.sessions.map (rewritten (.revokeOthers principalId keep now issued)) } := by
  obtain ⟨left, revoked, built⟩ := unbind performed
  have same := revoke_rows_ok store revoked
  cases built
  exact same

theorem extend_ok {expiresAt : UtcMillis} {answer : Bool} (performed : store.extend sessionId expiresAt = .ok (answer, next)) :
    next = { store with sessions := store.sessions.map (rewritten (.extend sessionId expiresAt)) } := by
  obtain ⟨sessions, updated, built⟩ := unbind performed
  have same := update_rows_ok updated
  cases built
  rw [same]
  rfl

theorem suspend_ok {now : UtcMillis} {answer : Principal} (performed : store.suspend principalId now = .ok (answer, next)) :
    next = { store with
      principals := store.principals.map (barred (.suspend principalId now))
      sessions := store.sessions.map (rewritten (.suspend principalId now)) } := by
  unfold suspend at performed
  cases found : store.principalById principalId with
  | none => simp only [found, reduceCtorEq] at performed
  | some row =>
    simp only [found] at performed
    obtain ⟨_, _, performed⟩ := unbind performed
    obtain ⟨left, revoked, built⟩ := unbind performed
    have same := revoke_rows_ok _ revoked
    cases built
    exact same

theorem create_ok {answer : Unit} (performed : store.create attempt = .ok (answer, next)) :
    next = { store with attempts := store.attempts ++ [⟨attempt, none⟩] } ∧
      ∀ row ∈ store.attempts, row.attempt.id ≠ attempt.id := by
  obtain ⟨attempts, added, built⟩ := unbind performed
  obtain ⟨rfl, _, fresh⟩ := insert_row_ok added
  cases built
  refine ⟨rfl, fun row listed => ?_⟩
  have distinct := of_decide_eq_false (fresh row listed)
  exact fun same => distinct (.inl same)

end

end AgentRoom.Account
