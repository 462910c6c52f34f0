import AgentRoom.Device.Tables
import AgentRoom.Library.Fallible

namespace AgentRoom.Account

open Library

abbrev WebSessionId := Nat
abbrev LoginAttemptId := Nat
abbrev SecretValue := String
abbrev PkceCodeChallenge := String

structure SignInAccount where
  issuer : String
  subject : String
deriving DecidableEq

structure PrincipalRegistration where
  principal : Principal
  oidcIssuer : String
  oidcSubject : String
deriving DecidableEq

inductive LoginDelivery where
  | web (returnPath : String)
  | desktop (clientState : String) (codeChallenge : PkceCodeChallenge) (returnPath : String)
deriving DecidableEq

structure LoginAttempt where
  id : LoginAttemptId
  browserSecretDigest : SecretDigest
  stateDigest : SecretDigest
  nonce : SecretValue
  pkceVerifier : SecretValue
  delivery : LoginDelivery
  createdAt : UtcMillis
  expiresAt : UtcMillis
deriving DecidableEq

structure WebSessionRegistration where
  id : WebSessionId
  secretDigest : SecretDigest
  authenticatedAt : UtcMillis
  createdAt : UtcMillis
  expiresAt : UtcMillis
deriving DecidableEq

structure DesktopAuthorizationCodeRegistration where
  codeDigest : SecretDigest
  codeChallenge : PkceCodeChallenge
  authenticatedAt : UtcMillis
  createdAt : UtcMillis
  expiresAt : UtcMillis
deriving DecidableEq

structure DesktopAuthorizationGrant where
  codeDigest : SecretDigest
  codeChallenge : PkceCodeChallenge
  createdAt : UtcMillis
  expiresAt : UtcMillis
deriving DecidableEq

structure DesktopSessionRegistration where
  id : WebSessionId
  secretDigest : SecretDigest
  createdAt : UtcMillis
  expiresAt : UtcMillis
deriving DecidableEq

structure StoredWebSession where
  id : WebSessionId
  principal : Principal
  authenticatedAt : UtcMillis
  createdAt : UtcMillis
  expiresAt : UtcMillis
deriving DecidableEq

structure OtherSessionsRevoked where
  revoked : Nat
  account : SignInAccount
deriving DecidableEq

structure AttemptRow where
  attempt : LoginAttempt
  consumedAt : Option UtcMillis
deriving DecidableEq

structure WebSessionRow extends WebSessionRegistration where
  principalId : PrincipalId
  revokedAt : Option UtcMillis
deriving DecidableEq

structure DesktopCodeRow extends DesktopAuthorizationCodeRegistration where
  principalId : PrincipalId
  consumedAt : Option UtcMillis
deriving DecidableEq

-- interval '5 minutes'
def authenticationLead : Nat := 5 * 60 * 1000

def AttemptRow.checks (row : AttemptRow) : Bool :=
  decide (row.attempt.createdAt < row.attempt.expiresAt) && row.consumedAt.all (row.attempt.createdAt ≤ ·)

def WebSessionRow.checks (row : WebSessionRow) : Bool :=
  decide (row.createdAt < row.expiresAt) && decide (row.authenticatedAt.value ≤ row.createdAt.value + authenticationLead) &&
    row.revokedAt.all (row.createdAt ≤ ·)

def DesktopCodeRow.checks (row : DesktopCodeRow) : Bool :=
  decide (row.createdAt < row.expiresAt) && decide (row.authenticatedAt.value ≤ row.createdAt.value + authenticationLead) &&
    row.consumedAt.all (row.createdAt ≤ ·)

structure AccountStore where
  principals : List PrincipalRow
  attempts : List AttemptRow
  sessions : List WebSessionRow
  codes : List DesktopCodeRow
deriving DecidableEq

abbrev StoreResult (α : Type) := Except RepositoryErrorKind α

section

variable {ρ : Type}

-- An UPDATE changes the rows it selects, or fails as a whole on a row it may not leave so.
def updateRows (rows : List ρ) (selects : ρ → Bool) (change : ρ → ρ) (checks : ρ → Bool) : StoreResult (List ρ) := do
  ensure .constraint (∀ row ∈ rows, selects row = true → checks (change row) = true)
  return rows.map fun row => if selects row then change row else row

theorem update_rows_ok (updated : updateRows rows selects change checks = .ok next) :
    next = rows.map fun row => if selects row then change row else row := by
  obtain ⟨_, _, built⟩ := unbind updated
  exact (Except.ok.inj built).symm

def insertRow (rows : List ρ) (row : ρ) (clashes : ρ → Bool) (checks : ρ → Bool) : StoreResult (List ρ) := do
  ensure .constraint (checks row = true)
  ensure .conflict (rows.all (fun other => !clashes other) = true)
  return rows ++ [row]

theorem insert_row_ok (inserted : insertRow rows row clashes checks = .ok next) :
    next = rows ++ [row] ∧ checks row = true ∧ ∀ other ∈ rows, clashes other = false := by
  obtain ⟨_, checked, inserted⟩ := unbind inserted
  obtain ⟨_, fresh, built⟩ := unbind inserted
  refine ⟨(Except.ok.inj built).symm, (ensure_ok ..).mp checked, ?_⟩
  have fresh := List.all_eq_true.mp ((ensure_ok ..).mp fresh)
  exact fun other listed => by simpa using fresh other listed

end

namespace AccountStore

variable (store : AccountStore)

def create (attempt : LoginAttempt) : StoreResult (Unit × AccountStore) := do
  let attempts ← insertRow store.attempts ⟨attempt, none⟩ (fun other => decide (other.attempt.id = attempt.id ∨
    other.attempt.browserSecretDigest = attempt.browserSecretDigest ∨ other.attempt.stateDigest = attempt.stateDigest)) AttemptRow.checks
  return ((), { store with attempts })

def awaits (browserSecretDigest stateDigest : SecretDigest) (now : UtcMillis) (row : AttemptRow) : Bool :=
  decide (row.attempt.browserSecretDigest = browserSecretDigest ∧ row.attempt.stateDigest = stateDigest ∧ row.consumedAt = none ∧
    now < row.attempt.expiresAt)

def consume (browserSecretDigest stateDigest : SecretDigest) (now : UtcMillis) : StoreResult (Option LoginAttempt × AccountStore) := do
  let awaiting := awaits browserSecretDigest stateDigest now
  let attempts ← updateRows store.attempts awaiting ({ · with consumedAt := some now }) AttemptRow.checks
  return ((store.attempts.find? awaiting).map AttemptRow.attempt, { store with attempts })

def principalByAccount (issuer subject : String) : Option PrincipalRow :=
  store.principals.find? fun row => decide (row.oidcIssuer = issuer ∧ row.oidcSubject = subject)

def principalById (id : PrincipalId) : Option PrincipalRow := store.principals.find? fun row => decide (row.principal.id = id)

-- ON CONFLICT (oidc_issuer, oidc_subject) DO NOTHING
def insertPrincipalIfAbsent (registration : PrincipalRegistration) : StoreResult AccountStore :=
  match store.principalByAccount registration.oidcIssuer registration.oidcSubject with
  | some _ => .ok store
  | none => do
    let principals ← insertRow store.principals ⟨registration.principal, registration.oidcIssuer, registration.oidcSubject⟩
      (fun other => decide (other.principal.id = registration.principal.id)) fun _ => true
    return { store with principals }

def found (row : Option PrincipalRow) : StoreResult Principal :=
  match row with
  | some row => .ok row.principal
  | none => .error .corruptData

def lockAccountByOidc (issuer subject : String) : StoreResult Principal := found (store.principalByAccount issuer subject)

def lockAccountById (id : PrincipalId) : StoreResult Principal := found (store.principalById id)

variable (principalId : PrincipalId)

def insertWebSession (session : WebSessionRegistration) : StoreResult AccountStore := do
  let sessions ← insertRow store.sessions ⟨session, principalId, none⟩
    (fun other => decide (other.id = session.id ∨ other.secretDigest = session.secretDigest)) WebSessionRow.checks
  return { store with sessions }

def insertDesktopAuthorization (authorization : DesktopAuthorizationCodeRegistration) : StoreResult AccountStore := do
  let codes ← insertRow store.codes ⟨authorization, principalId, none⟩
    (fun other => decide (other.codeDigest = authorization.codeDigest)) DesktopCodeRow.checks
  return { store with codes }

def storedSession (session : WebSessionRegistration) (principal : Principal) : StoredWebSession :=
  ⟨session.id, principal, session.authenticatedAt, session.createdAt, session.expiresAt⟩

def complete (registration : PrincipalRegistration) (session : WebSessionRegistration) : StoreResult (StoredWebSession × AccountStore) := do
  let known ← store.insertPrincipalIfAbsent registration
  let principal ← known.lockAccountByOidc registration.oidcIssuer registration.oidcSubject
  ensure .forbidden (principal.allowsAuthentication = true)
  let next ← known.insertWebSession principal.id session
  return (storedSession session principal, next)

def completeDesktop (registration : PrincipalRegistration) (authorization : DesktopAuthorizationCodeRegistration) :
    StoreResult (Principal × AccountStore) := do
  let known ← store.insertPrincipalIfAbsent registration
  let principal ← known.lockAccountByOidc registration.oidcIssuer registration.oidcSubject
  ensure .forbidden (principal.allowsAuthentication = true)
  let next ← known.insertDesktopAuthorization principal.id authorization
  return (principal, next)

variable (secretDigest : SecretDigest)

def current (now : UtcMillis) (row : WebSessionRow) : Bool :=
  decide (row.secretDigest = secretDigest ∧ row.revokedAt = none ∧ now < row.expiresAt)

def activeSession (now : UtcMillis) : Option (WebSessionRow × Principal) := do
  let row ← store.sessions.find? (current secretDigest now)
  let principal ← store.principalById row.principalId
  return (row, principal.principal)

def findActive (now : UtcMillis) : StoreResult (Option StoredWebSession × AccountStore) :=
  .ok ((store.activeSession secretDigest now).map fun found => storedSession found.1.toWebSessionRegistration found.2, store)

def grantedCode (grant : DesktopAuthorizationGrant) (authenticatedAt : UtcMillis) : DesktopAuthorizationCodeRegistration :=
  ⟨grant.codeDigest, grant.codeChallenge, authenticatedAt, grant.createdAt, grant.expiresAt⟩

def authorizeDesktopSession (grant : DesktopAuthorizationGrant) (now : UtcMillis) :
    StoreResult (Option StoredWebSession × AccountStore) :=
  match store.activeSession secretDigest now with
  | none => .ok (none, store)
  | some (row, principal) => do
    ensure .forbidden (principal.allowsAuthentication = true)
    let next ← store.insertDesktopAuthorization principal.id (grantedCode grant row.authenticatedAt)
    return (some (storedSession row.toWebSessionRegistration principal), next)

def outstanding (codeDigest : SecretDigest) (codeChallenge : PkceCodeChallenge) (now : UtcMillis) (row : DesktopCodeRow) : Bool :=
  decide (row.codeDigest = codeDigest ∧ row.codeChallenge = codeChallenge ∧ row.consumedAt = none ∧ now < row.expiresAt)

def exchangedSession (session : DesktopSessionRegistration) (authenticatedAt : UtcMillis) : WebSessionRegistration :=
  ⟨session.id, session.secretDigest, authenticatedAt, session.createdAt, session.expiresAt⟩

def exchangeDesktop (codeDigest : SecretDigest) (codeChallenge : PkceCodeChallenge) (session : DesktopSessionRegistration)
    (now : UtcMillis) : StoreResult (Option StoredWebSession × AccountStore) := do
  let unused := outstanding codeDigest codeChallenge now
  let codes ← updateRows store.codes unused ({ · with consumedAt := some now }) DesktopCodeRow.checks
  match store.codes.find? unused with
  | none => return (none, store)
  | some code =>
    let principal ← store.lockAccountById code.principalId
    ensure .forbidden (principal.allowsAuthentication = true)
    let next ← { store with codes }.insertWebSession code.principalId (exchangedSession session code.authenticatedAt)
    return (some (storedSession (exchangedSession session code.authenticatedAt) principal), next)

def revokeRows (selects : WebSessionRow → Bool) (now : UtcMillis) : StoreResult AccountStore := do
  let sessions ← updateRows store.sessions selects ({ · with revokedAt := some now }) WebSessionRow.checks
  return { store with sessions }

def accountOf (row : PrincipalRow) : SignInAccount := ⟨row.oidcIssuer, row.oidcSubject⟩

def revoke (now : UtcMillis) : StoreResult (Option SignInAccount × AccountStore) := do
  let standing : WebSessionRow → Bool := fun row => decide (row.secretDigest = secretDigest ∧ row.revokedAt = none)
  let next ← store.revokeRows standing now
  return ((store.sessions.find? standing).bind fun row => (store.principalById row.principalId).map accountOf, next)

def other (keep : Option SecretDigest) (now : UtcMillis) (row : WebSessionRow) : Bool :=
  decide (row.principalId = principalId ∧ row.revokedAt = none ∧ now < row.expiresAt ∧ keep ≠ some row.secretDigest)

def revokeOthers (keep : Option SecretDigest) (now : UtcMillis) : StoreResult (Option OtherSessionsRevoked × AccountStore) := do
  let next ← store.revokeRows (other principalId keep now) now
  return ((store.principalById principalId).map fun row =>
    ⟨store.sessions.countP (other principalId keep now), accountOf row⟩, next)

def extend (sessionId : WebSessionId) (expiresAt : UtcMillis) : StoreResult (Bool × AccountStore) := do
  let shorter : WebSessionRow → Bool := fun row => decide (row.id = sessionId ∧ row.revokedAt = none ∧ row.expiresAt < expiresAt)
  let sessions ← updateRows store.sessions shorter ({ · with expiresAt }) WebSessionRow.checks
  return (store.sessions.any shorter, { store with sessions })

def suspendPrincipal : AccountStore :=
  { store with principals := store.principals.map fun row =>
      if row.principal.id = principalId then { row with principal := { row.principal with status := .suspended } } else row }

def suspend (now : UtcMillis) : StoreResult (Principal × AccountStore) :=
  match store.principalById principalId with
  | none => .error .notFound
  | some row => do
    ensure .forbidden (row.principal.status = .active ∨ row.principal.status = .suspended)
    let next ← (store.suspendPrincipal principalId).revokeRows
      (fun session => decide (session.principalId = principalId ∧ session.revokedAt = none)) now
    return ({ row.principal with status := .suspended }, next)

end AccountStore

end AgentRoom.Account
