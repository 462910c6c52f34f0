import AgentRoom.Account.Sessions
import AgentRoom.Library.Calls

namespace AgentRoom.Account

open Library

-- One statement or transaction of the store each. A sign-out elsewhere also names,
-- for the record only, the desktop code that the login behind it has just issued.
inductive StoreOp where
  | create (attempt : LoginAttempt)
  | consume (browserSecretDigest stateDigest : SecretDigest) (now : UtcMillis)
  | complete (registration : PrincipalRegistration) (session : WebSessionRegistration)
  | completeDesktop (registration : PrincipalRegistration) (authorization : DesktopAuthorizationCodeRegistration)
  | authorizeDesktopSession (secretDigest : SecretDigest) (grant : DesktopAuthorizationGrant) (now : UtcMillis)
  | exchangeDesktop (codeDigest : SecretDigest) (codeChallenge : PkceCodeChallenge) (session : DesktopSessionRegistration) (now : UtcMillis)
  | findActive (secretDigest : SecretDigest) (now : UtcMillis)
  | revoke (secretDigest : SecretDigest) (now : UtcMillis)
  | revokeOthers (principalId : PrincipalId) (keep : Option SecretDigest) (now : UtcMillis) (issued : Option SecretDigest)
  | extend (sessionId : WebSessionId) (expiresAt : UtcMillis)
  | suspend (principalId : PrincipalId) (now : UtcMillis)
deriving DecidableEq

def StoreAnswer : StoreOp → Type
  | .create _ => Unit
  | .consume _ _ _ => Option LoginAttempt
  | .complete _ _ => StoredWebSession
  | .completeDesktop _ _ | .suspend _ _ => Principal
  | .authorizeDesktopSession _ _ _ | .exchangeDesktop _ _ _ _ | .findActive _ _ => Option StoredWebSession
  | .revoke _ _ => Option SignInAccount
  | .revokeOthers _ _ _ _ => Option OtherSessionsRevoked
  | .extend _ _ => Bool

def AccountStore.perform (store : AccountStore) : (op : StoreOp) → StoreResult (StoreAnswer op × AccountStore)
  | .create attempt => store.create attempt
  | .consume browserSecretDigest stateDigest now => store.consume browserSecretDigest stateDigest now
  | .complete registration session => store.complete registration session
  | .completeDesktop registration authorization => store.completeDesktop registration authorization
  | .authorizeDesktopSession secretDigest grant now => store.authorizeDesktopSession secretDigest grant now
  | .exchangeDesktop codeDigest codeChallenge session now => store.exchangeDesktop codeDigest codeChallenge session now
  | .findActive secretDigest now => store.findActive secretDigest now
  | .revoke secretDigest now => store.revoke secretDigest now
  | .revokeOthers principalId keep now _ => store.revokeOthers principalId keep now
  | .extend sessionId expiresAt => store.extend sessionId expiresAt
  | .suspend principalId now => store.suspend principalId now

inductive OidcFailureKind where
  | dependencyUnavailable
  | providerRejected
  | authorizationExpired
  | promptUnavailable
  | invalidIdentityToken
  | invalidConfiguration

inductive AuthenticationIntent where
  | signIn
  | register
  | changePassword
deriving DecidableEq

inductive PasswordChange where
  | changed
  | unchanged
deriving DecidableEq

structure OidcAuthorization where
  authorizationUrl : String
  state : SecretValue
  nonce : SecretValue
  pkceVerifier : SecretValue

structure VerifiedOidcIdentity where
  issuer : String
  subject : String
  authenticatedAt : Option UtcMillis

inductive AccountCall where
  | clock
  | generate
  | newId
  | beginAuthorization (intent : AuthenticationIntent)
  | exchangeCode (code : String) (pkceVerifier expectedNonce : SecretValue)
  | endSessions (account : SignInAccount)
  | signOutOtherDevices (principalId : PrincipalId) (keep : Option String)
  | store (op : StoreOp)

def AccountAnswer : AccountCall → Type
  | .clock => UtcMillis
  | .generate => Option SecretValue
  | .newId => Nat
  | .beginAuthorization _ => Except OidcFailureKind OidcAuthorization
  | .exchangeCode _ _ _ => Except OidcFailureKind VerifiedOidcIdentity
  | .endSessions _ => Except Unit Unit
  | .signOutOtherDevices _ _ => Except Unit Nat
  | .store op => StoreResult (StoreAnswer op)

inductive AuthenticationFailureKind where
  | invalidRequest
  | invalidLoginState
  | providerRejected
  | invalidIdentityToken
  | invalidSession
  | principalSuspended
  | reauthenticationRequired
  | dependencyUnavailable
  | conflict
  | internal
deriving DecidableEq

structure AuthenticationFailure where
  operation : String
  kind : AuthenticationFailureKind
deriving DecidableEq

abbrev AccountProgram (α : Type) := ExceptT AuthenticationFailure (Program AccountCall AccountAnswer) α

structure AuthenticationPolicy where
  loginAttemptTtl : DurationMillis
  sessionLifetime : SlidingLifetime
  recentAuthenticationWindow : DurationMillis
  allowedClockSkew : DurationMillis

def maxSessionRenewalStepMillis : Nat := 60 * 60 * 1000

def AuthenticationPolicy.sessionRenewalStep (policy : AuthenticationPolicy) : Nat :=
  min (policy.sessionLifetime.idle.value / 10) maxSessionRenewalStepMillis

-- The digests of the secret factory, and SHA-256 in base64url.
structure AccountEncodings where
  digest : String → SecretDigest
  sha256 : String → String

structure AuthenticatedPrincipal where
  principalId : PrincipalId
  authenticatedAt : UtcMillis
  expiresAt : UtcMillis
  recentlyAuthenticated : Bool
deriving DecidableEq

inductive AuthenticationRequirement where
  | activeSession
  | recentAuthentication
deriving DecidableEq

structure LoginRedirect where
  authorizationUrl : String
  browserSecret : SecretValue
  expiresAt : UtcMillis

inductive LoginCompletion where
  | web (sessionSecret : SecretValue) (returnPath : String) (principal : AuthenticatedPrincipal)
  | desktop (authorizationCode : SecretValue) (clientState returnPath : String)

structure DesktopSessionCompletion where
  sessionSecret : SecretValue
  principal : AuthenticatedPrincipal

section

variable (operation : String)

def failure (kind : AuthenticationFailureKind) : AuthenticationFailure := ⟨operation, kind⟩

def mapOidcFailure : OidcFailureKind → AuthenticationFailure
  | .dependencyUnavailable => failure operation .dependencyUnavailable
  | .providerRejected => failure operation .providerRejected
  | .authorizationExpired => failure operation .invalidLoginState
  | .invalidIdentityToken => failure operation .invalidIdentityToken
  | .promptUnavailable | .invalidConfiguration => failure operation .internal

def mapRepositoryFailure : RepositoryErrorKind → AuthenticationFailure
  | .conflict => failure operation .conflict
  | .forbidden => failure operation .principalSuspended
  | .unavailable => failure operation .dependencyUnavailable
  | .constraint | .notFound | .corruptData => failure operation .internal

end

section

variable (operation : String)

def clock : AccountProgram UtcMillis := consult .clock .ok

def newId : AccountProgram Nat := consult .newId .ok

def generate : AccountProgram SecretValue :=
  consult .generate fun secret => match secret with
    | some secret => .ok secret
    | none => .error (failure operation .internal)

def ask (op : StoreOp) : AccountProgram (StoreAnswer op) := consult (.store op) (·.mapError (mapRepositoryFailure operation))

def orElse {α : Type} (kind : AuthenticationFailureKind) : Option α → Except AuthenticationFailure α
  | some value => .ok value
  | none => .error (failure operation kind)

def askFor {α : Type} (op : StoreOp) (kind : AuthenticationFailureKind) (read : StoreAnswer op → Option α) : AccountProgram α :=
  consult (.store op) fun answer => match answer with
    | .ok value => orElse operation kind (read value)
    | .error error => .error (mapRepositoryFailure operation error)

def internal {α : Type} (result : DomainResult α) : Except AuthenticationFailure α := result.mapError fun _ => failure operation .internal

end

def maxAuthorizationValueLength : Nat := 4096

def validateAuthorizationValue (value : String) : Bool :=
  !value.isEmpty && decide (value.utf8ByteSize ≤ maxAuthorizationValueLength) &&
    !value.toList.any fun char => decide (char = Char.ofNat 0)

def validatePkceVerifier (value : String) : Bool :=
  decide (43 ≤ value.utf8ByteSize ∧ value.utf8ByteSize ≤ 128) &&
    value.toList.all fun char => char.isAlphanum || char ∈ ['-', '.', '_', '~']

def pkceCodeChallenge (value : String) : Option PkceCodeChallenge :=
  if value.utf8ByteSize = 43 ∧ (value.toList.all fun char => char.isAlphanum || char ∈ ['-', '_']) = true then some value else none

section

variable (policy : AuthenticationPolicy) (encodings : AccountEncodings)

def derivePkceChallenge (verifier : String) : Option PkceCodeChallenge := pkceCodeChallenge (encodings.sha256 verifier)

-- Not authenticated after now, nor too long before it, as far as the clocks agree.
def validateAuthenticationTime (identity : VerifiedOidcIdentity) (now : UtcMillis) (extraAge : Option DurationMillis) :
    Except AuthenticationFailure UtcMillis := do
  let operation := "authentication.complete_login"
  let authenticatedAt ← orElse operation .invalidIdentityToken identity.authenticatedAt
  let latestAllowed ← internal operation (now.checkedAdd policy.allowedClockSkew)
  let recent ← internal operation (authenticatedAt.checkedAdd policy.recentAuthenticationWindow)
  let extended ← match extraAge with
    | some extra => internal operation (recent.checkedAdd extra)
    | none => .ok recent
  let oldestAllowed ← internal operation (extended.checkedAdd policy.allowedClockSkew)
  ensure (failure operation .invalidIdentityToken) (authenticatedAt ≤ latestAllowed ∧ now ≤ oldestAllowed)
  return authenticatedAt

def recentUntil (session : StoredWebSession) : DomainResult UtcMillis := do
  let recent ← session.authenticatedAt.checkedAdd policy.recentAuthenticationWindow
  recent.checkedAdd policy.allowedClockSkew

def sessionView (session : StoredWebSession) (now : UtcMillis) : AuthenticatedPrincipal where
  principalId := session.principal.id
  authenticatedAt := session.authenticatedAt
  expiresAt := match policy.sessionLifetime.latest session.authenticatedAt with
    | .ok latest => latest
    | .error _ => session.expiresAt
  recentlyAuthenticated := match recentUntil policy session with
    | .ok deadline => decide (now ≤ deadline)
    | .error _ => false

def beginLogin (delivery : LoginDelivery) (intent : AuthenticationIntent) : AccountProgram LoginRedirect := do
  let operation := "authentication.begin_login"
  let now ← clock
  let expiresAt ← settled (internal operation (now.checkedAdd policy.loginAttemptTtl))
  let authorization ← consult (.beginAuthorization intent) (·.mapError (mapOidcFailure operation))
  let browserSecret ← generate operation
  let id ← newId
  let attempt : LoginAttempt := {
    id
    browserSecretDigest := encodings.digest browserSecret
    stateDigest := encodings.digest authorization.state
    nonce := authorization.nonce
    pkceVerifier := authorization.pkceVerifier
    delivery
    createdAt := now
    expiresAt }
  let _ ← ask operation (.create attempt)
  return ⟨authorization.authorizationUrl, browserSecret, expiresAt⟩

def revokeOtherSessions (principalId : PrincipalId) (keep : Option SecretDigest) (now : UtcMillis) (issued : Option SecretDigest) :
    AccountProgram Unit := do
  let _ ← (attempted (ask "authentication.complete_login" (.revokeOthers principalId keep now issued)) :
    AccountProgram (Except AuthenticationFailure (Option OtherSessionsRevoked)))
  return ()

def sessionRegistration (sessionSecret : SecretValue) (authenticatedAt now : UtcMillis) (operation : String) :
    AccountProgram WebSessionRegistration := do
  let expiresAt ← settled (internal operation (policy.sessionLifetime.renewedUntil authenticatedAt now))
  let id ← newId
  return ⟨id, encodings.digest sessionSecret, authenticatedAt, now, expiresAt⟩

structure CompletedAuthentication where
  registration : PrincipalRegistration
  authenticatedAt : UtcMillis
  passwordChanged : Bool
  now : UtcMillis

def revokeOnceChanged (completed : CompletedAuthentication) (principalId : PrincipalId) (keep issued : Option SecretDigest) :
    AccountProgram Unit :=
  if completed.passwordChanged then revokeOtherSessions principalId keep completed.now issued else return ()

def completeWebLogin (completed : CompletedAuthentication) (returnPath : String) : AccountProgram LoginCompletion := do
  let operation := "authentication.complete_login"
  let sessionSecret ← generate operation
  let registration ← sessionRegistration policy encodings sessionSecret completed.authenticatedAt completed.now operation
  let session ← (ask operation (.complete completed.registration registration) : AccountProgram StoredWebSession)
  revokeOnceChanged completed session.principal.id (some registration.secretDigest) none
  return .web sessionSecret returnPath (sessionView policy session completed.now)

def completeDesktopLogin (completed : CompletedAuthentication) (clientState : String) (codeChallenge : PkceCodeChallenge)
    (returnPath : String) : AccountProgram LoginCompletion := do
  let operation := "authentication.complete_desktop_login"
  let authorizationCode ← generate operation
  let expiresAt ← settled (internal operation (completed.now.checkedAdd policy.loginAttemptTtl))
  let authorization : DesktopAuthorizationCodeRegistration :=
    ⟨encodings.digest authorizationCode, codeChallenge, completed.authenticatedAt, completed.now, expiresAt⟩
  let principal ← (ask operation (.completeDesktop completed.registration authorization) : AccountProgram Principal)
  revokeOnceChanged completed principal.id none (some authorization.codeDigest)
  return .desktop authorizationCode clientState returnPath

def completeLogin (code returnedState : String) (browserSecret : SecretValue) (passwordChange : Option PasswordChange) :
    AccountProgram LoginCompletion := do
  let operation := "authentication.complete_login"
  settled (ensure (failure operation .invalidRequest)
    (validateAuthorizationValue code = true ∧ validateAuthorizationValue returnedState = true))
  let now ← clock
  let attempt ← askFor operation (.consume (encodings.digest browserSecret) (encodings.digest returnedState) now) .invalidLoginState id
  let identity ← consult (.exchangeCode code attempt.pkceVerifier attempt.nonce) (·.mapError (mapOidcFailure operation))
  let extraAge := passwordChange.map fun _ => policy.loginAttemptTtl
  let authenticatedAt ← settled (validateAuthenticationTime policy identity now extraAge)
  let principalId ← newId
  let completed : CompletedAuthentication := {
    registration := ⟨⟨⟨principalId⟩, .active⟩, identity.issuer, identity.subject⟩
    authenticatedAt
    passwordChanged := decide (passwordChange = some .changed)
    now }
  match attempt.delivery with
  | .web returnPath => completeWebLogin policy encodings completed returnPath
  | .desktop clientState codeChallenge returnPath => completeDesktopLogin policy encodings completed clientState codeChallenge returnPath

def exchangeDesktopAuthorization (authorizationCode pkceVerifier : String) : AccountProgram DesktopSessionCompletion := do
  let operation := "authentication.exchange_desktop_authorization"
  settled (ensure (failure operation .invalidRequest)
    (validateAuthorizationValue authorizationCode = true ∧ validatePkceVerifier pkceVerifier = true))
  let codeChallenge ← settled (orElse operation .invalidRequest (derivePkceChallenge encodings pkceVerifier))
  let now ← clock
  let sessionSecret ← generate operation
  let expiresAt ← settled (internal operation (policy.sessionLifetime.renewedUntil now now))
  let id ← newId
  let registration : DesktopSessionRegistration := ⟨id, encodings.digest sessionSecret, now, expiresAt⟩
  let session ← askFor operation (.exchangeDesktop (encodings.digest authorizationCode) codeChallenge registration now)
    .invalidLoginState (fun session => (session : Option StoredWebSession))
  let latest ← settled (internal operation (policy.sessionLifetime.latest session.authenticatedAt))
  if latest ≤ now then
    let _ ← (attempted (ask operation (.revoke registration.secretDigest now)) :
      AccountProgram (Except AuthenticationFailure (Option SignInAccount)))
    settled (.error (failure operation .invalidLoginState))
  else return ⟨sessionSecret, sessionView policy session now⟩

def authorizeDesktopSession (sessionSecret : SecretValue) (clientState : String) (codeChallenge : PkceCodeChallenge)
    (returnPath : String) : AccountProgram LoginCompletion := do
  let operation := "authentication.authorize_desktop_session"
  let now ← clock
  let sessionDigest := encodings.digest sessionSecret
  let active ← askFor operation (.findActive sessionDigest now) .invalidSession (fun session => (session : Option StoredWebSession))
  let latest ← settled (internal operation (policy.sessionLifetime.latest active.authenticatedAt))
  settled (ensure (failure operation .invalidSession) (now < latest))
  let authorizationCode ← generate operation
  let expiresAt ← settled (internal operation (now.checkedAdd policy.loginAttemptTtl))
  let grant : DesktopAuthorizationGrant := ⟨encodings.digest authorizationCode, codeChallenge, now, expiresAt⟩
  let _ ← askFor operation (.authorizeDesktopSession sessionDigest grant now) .invalidSession
    (fun session => (session : Option StoredWebSession))
  return .desktop authorizationCode clientState returnPath

-- One use of a session: past its latest time it is not taken any more, otherwise it
-- is prolonged, but not for less than a step.
def renewSession (session : StoredWebSession) (now : UtcMillis) : AccountProgram Unit := do
  let operation := "authentication.authenticate"
  let latest ← settled (internal operation (policy.sessionLifetime.latest session.authenticatedAt))
  settled (ensure (failure operation .invalidSession) (now < latest))
  let renewed ← settled (internal operation (policy.sessionLifetime.renewedUntil session.authenticatedAt now))
  if (renewed.value : Int) - session.expiresAt.value < policy.sessionRenewalStep then return ()
  else
    let _ ← ask operation (.extend session.id renewed)
    return ()

def authenticateAt (sessionSecret : SecretValue) (requirement : AuthenticationRequirement) (now : UtcMillis) :
    AccountProgram AuthenticatedPrincipal := do
  let operation := "authentication.authenticate"
  let session ← askFor operation (.findActive (encodings.digest sessionSecret) now) .invalidSession
    (fun session => (session : Option StoredWebSession))
  settled (ensure (failure operation .principalSuspended) (session.principal.allowsAuthentication = true))
  renewSession policy session now
  let principal := sessionView policy session now
  settled (ensure (failure operation .reauthenticationRequired)
    (requirement = .recentAuthentication → principal.recentlyAuthenticated = true))
  return principal

def logout (sessionSecret : SecretValue) : AccountProgram Unit := do
  let operation := "authentication.logout"
  let now ← clock
  let revoked ← (ask operation (.revoke (encodings.digest sessionSecret) now) : AccountProgram (Option SignInAccount))
  match revoked with
  | some account =>
    let _ ← (consult (.endSessions account) .ok : AccountProgram (Except Unit Unit))
    return ()
  | none => return ()

def suspendPrincipal (principalId : PrincipalId) : AccountProgram Unit := do
  let now ← clock
  let _ ← ask "authentication.suspend" (.suspend principalId now)
  return ()

inductive SignOutElsewhereFailure where
  | accountSessionsUnavailable
  | chatUnavailable

structure SignedOutElsewhere where
  accountSessions : Nat
  chatDevices : Nat
  signInSessionsEnded : Bool

def endedSessions (revoked : Option OtherSessionsRevoked) : ExceptT SignOutElsewhereFailure (Program AccountCall AccountAnswer) Bool :=
  match revoked with
  | some revoked => consult (.endSessions revoked.account) fun ended => .ok (match ended with
      | .ok _ => true
      | .error _ => false)
  | none => return false

def signOut (actor : AuthenticatedPrincipal) (sessionSecret : SecretValue) (keepChatDevice : Option String) :
    ExceptT SignOutElsewhereFailure (Program AccountCall AccountAnswer) SignedOutElsewhere := do
  let now ← consult .clock .ok
  let revoked ← consult (.store (.revokeOthers actor.principalId (some (encodings.digest sessionSecret)) now none))
    fun answer => (answer : StoreResult (Option OtherSessionsRevoked)).mapError fun _ => .accountSessionsUnavailable
  let signInSessionsEnded ← endedSessions revoked
  let chatDevices ← consult (.signOutOtherDevices actor.principalId keepChatDevice) (·.mapError fun _ => .chatUnavailable)
  return ⟨(revoked.map OtherSessionsRevoked.revoked).getD 0, chatDevices, signInSessionsEnded⟩

end

inductive AccountRequest where
  | beginLogin (delivery : LoginDelivery) (intent : AuthenticationIntent)
  | completeLogin (code returnedState : String) (browserSecret : SecretValue) (passwordChange : Option PasswordChange)
  | exchangeDesktop (authorizationCode pkceVerifier : String)
  | authorizeDesktop (sessionSecret : SecretValue) (clientState : String) (codeChallenge : PkceCodeChallenge) (returnPath : String)
  | authenticate (sessionSecret : SecretValue) (requirement : AuthenticationRequirement)
  | logout (sessionSecret : SecretValue)
  | suspend (principalId : PrincipalId)
  | signOutElsewhere (sessionSecret : SecretValue) (keepChatDevice : Option String)
deriving DecidableEq

inductive AccountReply where
  | redirect (redirect : LoginRedirect)
  | login (completion : LoginCompletion)
  | exchanged (completion : DesktopSessionCompletion)
  | authenticated (now : UtcMillis) (result : Except AuthenticationFailure AuthenticatedPrincipal)
  | signedOut (result : Except SignOutElsewhereFailure SignedOutElsewhere)
  | nothing

variable (policy : AuthenticationPolicy) (encodings : AccountEncodings)

def authenticate (sessionSecret : SecretValue) (requirement : AuthenticationRequirement) :
    AccountProgram (UtcMillis × Except AuthenticationFailure AuthenticatedPrincipal) := do
  let now ← clock
  let result ← attempted (authenticateAt policy encodings sessionSecret requirement now)
  return (now, result)

def signOutElsewhere (sessionSecret : SecretValue) (keepChatDevice : Option String) :
    AccountProgram (Except SignOutElsewhereFailure SignedOutElsewhere) := do
  let now ← clock
  let actor ← authenticateAt policy encodings sessionSecret .activeSession now
  attempted (signOut encodings actor sessionSecret keepChatDevice)

def accountProgram : AccountRequest → Program AccountCall AccountAnswer (Except AuthenticationFailure AccountReply)
  | .beginLogin delivery intent => (do return .redirect (← beginLogin policy encodings delivery intent) : AccountProgram AccountReply).run
  | .completeLogin code returnedState browserSecret passwordChange =>
    (do return .login (← completeLogin policy encodings code returnedState browserSecret passwordChange) : AccountProgram AccountReply).run
  | .exchangeDesktop authorizationCode pkceVerifier =>
    (do return .exchanged (← exchangeDesktopAuthorization policy encodings authorizationCode pkceVerifier) :
      AccountProgram AccountReply).run
  | .authorizeDesktop sessionSecret clientState codeChallenge returnPath =>
    (do return .login (← authorizeDesktopSession policy encodings sessionSecret clientState codeChallenge returnPath) :
      AccountProgram AccountReply).run
  | .authenticate sessionSecret requirement =>
    (do let answer ← authenticate policy encodings sessionSecret requirement
        return .authenticated answer.1 answer.2 : AccountProgram AccountReply).run
  | .logout sessionSecret => (do logout encodings sessionSecret; return .nothing : AccountProgram AccountReply).run
  | .suspend principalId => (do suspendPrincipal principalId; return .nothing : AccountProgram AccountReply).run
  | .signOutElsewhere sessionSecret keepChatDevice =>
    (do return .signedOut (← signOutElsewhere policy encodings sessionSecret keepChatDevice) : AccountProgram AccountReply).run

end AgentRoom.Account
