import AgentRoom.Device.Store

namespace AgentRoom

inductive DeviceAuthorizationFailureKind where
  | invalidRequest
  | invalidAuthorization
  | invalidToken
  | invalidProof
  | proofReplay
  | refreshTokenReuse
  | principalSuspended
  | deviceRevoked
  | notFound
  | conflict
  | dependencyUnavailable
  | internal

def DeviceAuthorizationFailureKind.status : DeviceAuthorizationFailureKind → Nat
  | .invalidRequest => 400
  | .invalidAuthorization => 401
  | .invalidToken => 401
  | .invalidProof => 401
  | .proofReplay => 401
  | .refreshTokenReuse => 401
  | .principalSuspended => 403
  | .deviceRevoked => 403
  | .notFound => 404
  | .conflict => 409
  | .dependencyUnavailable => 503
  | .internal => 500

def mapRepositoryFailure (error : RepositoryError) : DeviceAuthorizationFailureKind :=
  match error.kind with
  | .conflict => .conflict
  | .forbidden => .deviceRevoked
  | .notFound => .notFound
  | .unavailable => .dependencyUnavailable
  | .constraint | .corruptData => .internal

abbrev DeviceAuthorizationResult (α : Type) := Except DeviceAuthorizationFailureKind α

structure AuthenticatedDevice where
  account : Principal
  deviceId : DeviceId
  accessTokenExpiresAt : UtcMillis

structure DeviceCredentials (Secret : Type) where
  device : AuthenticatedDevice
  accessToken : Secret
  refreshToken : Secret
  refreshTokenExpiresAt : UtcMillis

structure DerivedDeviceTokens (Secret : Type) where
  accessToken : Secret
  refreshToken : Secret

-- The service's ports for hashing a secret and deriving a token pair.
structure DeviceSecrets (Secret : Type) where
  digest : Secret → SecretDigest
  derive : Secret → DeviceRefreshReplay → Option (DerivedDeviceTokens Secret)

structure DeviceRefreshPolicy where
  accessTokenTtl : DurationMillis
  refreshLifetime : SlidingLifetime

structure RefreshDeviceSession (Secret : Type) where
  refreshToken : Secret
  attemptId : Option DeviceRefreshAttemptId

-- What one request takes from the clock, the random source and the id factory,
-- and what the check of its proof said.
structure RefreshDraw (Secret : Type) where
  now : UtcMillis
  signature : DeviceAuthorizationResult Unit
  replaySalt : Option DeviceRefreshReplaySalt
  randomTokens : Option (DerivedDeviceTokens Secret)
  accessTokenId : DeviceAccessTokenId
  refreshTokenId : DeviceRefreshTokenId

structure DeviceRefreshContext where
  account : Principal
  device : Device
  family : DeviceTokenFamily

def DeviceTables.findRefreshContext (tables : DeviceTables) (digest : SecretDigest) :
    RepositoryResult (Option DeviceRefreshContext) :=
  let operation := "device_refresh.find_context"
  match tables.joinRefresh digest with
  | none => .ok none
  | some row => do
    let device ← decodeDevice operation row.device
    let family ← decodeTokenFamily operation row.family
    return some { account := row.principal.principal, device, family }

section

variable {Secret : Type} (secrets : DeviceSecrets Secret)

def orInternal {α : Type} : Option α → DeviceAuthorizationResult α
  | some value => .ok value
  | none => .error .internal

def admitRefresh (tables : DeviceTables) (digest : SecretDigest) (draw : RefreshDraw Secret) : DeviceAuthorizationResult Unit :=
  match tables.findRefreshContext digest with
  | .error failure => .error (mapRepositoryFailure failure)
  | .ok none => .error .invalidToken
  | .ok (some context) =>
    if ¬ context.account.allowsAuthentication then .error .principalSuspended
    else if ¬ context.device.acceptsAuthenticatedRequests then .error .deviceRevoked
    else if ¬ context.family.allowsRotation draw.now then .error .invalidToken
    else draw.signature

def newRefreshTokens (request : RefreshDeviceSession Secret) (draw : RefreshDraw Secret) :
    DeviceAuthorizationResult (Option DeviceRefreshReplay × DerivedDeviceTokens Secret) :=
  match request.attemptId with
  | none => do
    let tokens ← orInternal draw.randomTokens
    return (none, tokens)
  | some attemptId => do
    let salt ← orInternal draw.replaySalt
    let tokens ← orInternal (secrets.derive request.refreshToken { attemptId, salt })
    return (some { attemptId, salt }, tokens)

def replayedRefreshTokens (request : RefreshDeviceSession Secret) (salt : DeviceRefreshReplaySalt)
    (accessTokenDigest refreshTokenDigest : SecretDigest) : DeviceAuthorizationResult (DerivedDeviceTokens Secret) := do
  let attemptId ← orInternal request.attemptId
  let replayed ← orInternal (secrets.derive request.refreshToken { attemptId, salt })
  if secrets.digest replayed.accessToken ≠ accessTokenDigest ∨
      secrets.digest replayed.refreshToken ≠ refreshTokenDigest then .error .internal
  else return replayed

def credentials (session : StoredDeviceSession) (tokens : DerivedDeviceTokens Secret) (refreshTokenExpiresAt : UtcMillis) :
    DeviceCredentials Secret where
  device := {
    account := session.account
    deviceId := session.device.id
    accessTokenExpiresAt := session.accessTokenExpiresAt }
  accessToken := tokens.accessToken
  refreshToken := tokens.refreshToken
  refreshTokenExpiresAt

def prepareRefresh (policy : DeviceRefreshPolicy) (read : DeviceTables) (request : RefreshDeviceSession Secret)
    (draw : RefreshDraw Secret) : DeviceAuthorizationResult (DeviceTokenReplacement × DerivedDeviceTokens Secret) := do
  admitRefresh read (secrets.digest request.refreshToken) draw
  let (replay, tokens) ← newRefreshTokens secrets request draw
  let accessTokenExpiresAt ← (draw.now.checkedAdd policy.accessTokenTtl).mapError fun _ => .internal
  let replacement : DeviceTokenReplacement := {
    accessTokenId := draw.accessTokenId
    accessTokenDigest := secrets.digest tokens.accessToken
    accessTokenExpiresAt
    refreshTokenId := draw.refreshTokenId
    refreshTokenDigest := secrets.digest tokens.refreshToken
    issuedAt := draw.now
    refreshLifetime := policy.refreshLifetime
    replay }
  return (replacement, tokens)

def answerRefresh (request : RefreshDeviceSession Secret) (tokens : DerivedDeviceTokens Secret)
    (outcome : DeviceRefreshOutcome) : DeviceAuthorizationResult (DeviceCredentials Secret) :=
  match outcome with
  | .rotated session refreshTokenExpiresAt => .ok (credentials session tokens refreshTokenExpiresAt)
  | .replayed session refreshTokenExpiresAt salt accessTokenDigest refreshTokenDigest => do
    let replayed ← replayedRefreshTokens secrets request salt accessTokenDigest refreshTokenDigest
    return credentials session replayed refreshTokenExpiresAt
  | .reuseDetected _ _ => .error .refreshTokenReuse
  | .rejected => .error .invalidToken

structure RefreshExecution (Secret : Type) where
  tables : DeviceTables
  outcome : Option DeviceRefreshOutcome
  result : DeviceAuthorizationResult (DeviceCredentials Secret)

-- The context is read outside the transaction that exchanges the token.
def refreshDeviceSession (policy : DeviceRefreshPolicy) (read tables : DeviceTables)
    (request : RefreshDeviceSession Secret) (draw : RefreshDraw Secret) : RefreshExecution Secret :=
  match prepareRefresh secrets policy read request draw with
  | .error kind => { tables, outcome := none, result := .error kind }
  | .ok (replacement, tokens) =>
    match tables.rotateRefresh (secrets.digest request.refreshToken) replacement with
    | .error failure => { tables, outcome := none, result := .error (mapRepositoryFailure failure) }
    | .ok (next, outcome) =>
      { tables := next, outcome := some outcome, result := answerRefresh secrets request tokens outcome }

end

inductive BridgeCredentialState where
  | ready
  | refreshPending (attemptId : Option DeviceRefreshAttemptId)

structure StoredBridgeDeviceCredentials (Secret : Type) where
  state : BridgeCredentialState
  deviceId : DeviceId
  accessToken : Secret
  accessTokenExpiresAt : UtcMillis
  refreshToken : Secret
  refreshTokenExpiresAt : UtcMillis

structure RefreshBridgeDevice (Secret : Type) where
  refreshToken : Secret
  attemptId : DeviceRefreshAttemptId

structure ActiveBridgeSession (Secret : Type) where
  deviceId : DeviceId
  accessToken : Secret
  accessTokenExpiresAt : UtcMillis

inductive ControlPlaneDeviceFailureKind where
  | invalidRequest
  | authenticationRejected
  | conflict
  | dependencyUnavailable
  | unknownCommit
  | internal

def statusFailure (status : Nat) : ControlPlaneDeviceFailureKind :=
  if status = 400 ∨ status = 422 then .invalidRequest
  else if status = 401 ∨ status = 403 then .authenticationRejected
  else if status = 409 then .conflict
  else if status = 408 ∨ status = 429 ∨ status = 502 ∨ status = 503 ∨ status = 504 then .dependencyUnavailable
  else if 500 ≤ status ∧ status < 600 then .dependencyUnavailable
  else .internal

inductive BridgeSessionFailureKind where
  | notAuthorized
  | refreshOutcomeUnknown
  | secureStorageUnavailable
  | corruptSecureStorage
  | controlPlaneUnavailable
  | invalidControlPlaneResponse
  | internal

section

variable {Secret : Type}

def activeSession (stored : StoredBridgeDeviceCredentials Secret) : ActiveBridgeSession Secret where
  deviceId := stored.deviceId
  accessToken := stored.accessToken
  accessTokenExpiresAt := stored.accessTokenExpiresAt

inductive SessionOpening (Secret : Type) where
  | failed (kind : BridgeSessionFailureKind)
  | expired
  | active (session : ActiveBridgeSession Secret)
  | refresh (pending : StoredBridgeDeviceCredentials Secret) (attemptId : DeviceRefreshAttemptId)

def openRefresh (stored : StoredBridgeDeviceCredentials Secret) (attemptId : DeviceRefreshAttemptId) : SessionOpening Secret :=
  .refresh { stored with state := .refreshPending (some attemptId) } attemptId

def openSession (refreshLeadTime : DurationMillis) (now : UtcMillis) (fresh : DeviceRefreshAttemptId) :
    Option (StoredBridgeDeviceCredentials Secret) → SessionOpening Secret
  | none => .failed .notAuthorized
  | some stored =>
    if stored.refreshTokenExpiresAt ≤ now then .expired
    else
      match stored.state with
      | .ready =>
        match now.checkedAdd refreshLeadTime with
        | .error _ => .failed .internal
        | .ok refreshAt =>
          if refreshAt < stored.accessTokenExpiresAt then .active (activeSession stored)
          else openRefresh stored fresh
      | .refreshPending (some attemptId) => openRefresh stored attemptId
      | .refreshPending none => openRefresh stored fresh

inductive RefreshResolution (Secret : Type) where
  | clear (kind : BridgeSessionFailureKind)
  | keep (kind : BridgeSessionFailureKind)
  | persist (replacement : StoredBridgeDeviceCredentials Secret)

def resolveRefresh (pending : StoredBridgeDeviceCredentials Secret)
    (result : Except ControlPlaneDeviceFailureKind (DeviceCredentials Secret)) : RefreshResolution Secret :=
  match result with
  | .error .authenticationRejected | .error .conflict => .clear .notAuthorized
  | .error .unknownCommit => .keep .refreshOutcomeUnknown
  | .error .dependencyUnavailable => .keep .controlPlaneUnavailable
  | .error .invalidRequest | .error .internal => .keep .invalidControlPlaneResponse
  | .ok credentials =>
    if credentials.device.deviceId ≠ pending.deviceId then .keep .invalidControlPlaneResponse
    else .persist {
      state := .ready
      deviceId := credentials.device.deviceId
      accessToken := credentials.accessToken
      accessTokenExpiresAt := credentials.device.accessTokenExpiresAt
      refreshToken := credentials.refreshToken
      refreshTokenExpiresAt := credentials.refreshTokenExpiresAt }

inductive VaultWrite where
  | done
  | doneButFailed
  | failed

def VaultWrite.leaves {α : Type} (write : VaultWrite) (old new : α) : α :=
  match write with
  | .done | .doneButFailed => new
  | .failed => old

end

end AgentRoom
