import AgentRoom.Domain.Failures
import AgentRoom.Handoff.TargetedQueue
import AgentRoom.Library.Method

namespace AgentRoom

open Library

inductive PrincipalStatus where
  | active
  | suspended
  | deleting
  | deleted
deriving DecidableEq

structure Principal where
  id : PrincipalId
  status : PrincipalStatus
deriving DecidableEq

def Principal.allowsAuthentication (principal : Principal) : Bool := principal.status = .active

inductive DeviceTrustState where
  | pending
  | verified
  | revoked
deriving DecidableEq

structure DevicePublicSigningKey where
  bytes : BitVec 256
deriving DecidableEq

structure Device where
  id : DeviceId
  principalId : PrincipalId
  publicSigningKey : DevicePublicSigningKey
  trustState : DeviceTrustState
  lastSeenAt : Option UtcMillis
  revokedAt : Option UtcMillis
  createdAt : UtcMillis

namespace Device

def restore (device : Device) : DomainResult Device :=
  if decide (device.trustState = .revoked) ≠ device.revokedAt.isSome then
    .error (.validation "device_revoked_at" "必须与撤销状态一致")
  else if device.revokedAt.any (· < device.createdAt) || device.lastSeenAt.any (· < device.createdAt) then
    .error (.validation "device_timestamp" "不能早于设备创建时间")
  else .ok device

def acceptsAuthenticatedRequests (device : Device) : Bool := device.trustState = .verified

def trustName (device : Device) : String :=
  match device.trustState with
  | .pending => "pending"
  | .verified => "verified"
  | .revoked => "revoked"

def recordSeen (seenAt : UtcMillis) : Method DomainError Device Unit := do
  let device ← get
  if ¬ device.acceptsAuthenticatedRequests then throw (.invalidTransition "device" device.trustName "seen")
  else if seenAt < device.createdAt ∨ device.lastSeenAt.any (seenAt < ·) then
    throw (.validation "device_last_seen_at" "不能倒退")
  else set { device with lastSeenAt := some seenAt }

end Device

inductive DeviceTokenFamilyState where
  | active
  | revoked
  | compromised
deriving DecidableEq

structure DeviceTokenFamily where
  id : DeviceTokenFamilyId
  deviceId : DeviceId
  state : DeviceTokenFamilyState
  createdAt : UtcMillis
  authenticatedAt : Option UtcMillis
  expiresAt : UtcMillis
  revokedAt : Option UtcMillis
  compromiseDetectedAt : Option UtcMillis
deriving DecidableEq

namespace DeviceTokenFamily

def new (id : DeviceTokenFamilyId) (deviceId : DeviceId) (createdAt expiresAt : UtcMillis) : DomainResult DeviceTokenFamily :=
  if expiresAt ≤ createdAt then .error (.validation "device_token_family_expires_at" "必须晚于创建时间")
  else .ok {
    id
    deviceId
    state := .active
    createdAt
    authenticatedAt := none
    expiresAt
    revokedAt := none
    compromiseDetectedAt := none }

def withAuthenticatedAt (family : DeviceTokenFamily) (authenticatedAt : UtcMillis) : DomainResult DeviceTokenFamily :=
  if family.createdAt < authenticatedAt then
    .error (.validation "device_token_family_authenticated_at" "不能晚于创建时间")
  else .ok { family with authenticatedAt := some authenticatedAt }

def stateConsistent (state : DeviceTokenFamilyState) (revokedAt compromiseDetectedAt : Option UtcMillis) : Bool :=
  match state with
  | .active => revokedAt.isNone && compromiseDetectedAt.isNone
  | .revoked => revokedAt.isSome && compromiseDetectedAt.isNone
  | .compromised => revokedAt.isSome && compromiseDetectedAt.isSome

def restore (id : DeviceTokenFamilyId) (deviceId : DeviceId) (state : DeviceTokenFamilyState)
    (createdAt expiresAt : UtcMillis) (revokedAt compromiseDetectedAt : Option UtcMillis) : DomainResult DeviceTokenFamily :=
  if expiresAt ≤ createdAt ∨ revokedAt.any (· < createdAt) ∨ compromiseDetectedAt.any (· < createdAt) ∨
      ¬ stateConsistent state revokedAt compromiseDetectedAt then
    .error (.validation "device_token_family_state" "状态与时间字段不一致")
  else .ok { id, deviceId, state, createdAt, authenticatedAt := none, expiresAt, revokedAt, compromiseDetectedAt }

def lifetimeAnchor (family : DeviceTokenFamily) : UtcMillis := family.authenticatedAt.getD family.createdAt

def allowsRotation (family : DeviceTokenFamily) (now : UtcMillis) : Bool :=
  family.state = .active ∧ now < family.expiresAt

def renew (lifetime : SlidingLifetime) (now : UtcMillis) : Method DomainError DeviceTokenFamily Unit := do
  let family ← get
  if ¬ family.allowsRotation now then
    throw (.invalidTransition "device_token_family" "inactive" "renewed")
  else
    let renewed ← lift (lifetime.renewedUntil family.lifetimeAnchor now)
    if family.expiresAt < renewed then set { family with expiresAt := renewed }
    else pure ()

def revoke (revokedAt : UtcMillis) : Method DomainError DeviceTokenFamily Unit := do
  let family ← get
  if revokedAt < family.createdAt then
    throw (.validation "device_token_family_revoked_at" "不能早于创建时间")
  else if family.state = .active then set { family with state := .revoked, revokedAt := some revokedAt }
  else pure ()

def markCompromised (detectedAt : UtcMillis) : Method DomainError DeviceTokenFamily Unit := do
  let family ← get
  if detectedAt < family.createdAt then
    throw (.validation "device_token_family_compromise_detected_at" "不能早于创建时间")
  else if family.state ≠ .compromised then
    set { family with
      state := .compromised
      revokedAt := some (family.revokedAt.getD detectedAt)
      compromiseDetectedAt := some detectedAt }
  else pure ()

-- What a renewal does: it moves the expiry later or not at all.
theorem renew_yields (family : DeviceTokenFamily) (lifetime : SlidingLifetime) (now : UtcMillis) :
    Yields (renew lifetime now) family fun _ next =>
      family.allowsRotation now = true ∧ next = { family with expiresAt := next.expiresAt } ∧
        family.expiresAt ≤ next.expiresAt := by
  apply yields_get
  apply yields_ite
  · intro _
    exact yields_throw
  · intro allowed
    have rotates : family.allowsRotation now = true := by simpa using allowed
    apply yields_lift
    intro renewed _
    apply yields_ite
    · intro later
      exact ⟨rotates, rfl, Nat.le_of_lt later⟩
    · intro _
      exact ⟨rotates, rfl, Nat.le_refl _⟩

end DeviceTokenFamily

structure SecretDigest where
  bytes : BitVec 256
deriving DecidableEq

structure DeviceRefreshReplaySalt where
  bytes : BitVec 256

structure PrincipalRow where
  principal : Principal
  oidcIssuer : String
  oidcSubject : String
deriving DecidableEq

def deviceChecks (device : Device) (verifiedAt : Option UtcMillis) : Bool :=
  device.lastSeenAt.all (device.createdAt ≤ ·) && verifiedAt.all (device.createdAt ≤ ·) &&
    device.revokedAt.all (device.createdAt ≤ ·) &&
    match device.trustState with
    | .pending => verifiedAt.isNone && device.revokedAt.isNone
    | .verified => verifiedAt.isSome && device.revokedAt.isNone
    | .revoked => device.revokedAt.any fun revokedAt => verifiedAt.all (· ≤ revokedAt)

structure DeviceRow where
  device : Device
  verifiedAt : Option UtcMillis
  checked : deviceChecks device verifiedAt = true

def familyChecks (family : DeviceTokenFamily) : Bool :=
  decide (family.createdAt < family.expiresAt) &&
    DeviceTokenFamily.stateConsistent family.state family.revokedAt family.compromiseDetectedAt &&
    family.revokedAt.all (family.createdAt ≤ ·) &&
    family.compromiseDetectedAt.all (fun detectedAt =>
      family.createdAt ≤ detectedAt ∧ family.revokedAt.all (· ≤ detectedAt)) &&
    family.authenticatedAt.all (· ≤ family.createdAt)

structure FamilyRow where
  family : DeviceTokenFamily
  checked : familyChecks family = true

structure DeviceAccessToken where
  id : DeviceAccessTokenId
  familyId : DeviceTokenFamilyId
  deviceId : DeviceId
  secretDigest : SecretDigest
  issuedAt : UtcMillis
  expiresAt : UtcMillis
  revokedAt : Option UtcMillis

def accessChecks (token : DeviceAccessToken) : Bool :=
  decide (token.issuedAt < token.expiresAt) && token.revokedAt.all (token.issuedAt ≤ ·)

structure AccessRow where
  token : DeviceAccessToken
  checked : accessChecks token = true

structure DeviceRefreshToken where
  id : DeviceRefreshTokenId
  familyId : DeviceTokenFamilyId
  secretDigest : SecretDigest
  sequence : Nat
  issuedAt : UtcMillis
  expiresAt : UtcMillis
  consumedAt : Option UtcMillis
  replacedById : Option DeviceRefreshTokenId
  revokedAt : Option UtcMillis

def refreshChecks (token : DeviceRefreshToken) : Bool :=
  decide (token.issuedAt < token.expiresAt) && token.consumedAt.all (token.issuedAt ≤ ·) &&
    token.consumedAt.isSome == token.replacedById.isSome && token.revokedAt.all (token.issuedAt ≤ ·) &&
    decide (token.replacedById ≠ some token.id)

structure RefreshRow where
  token : DeviceRefreshToken
  checked : refreshChecks token = true

structure AttemptRow where
  refreshTokenId : DeviceRefreshTokenId
  attemptId : DeviceRefreshAttemptId
  successorRefreshTokenId : DeviceRefreshTokenId
  accessTokenId : DeviceAccessTokenId
  replaySalt : Option DeviceRefreshReplaySalt
  createdAt : UtcMillis
  checked : successorRefreshTokenId ≠ refreshTokenId

structure ReceiptRow where
  authorizationDigest : SecretDigest
  principalId : PrincipalId
  deviceId : DeviceId
  consumedAt : UtcMillis
  expiresAt : UtcMillis
  checked : consumedAt < expiresAt

structure ComputerGrantRecord where
  grantDigest : SecretDigest
  principalId : PrincipalId
  authenticatedAt : UtcMillis
  createdAt : UtcMillis
  expiresAt : UtcMillis

structure ComputerGrantRow where
  record : ComputerGrantRecord
  checked : record.authenticatedAt ≤ record.createdAt ∧ record.createdAt < record.expiresAt

-- An Agent instance is revoked exactly where the time is set.
structure InstanceRow where
  id : AgentInstanceId
  deviceId : DeviceId
  leaseExpiresAt : Option UtcMillis
  revokedAt : Option UtcMillis

def InstanceRow.revoke (deviceId : DeviceId) (revokedAt : UtcMillis) (row : InstanceRow) : InstanceRow :=
  if row.deviceId = deviceId ∧ row.revokedAt = none then { row with leaseExpiresAt := none, revokedAt := some revokedAt } else row

structure HandoffTable where
  rows : TargetedRows
  checked : ∀ row ∈ rows, row.checked = true

theorem TargetedRows.failed_checked {rows next : TargetedRows}
    (run : failTargetedHandoffsForDevice operation deviceOf rows deviceId failedAt = .ok next)
    (checked : ∀ row ∈ rows, row.checked = true) : ∀ row ∈ next, row.checked = true := by
  intro new listed
  obtain ⟨old, member, ⟨_, written⟩ | ⟨_, rfl⟩⟩ := related_from (update_where_ok _ _ rows next run) listed
  · exact TargetedRow.write_checked written
  · exact checked new member

def HandoffTable.failTargetedHandoffsForDevice (operation : String) (deviceOf : AgentInstanceId → Option DeviceId) (table : HandoffTable)
    (deviceId : DeviceId) (failedAt : UtcMillis) : RepositoryResult HandoffTable :=
  match run : TargetedRows.failTargetedHandoffsForDevice operation deviceOf table.rows deviceId failedAt with
  | .ok rows => .ok ⟨rows, TargetedRows.failed_checked run table.checked⟩
  | .error failure => .error failure

structure DeviceTables where
  principals : List PrincipalRow
  devices : List DeviceRow
  families : List FamilyRow
  accessTokens : List AccessRow
  refreshTokens : List RefreshRow
  attempts : List AttemptRow
  receipts : List ReceiptRow
  grants : List ComputerGrantRow
  instances : List InstanceRow
  handoffs : HandoffTable

def DeviceTables.deviceOf (tables : DeviceTables) (id : AgentInstanceId) : Option DeviceId :=
  (tables.instances.find? (·.id = id)).map InstanceRow.deviceId

def DeviceTables.empty : DeviceTables where
  principals := []
  devices := []
  families := []
  accessTokens := []
  refreshTokens := []
  attempts := []
  receipts := []
  grants := []
  instances := []
  handoffs := ⟨[], nofun⟩

structure PrincipalRegistration where
  principal : Principal
  oidcIssuer : String
  oidcSubject : String

structure DeviceSessionRegistration where
  authorizationTokenDigest : SecretDigest
  authorizationReceiptExpiresAt : UtcMillis
  family : DeviceTokenFamily
  accessTokenId : DeviceAccessTokenId
  accessTokenDigest : SecretDigest
  accessTokenExpiresAt : UtcMillis
  refreshTokenId : DeviceRefreshTokenId
  refreshTokenDigest : SecretDigest
  issuedAt : UtcMillis

structure DeviceRefreshReplay where
  attemptId : DeviceRefreshAttemptId
  salt : DeviceRefreshReplaySalt

structure DeviceTokenReplacement where
  accessTokenId : DeviceAccessTokenId
  accessTokenDigest : SecretDigest
  accessTokenExpiresAt : UtcMillis
  refreshTokenId : DeviceRefreshTokenId
  refreshTokenDigest : SecretDigest
  issuedAt : UtcMillis
  refreshLifetime : SlidingLifetime
  replay : Option DeviceRefreshReplay

structure StoredDeviceSession where
  account : Principal
  device : Device
  family : DeviceTokenFamily
  accessTokenExpiresAt : UtcMillis

inductive DeviceRefreshOutcome where
  | rotated (session : StoredDeviceSession) (refreshTokenExpiresAt : UtcMillis)
  | replayed (session : StoredDeviceSession) (refreshTokenExpiresAt : UtcMillis) (salt : DeviceRefreshReplaySalt)
      (accessTokenDigest refreshTokenDigest : SecretDigest)
  | reuseDetected (deviceId : DeviceId) (principalId : PrincipalId)
  | rejected

inductive DeviceRevocationOutcome where
  | revoked
  | alreadyRevoked
  | notFound

end AgentRoom
