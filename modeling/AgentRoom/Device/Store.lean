import AgentRoom.Device.Tables
import AgentRoom.Library.Relation

namespace AgentRoom

open Library

def deviceSeenWriteIntervalMs : Nat := 60 * 60 * 1000

-- Rewriting a row rechecks the constraints of its table.
def DeviceRow.write (operation : String) (device : Device) (verifiedAt : Option UtcMillis) : RepositoryResult DeviceRow :=
  if checked : deviceChecks device verifiedAt = true then .ok ⟨device, verifiedAt, checked⟩
  else .error (constraint operation)

def FamilyRow.write (operation : String) (family : DeviceTokenFamily) : RepositoryResult FamilyRow :=
  if checked : familyChecks family = true then .ok ⟨family, checked⟩ else .error (constraint operation)

def AccessRow.write (operation : String) (token : DeviceAccessToken) : RepositoryResult AccessRow :=
  if checked : accessChecks token = true then .ok ⟨token, checked⟩ else .error (constraint operation)

def RefreshRow.write (operation : String) (token : DeviceRefreshToken) : RepositoryResult RefreshRow :=
  if checked : refreshChecks token = true then .ok ⟨token, checked⟩ else .error (constraint operation)

def decodeDevice (operation : String) (row : DeviceRow) : RepositoryResult Device :=
  orCorrupt operation row.device.restore

def decodeTokenFamily (operation : String) (row : FamilyRow) : RepositoryResult DeviceTokenFamily := do
  let stored := row.family
  let family ← orCorrupt operation <| DeviceTokenFamily.restore stored.id stored.deviceId stored.state stored.createdAt
    stored.expiresAt stored.revokedAt stored.compromiseDetectedAt
  match stored.authenticatedAt with
  | some authenticatedAt => orCorrupt operation (family.withAuthenticatedAt authenticatedAt)
  | none => .ok family

namespace DeviceTables

variable (operation : String) (tables : DeviceTables)

-- ON CONFLICT (oidc_issuer, oidc_subject) DO NOTHING.
def insertPrincipalIfAbsent (registration : PrincipalRegistration) : RepositoryResult DeviceTables :=
  if tables.principals.any fun row =>
      row.oidcIssuer = registration.oidcIssuer ∧ row.oidcSubject = registration.oidcSubject then .ok tables
  else if tables.principals.any (·.principal.id = registration.principal.id) then .error (conflicting operation)
  else .ok { tables with
    principals := tables.principals ++ [⟨registration.principal, registration.oidcIssuer, registration.oidcSubject⟩] }

def lockAccountByOidc (issuer subject : String) : RepositoryResult Principal :=
  match tables.principals.find? fun row => row.oidcIssuer = issuer ∧ row.oidcSubject = subject with
  | some row => .ok row.principal
  | none => .error (corruptData operation)

def lockAccountById (principalId : PrincipalId) : RepositoryResult Principal :=
  match tables.principals.find? (·.principal.id = principalId) with
  | some row => .ok row.principal
  | none => .error (corruptData operation)

def activeKey (publicKey : DevicePublicSigningKey) (row : DeviceRow) : Bool :=
  row.device.publicSigningKey = publicKey ∧ row.device.revokedAt = none

-- ON CONFLICT (public_signing_key) WHERE revoked_at IS NULL DO NOTHING.
def insertDeviceIfAbsent (principalId : PrincipalId) (device : Device) : RepositoryResult DeviceTables :=
  if tables.devices.any (activeKey device.publicSigningKey) then .ok tables
  else if tables.devices.any (·.device.id = device.id) then .error (conflicting operation)
  else do
    let row ← DeviceRow.write operation {
      id := device.id
      principalId
      publicSigningKey := device.publicSigningKey
      trustState := .verified
      lastSeenAt := none
      revokedAt := none
      createdAt := device.createdAt } (some device.createdAt)
    return { tables with devices := tables.devices ++ [row] }

def lockDeviceByActiveKey (publicKey : DevicePublicSigningKey) : RepositoryResult Device :=
  match tables.devices.find? (activeKey publicKey) with
  | some row => decodeDevice operation row
  | none => .error (corruptData operation)

def updateVerifiedDevice (existing requested : Device) : RepositoryResult DeviceTables := do
  let devices ← updateWhere (fun row => row.device.id = existing.id ∧ row.device.revokedAt = none)
    (fun row => DeviceRow.write operation { row.device with trustState := .verified }
      (row.verifiedAt.or (some requested.createdAt))) tables.devices
  return { tables with devices }

def claimDevice (account : Principal) (requested : Device) : RepositoryResult (DeviceTables × Device) := do
  let inserted ← tables.insertDeviceIfAbsent operation account.id requested
  let existing ← inserted.lockDeviceByActiveKey operation requested.publicSigningKey
  if existing.principalId ≠ account.id then .error ⟨operation, .forbidden⟩
  else
    let verified ← inserted.updateVerifiedDevice operation existing requested
    let device ← orCorrupt operation <| Device.restore {
      id := existing.id
      principalId := existing.principalId
      publicSigningKey := requested.publicSigningKey
      trustState := .verified
      lastSeenAt := existing.lastSeenAt
      revokedAt := none
      createdAt := existing.createdAt }
    return (verified, device)

def consumeAuthorizationReceipt (principalId : PrincipalId)
    (deviceId : DeviceId) (session : DeviceSessionRegistration) : RepositoryResult DeviceTables :=
  let kept := tables.receipts.filter fun row => ¬ row.expiresAt < session.issuedAt
  if checked : session.issuedAt < session.authorizationReceiptExpiresAt then
    if kept.any (·.authorizationDigest = session.authorizationTokenDigest) then .error (conflicting operation)
    else
      let row : ReceiptRow := {
        authorizationDigest := session.authorizationTokenDigest
        principalId
        deviceId
        consumedAt := session.issuedAt
        expiresAt := session.authorizationReceiptExpiresAt
        checked }
      .ok { tables with receipts := kept ++ [row] }
  else .error (constraint operation)

def ofDevice (families : List FamilyRow) (deviceId : DeviceId) (row : RefreshRow) : Bool :=
  families.any fun other => other.family.id = row.token.familyId ∧ other.family.deviceId = deviceId

def revokeTokens (deviceId : DeviceId) (revokedAt : UtcMillis) : RepositoryResult DeviceTables := do
  let accessTokens ← updateWhere (fun row => row.token.deviceId = deviceId ∧ row.token.revokedAt = none)
    (fun row => AccessRow.write operation { row.token with revokedAt := some revokedAt }) tables.accessTokens
  let refreshTokens ← updateWhere (fun row => ofDevice tables.families deviceId row ∧ row.token.revokedAt = none)
    (fun row => RefreshRow.write operation { row.token with revokedAt := some revokedAt }) tables.refreshTokens
  return { tables with accessTokens, refreshTokens }

def activeOf (deviceId : DeviceId) (row : FamilyRow) : Bool :=
  row.family.deviceId = deviceId ∧ row.family.state = .active

def revokeActiveFamilies (deviceId : DeviceId) (revokedAt : UtcMillis) : RepositoryResult DeviceTables := do
  let revoked ← tables.revokeTokens operation deviceId revokedAt
  let families ← updateWhere (activeOf deviceId)
    (fun row => FamilyRow.write operation { row.family with state := .revoked, revokedAt := some revokedAt }) revoked.families
  return { revoked with families }

def revokeDeviceAndTokens (deviceId : DeviceId) (revokedAt : UtcMillis) : RepositoryResult DeviceTables := do
  let devices ← updateWhere (fun row => row.device.id = deviceId ∧ row.device.trustState ≠ .revoked)
    (fun row => DeviceRow.write operation { row.device with trustState := .revoked, revokedAt := some revokedAt }
      row.verifiedAt) tables.devices
  let revoked ← { tables with devices }.revokeActiveFamilies operation deviceId revokedAt
  let instances := revoked.instances.map (InstanceRow.revoke deviceId revokedAt)
  let handoffs ← revoked.handoffs.failTargetedHandoffsForDevice operation revoked.deviceOf deviceId revokedAt
  return { revoked with instances, handoffs }

def compromiseDevice (device : Device) (familyId : DeviceTokenFamilyId)
    (compromisedAt : UtcMillis) : RepositoryResult DeviceTables := do
  let families ← updateWhere (fun row => row.family.id = familyId ∧ row.family.state = .active)
    (fun row => FamilyRow.write operation { row.family with
      state := .compromised
      revokedAt := row.family.revokedAt.or (some compromisedAt)
      compromiseDetectedAt := some compromisedAt }) tables.families
  { tables with families }.revokeDeviceAndTokens operation device.id compromisedAt

-- One active family for each device is a unique index.
def insertTokenFamily (family : DeviceTokenFamily) : RepositoryResult DeviceTables := do
  let row ← FamilyRow.write operation family
  if tables.families.any (·.family.id = family.id) then .error (conflicting operation)
  else if family.state = .active ∧ tables.families.any (activeOf family.deviceId) then .error (conflicting operation)
  else return { tables with families := tables.families ++ [row] }

def insertAccessToken (deviceId : DeviceId) (familyId : DeviceTokenFamilyId)
    (tokenId : DeviceAccessTokenId) (digest : SecretDigest) (issuedAt expiresAt : UtcMillis) : RepositoryResult DeviceTables := do
  let row ← AccessRow.write operation
    { id := tokenId, familyId, deviceId, secretDigest := digest, issuedAt, expiresAt, revokedAt := none }
  if tables.accessTokens.any fun old => old.token.id = tokenId ∨ old.token.secretDigest = digest then
    .error (conflicting operation)
  else return { tables with accessTokens := tables.accessTokens ++ [row] }

def insertRefreshToken (familyId : DeviceTokenFamilyId)
    (tokenId : DeviceRefreshTokenId) (digest : SecretDigest) (sequence : Nat) (issuedAt expiresAt : UtcMillis) :
    RepositoryResult DeviceTables := do
  let row ← RefreshRow.write operation {
    id := tokenId
    familyId
    secretDigest := digest
    sequence
    issuedAt
    expiresAt
    consumedAt := none
    replacedById := none
    revokedAt := none }
  if tables.refreshTokens.any fun old => old.token.id = tokenId ∨ old.token.secretDigest = digest ∨
      (old.token.familyId = familyId ∧ old.token.sequence = sequence) then .error (conflicting operation)
  else return { tables with refreshTokens := tables.refreshTokens ++ [row] }

def registeredFamily (device : Device) (requested : DeviceTokenFamily) : RepositoryResult DeviceTokenFamily := do
  let family ← orCorrupt operation <|
    DeviceTokenFamily.new requested.id device.id requested.createdAt requested.expiresAt
  match requested.authenticatedAt with
  | some authenticatedAt => orCorrupt operation (family.withAuthenticatedAt authenticatedAt)
  | none => .ok family

-- A device's new session takes the place of every session it had.
def storeDeviceSession (account : Principal) (requested : Device)
    (session : DeviceSessionRegistration) : RepositoryResult (DeviceTables × StoredDeviceSession) :=
  if ¬ account.allowsAuthentication then .error ⟨operation, .forbidden⟩
  else do
    let (claimed, device) ← tables.claimDevice operation account requested
    let received ← claimed.consumeAuthorizationReceipt operation account.id device.id session
    let revoked ← received.revokeActiveFamilies operation device.id session.issuedAt
    let family ← registeredFamily operation device session.family
    let opened ← revoked.insertTokenFamily operation family
    let granted ← opened.insertAccessToken operation device.id family.id session.accessTokenId session.accessTokenDigest
      session.issuedAt session.accessTokenExpiresAt
    let stored ← granted.insertRefreshToken operation family.id session.refreshTokenId session.refreshTokenDigest 0
      session.issuedAt family.expiresAt
    return (stored, { account, device, family, accessTokenExpiresAt := session.accessTokenExpiresAt })

def registerDevice (registration : PrincipalRegistration) (requested : Device)
    (session : DeviceSessionRegistration) : RepositoryResult (DeviceTables × StoredDeviceSession) := do
  let operation := "device.register"
  let known ← tables.insertPrincipalIfAbsent operation registration
  let account ← known.lockAccountByOidc operation registration.oidcIssuer registration.oidcSubject
  known.storeDeviceSession operation account requested session

def insertGrant (record : ComputerGrantRecord) : RepositoryResult DeviceTables :=
  let operation := "device.computer_grant.insert"
  let kept := tables.grants.filter fun row => ¬ row.record.expiresAt ≤ record.createdAt
  if checked : record.authenticatedAt ≤ record.createdAt ∧ record.createdAt < record.expiresAt then
    if kept.any (·.record.grantDigest = record.grantDigest) then .error (conflicting operation)
    else .ok { tables with grants := kept ++ [⟨record, checked⟩] }
  else .error (constraint operation)

def usableGrant (grant : ComputerGrantRecord) (now : UtcMillis) (row : ComputerGrantRow) : Bool :=
  row.record.grantDigest = grant.grantDigest ∧ row.record.principalId = grant.principalId ∧ now < row.record.expiresAt

def registerWithGrant (grant : ComputerGrantRecord) (requested : Device)
    (session : DeviceSessionRegistration) : RepositoryResult (DeviceTables × StoredDeviceSession) :=
  let operation := "device.register_with_grant"
  if tables.grants.countP (usableGrant grant session.issuedAt) ≠ 1 then .error ⟨operation, .notFound⟩
  else do
    let used := { tables with grants := tables.grants.filter fun row => !usableGrant grant session.issuedAt row }
    let account ← used.lockAccountById operation grant.principalId
    used.storeDeviceSession operation account requested session

def revokeDevice (principalId : PrincipalId) (deviceId : DeviceId) (revokedAt : UtcMillis) :
    RepositoryResult (DeviceTables × DeviceRevocationOutcome) :=
  let operation := "device.revoke"
  match tables.devices.find? fun row => row.device.id = deviceId ∧ row.device.principalId = principalId with
  | none => .ok (tables, .notFound)
  | some row => do
    let device ← decodeDevice operation row
    if device.trustState = .revoked then return (tables, .alreadyRevoked)
    else
      let revoked ← tables.revokeDeviceAndTokens operation device.id revokedAt
      return (revoked, .revoked)

structure LockedRefreshContext where
  account : Principal
  device : Device
  family : DeviceTokenFamily
  refreshId : DeviceRefreshTokenId
  sequence : Nat
  consumed : Bool
  revoked : Bool
  expiresAt : UtcMillis

structure RefreshJoin where
  refresh : RefreshRow
  family : FamilyRow
  device : DeviceRow
  principal : PrincipalRow

def joinRefresh (digest : SecretDigest) : Option RefreshJoin := do
  let refresh ← tables.refreshTokens.find? (·.token.secretDigest = digest)
  let family ← tables.families.find? (·.family.id = refresh.token.familyId)
  let device ← tables.devices.find? (·.device.id = family.family.deviceId)
  let principal ← tables.principals.find? (·.principal.id = device.device.principalId)
  return { refresh, family, device, principal }

def lockContext (row : RefreshJoin) : RepositoryResult LockedRefreshContext := do
  let device ← decodeDevice operation row.device
  let family ← decodeTokenFamily operation row.family
  return {
    account := row.principal.principal
    device
    family
    refreshId := row.refresh.token.id
    sequence := row.refresh.token.sequence
    consumed := row.refresh.token.consumedAt.isSome
    revoked := row.refresh.token.revokedAt.isSome
    expiresAt := row.refresh.token.expiresAt }

def refuses (locked : LockedRefreshContext) (issuedAt : UtcMillis) : Bool :=
  !locked.account.allowsAuthentication || !locked.device.acceptsAuthenticatedRequests ||
    !locked.family.allowsRotation issuedAt || locked.revoked || decide (locked.expiresAt ≤ issuedAt)

structure AttemptJoin where
  attempt : AttemptRow
  successor : RefreshRow
  access : AccessRow

def joinAttempt (refreshId : DeviceRefreshTokenId) : Option AttemptJoin := do
  let attempt ← tables.attempts.find? (·.refreshTokenId = refreshId)
  let successor ← tables.refreshTokens.find? (·.token.id = attempt.successorRefreshTokenId)
  let access ← tables.accessTokens.find? (·.token.id = attempt.accessTokenId)
  return { attempt, successor, access }

def successorCurrent (row : AttemptJoin) (now : UtcMillis) : Bool :=
  row.successor.token.consumedAt = none ∧ row.successor.token.revokedAt = none ∧ now < row.successor.token.expiresAt

-- Only the same attempt, while the token it was given is still the current one.
def replayAllowed (row : AttemptJoin) (attemptId : DeviceRefreshAttemptId) (now : UtcMillis) : Bool :=
  row.attempt.attemptId = attemptId && successorCurrent row now && row.access.token.revokedAt.isNone

def replayRefreshAttempt (locked : LockedRefreshContext) (requested : DeviceRefreshReplay)
    (now : UtcMillis) : Option DeviceRefreshOutcome := do
  let row ← tables.joinAttempt locked.refreshId
  let salt ← row.attempt.replaySalt
  if replayAllowed row requested.attemptId now then
    some (.replayed
      { account := locked.account, device := locked.device, family := locked.family,
        accessTokenExpiresAt := row.access.token.expiresAt }
      locked.family.expiresAt salt row.access.token.secretDigest row.successor.token.secretDigest)
  else none

def presentConsumed (locked : LockedRefreshContext)
    (replacement : DeviceTokenReplacement) : RepositoryResult (DeviceTables × DeviceRefreshOutcome) :=
  match replacement.replay.bind fun requested => tables.replayRefreshAttempt locked requested replacement.issuedAt with
  | some replayed => .ok (tables, replayed)
  | none => do
    let compromised ← tables.compromiseDevice operation locked.device locked.family.id replacement.issuedAt
    return (compromised, .reuseDetected locked.device.id locked.account.id)

def renewTokenFamily (locked : DeviceTokenFamily)
    (replacement : DeviceTokenReplacement) : RepositoryResult (DeviceTables × DeviceTokenFamily) :=
  match (DeviceTokenFamily.renew replacement.refreshLifetime replacement.issuedAt).run locked with
  | .error _ _ => .error (corruptData operation)
  | .ok _ family =>
    if family.expiresAt = locked.expiresAt then .ok (tables, family)
    else
      let hit (row : FamilyRow) : Bool := row.family.id = family.id ∧ row.family.state = .active
      if tables.families.countP hit ≠ 1 then .error (corruptData operation)
      else do
        let families ← updateWhere hit
          (fun row => FamilyRow.write operation { row.family with expiresAt := family.expiresAt }) tables.families
        return ({ tables with families }, family)

-- Written at most once an hour, never for a clock behind the registration.
def recordDeviceSeen (locked : Device) (seenAt : UtcMillis) : RepositoryResult (DeviceTables × Device) :=
  let recent := locked.lastSeenAt.any fun lastSeenAt => seenAt.value < lastSeenAt.value + deviceSeenWriteIntervalMs
  if recent ∨ seenAt < locked.createdAt then .ok (tables, locked)
  else
    match (Device.recordSeen seenAt).run locked with
    | .error _ _ => .error (corruptData operation)
    | .ok _ device => do
      let devices ← updateWhere (fun row => row.device.id = device.id)
        (fun row => DeviceRow.write operation { row.device with lastSeenAt := some seenAt } row.verifiedAt) tables.devices
      return ({ tables with devices }, device)

def consumeRefreshToken (refreshId : DeviceRefreshTokenId)
    (consumedAt : UtcMillis) (replacedById : DeviceRefreshTokenId) : RepositoryResult DeviceTables := do
  let refreshTokens ← updateWhere (fun row => row.token.id = refreshId ∧ row.token.consumedAt = none)
    (fun row => RefreshRow.write operation
      { row.token with consumedAt := some consumedAt, replacedById := some replacedById }) tables.refreshTokens
  return { tables with refreshTokens }

def persistRefreshReplacement (locked : LockedRefreshContext)
    (replacement : DeviceTokenReplacement) : RepositoryResult (DeviceTables × StoredDeviceSession) :=
  if i64Max < locked.sequence + 1 then .error (corruptData operation)
  else do
    let (renewed, family) ← tables.renewTokenFamily operation locked.family replacement
    let (seen, device) ← renewed.recordDeviceSeen operation locked.device replacement.issuedAt
    let granted ← seen.insertAccessToken operation locked.device.id locked.family.id replacement.accessTokenId
      replacement.accessTokenDigest replacement.issuedAt replacement.accessTokenExpiresAt
    let inserted ← granted.insertRefreshToken operation locked.family.id replacement.refreshTokenId
      replacement.refreshTokenDigest (locked.sequence + 1) replacement.issuedAt family.expiresAt
    let consumed ← inserted.consumeRefreshToken operation locked.refreshId replacement.issuedAt replacement.refreshTokenId
    return (consumed, { account := locked.account, device, family, accessTokenExpiresAt := replacement.accessTokenExpiresAt })

def dropSalt (successor : DeviceRefreshTokenId) (row : AttemptRow) : AttemptRow :=
  if row.successorRefreshTokenId = successor then { row with replaySalt := none } else row

-- The rotation that issued the token now consumed can no longer be replayed.
def recordRefreshAttempt (locked : LockedRefreshContext)
    (replacement : DeviceTokenReplacement) : RepositoryResult DeviceTables :=
  let settled := tables.attempts.map (dropSalt locked.refreshId)
  match replacement.replay with
  | none => .ok { tables with attempts := settled }
  | some replay =>
    if checked : replacement.refreshTokenId ≠ locked.refreshId then
      if settled.any fun row =>
          row.refreshTokenId = locked.refreshId ∨ row.successorRefreshTokenId = replacement.refreshTokenId then
        .error (conflicting operation)
      else
        let row : AttemptRow := {
          refreshTokenId := locked.refreshId
          attemptId := replay.attemptId
          successorRefreshTokenId := replacement.refreshTokenId
          accessTokenId := replacement.accessTokenId
          replaySalt := some replay.salt
          createdAt := replacement.issuedAt
          checked }
        .ok { tables with attempts := settled ++ [row] }
    else .error (constraint operation)

def rotateLocked (locked : LockedRefreshContext)
    (replacement : DeviceTokenReplacement) : RepositoryResult (DeviceTables × DeviceRefreshOutcome) := do
  let (replaced, session) ← tables.persistRefreshReplacement operation locked replacement
  let recorded ← replaced.recordRefreshAttempt operation locked replacement
  return (recorded, .rotated session session.family.expiresAt)

def rotateRefresh (digest : SecretDigest) (replacement : DeviceTokenReplacement) :
    RepositoryResult (DeviceTables × DeviceRefreshOutcome) :=
  let operation := "device.refresh"
  match tables.joinRefresh digest with
  | none => .ok (tables, .rejected)
  | some row => do
    let locked ← lockContext operation row
    if refuses locked replacement.issuedAt then return (tables, .rejected)
    else if locked.consumed then tables.presentConsumed operation locked replacement
    else tables.rotateLocked operation locked replacement

end DeviceTables

end AgentRoom
