import AgentRoom.Listing.Transactions

namespace AgentRoom

namespace PrivateRoom

def authorizeListingChange (room : PrivateRoom) (actor : PrincipalId) : DomainResult Unit :=
  if actor ≠ room.ownerPrincipalId then .error (.forbidden "修改私人房间的公开设置") else room.ensureActive "listing_changed"

end PrivateRoom

namespace Listing

open Library
open RoomAccess (RoomShareCode)
open PrivateRooms (PrivateRoomListingSaveOutcome AuthenticatedPrincipal PrivateRoomActor PrivateRoomFailure RoomUser attempt)

inductive ListingFailureKind where
  | invalidRequest
  | forbidden
  | notFound
  | limitReached
  | neverListed
  | conflict
  | dependencyUnavailable
  | internal

structure ListingFailure where
  operation : String
  kind : ListingFailureKind

structure PlatformHoldNotice where
  reason : String
  heldAt : UtcMillis

structure PrivateRoomSnapshot where
  room : PrivateRoom
  name : String
  description : String
  retentionDays : Option Nat

-- What the use cases ask of their ports about one room.
inductive ListingCall where
  | findByCatalog
  | contentPolicy
  | listing
  | platformHold
  | listedRoomsOwnedBy (owner : PrincipalId)
  | newShareCode
  | markListed (firstListedAt : UtcMillis)
  | enableEncryption
  | markRoomEncrypted
  | saveListing (record : PrivateRoomListingRecord) (expected : Option AggregateVersion) (owner : PrincipalId)
  | voidPendingJoinRequests (at' : UtcMillis)
  | ownsActiveAgent (principal : PrincipalId) (agent : AgentId)
  | matrixUserId (principal : PrincipalId)
  | createMatrixRoom
  | setSpeakingBatch (assignments : List (RoomUser × Bool))
  | createListedRoom (snapshot : PrivateRoomSnapshot) (listing : PrivateRoomListingRecord)

def ListingReply : ListingCall → Type
  | .findByCatalog => Except RepositoryErrorKind (Option PrivateRoomSnapshot)
  | .contentPolicy => Except RepositoryErrorKind (Option Bool)
  | .listing => Except RepositoryErrorKind (Option PrivateRoomListingRecord)
  | .platformHold => Except RepositoryErrorKind (Option PlatformHoldNotice)
  | .listedRoomsOwnedBy _ => Except RepositoryErrorKind (List RoomCatalogId)
  | .newShareCode => Option RoomShareCode
  | .markListed _ | .enableEncryption | .createMatrixRoom | .setSpeakingBatch _ => Except MatrixFailureKind Unit
  | .markRoomEncrypted | .voidPendingJoinRequests _ => Except RepositoryErrorKind Unit
  | .saveListing _ _ _ | .createListedRoom _ _ => Except RepositoryErrorKind PrivateRoomListingSaveOutcome
  | .ownsActiveAgent _ _ => Except RepositoryErrorKind Bool
  | .matrixUserId _ => Except RepositoryErrorKind (Option RoomUser)

abbrev SettingsProgram (α : Type) := ExceptT ListingFailure (Program ListingCall ListingReply) α

structure ListingView where
  settings : RoomListingSettings
  shareCode : Option RoomShareCode
  firstListedAt : Option UtcMillis
  endToEndEncrypted : Bool
  platformHold : Option PlatformHoldNotice

structure UpdateListing where
  actor : AuthenticatedPrincipal
  catalogId : RoomCatalogId
  settings : RoomListingSettings
  checkedAt : UtcMillis
  now : UtcMillis

structure ChangeShareCode where
  actor : AuthenticatedPrincipal
  catalogId : RoomCatalogId
  checkedAt : UtcMillis
  now : UtcMillis

structure LoadedRoom where
  snapshot : PrivateRoomSnapshot
  listing : Option PrivateRoomListingRecord
  encrypted : Bool
  hold : Option PlatformHoldNotice

def shareCodeAttempts : Nat := 4

def later (a b : UtcMillis) : UtcMillis := if a < b then b else a

def view (listing : Option PrivateRoomListingRecord) (encrypted : Bool) (platformHold : Option PlatformHoldNotice) : ListingView where
  settings := listing.elim .unlisted PrivateRoomListingRecord.settings
  shareCode := listing.map PrivateRoomListingRecord.shareCode
  firstListedAt := listing.map PrivateRoomListingRecord.firstListedAt
  endToEndEncrypted := encrypted
  platformHold

section

variable (operation : String)

def domain : DomainError → ListingFailure
  | .forbidden _ => ⟨operation, .forbidden⟩
  | .validation _ _ => ⟨operation, .invalidRequest⟩
  | .invalidTransition _ _ _ => ⟨operation, .conflict⟩
  | .invariantViolation _ _ | .capacityExceeded _ | .timeOverflow | .versionOverflow => ⟨operation, .internal⟩

def repository : RepositoryErrorKind → ListingFailure
  | .unavailable => ⟨operation, .dependencyUnavailable⟩
  | .forbidden => ⟨operation, .forbidden⟩
  | .notFound => ⟨operation, .notFound⟩
  | .conflict => ⟨operation, .conflict⟩
  | .constraint | .corruptData => ⟨operation, .internal⟩

def matrix : MatrixFailureKind → ListingFailure
  | .rateLimited | .timeout | .dependencyUnavailable | .unknownCommit => ⟨operation, .dependencyUnavailable⟩
  | _ => ⟨operation, .internal⟩

def nextVersion (listing : Option PrivateRoomListingRecord) : Except ListingFailure AggregateVersion :=
  (listing.elim AggregateVersion.initial PrivateRoomListingRecord.version).next.mapError (domain operation)

def newShareCode : SettingsProgram RoomShareCode :=
  consult .newShareCode fun answer => answer.elim (.error ⟨operation, .dependencyUnavailable⟩) .ok

def replacementShareCode (previous : RoomShareCode) : Nat → SettingsProgram RoomShareCode
  | 0 => settled (.error ⟨operation, .internal⟩)
  | attempts + 1 => do
    let code ← newShareCode operation
    if code ≠ previous then return code else replacementShareCode previous attempts

def joinedRoom (actor : AuthenticatedPrincipal) (now : UtcMillis) : SettingsProgram LoadedRoom := do
  settled (ensure ⟨operation, .forbidden⟩ (now < actor.expiresAt))
  let found ← consult .findByCatalog (Except.mapError (repository operation))
  let snapshot ← settled ((found.filter fun snapshot => snapshot.room.members[actor.principalId]?.any PrivateRoomMember.hasJoined).elim
    (.error ⟨operation, .notFound⟩) .ok)
  let policy ← consult .contentPolicy (Except.mapError (repository operation))
  let encrypted ← settled (policy.elim (.error ⟨operation, .internal⟩) .ok)
  let listing ← consult .listing (Except.mapError (repository operation))
  let hold ← consult .platformHold (Except.mapError (repository operation))
  return ⟨snapshot, listing, encrypted, hold⟩

def save (record : PrivateRoomListingRecord) (expected : Option AggregateVersion) (owner : PrincipalId) :
    SettingsProgram PrivateRoomListingSaveOutcome := do
  let outcome ← consult (.saveListing record expected owner) (Except.mapError (repository operation))
  match outcome with
  | .ownerLimitReached => settled (.error ⟨operation, .limitReached⟩)
  | .stale => settled (.error ⟨operation, .conflict⟩)
  | outcome => return outcome

def ensureListable (request : UpdateListing) (newlyListed : Bool) : SettingsProgram Unit :=
  if newlyListed then do
    let listed ← consult (.listedRoomsOwnedBy request.actor.principalId) (Except.mapError (repository operation))
    settled (ensure ⟨operation, .limitReached⟩ (∀ room ∈ listed, room = request.catalogId))
  else return ()

-- A room that is listed for the first time tells its members' clients so first.
def firstListing (listing : Option PrivateRoomListingRecord) (now : UtcMillis) : SettingsProgram UtcMillis := match listing with
  | some listing => return listing.firstListedAt
  | none => do
    consult (.markListed now) (Except.mapError (matrix operation))
    return now

def shareCodeOf (listing : Option PrivateRoomListingRecord) : SettingsProgram RoomShareCode := match listing with
  | some listing => return listing.shareCode
  | none => newShareCode operation

def saveListed (loaded : LoadedRoom) (owner : PrincipalId) : Nat → PrivateRoomListingRecord → SettingsProgram ListingView
  | 0, _ => settled (.error ⟨operation, .internal⟩)
  | attempts + 1, record => do
    let outcome ← save operation record (loaded.listing.map PrivateRoomListingRecord.version) owner
    match outcome with
    | .saved => return view (some record) loaded.encrypted loaded.hold
    | .shareCodeTaken =>
      if loaded.listing.isNone then do
        let code ← newShareCode operation
        saveListed loaded owner attempts { record with shareCode := code }
      else settled (.error ⟨operation, .internal⟩)
    | .ownerLimitReached | .stale => settled (.error ⟨operation, .internal⟩)

def list (request : UpdateListing) (loaded : LoadedRoom) : SettingsProgram ListingView := do
  ensureListable operation request (!loaded.listing.any fun listing => listing.settings.listed)
  let firstListedAt ← firstListing operation loaded.listing request.now
  let shareCode ← shareCodeOf operation loaded.listing
  let version ← settled (nextVersion operation loaded.listing)
  saveListed operation loaded request.actor.principalId shareCodeAttempts
    { catalogId := request.catalogId
      settings := request.settings
      shareCode
      firstListedAt
      updatedBy := request.actor.principalId
      updatedAt := later request.now firstListedAt
      version }

-- Encryption cannot be switched off again.
def encryptRoom (encrypted : Bool) : SettingsProgram Unit :=
  if encrypted then return ()
  else do
    consult .enableEncryption (Except.mapError (matrix operation))
    consult .markRoomEncrypted (Except.mapError (repository operation))

def unlist (request : UpdateListing) (loaded : LoadedRoom) : SettingsProgram ListingView := match loaded.listing with
  | none => return view none loaded.encrypted loaded.hold
  | some previous => do
    encryptRoom operation loaded.encrypted
    let version ← settled (nextVersion operation (some previous))
    let record := { previous with
      settings := request.settings
      updatedBy := request.actor.principalId
      updatedAt := later request.now previous.firstListedAt
      version }
    let outcome ← save operation record (some previous.version) request.actor.principalId
    match outcome with
    | .saved => do
      consult (.voidPendingJoinRequests record.updatedAt) fun _ => .ok ()
      return view (some record) true loaded.hold
    | .shareCodeTaken | .ownerLimitReached | .stale => settled (.error ⟨operation, .internal⟩)

def saveReplaced (loaded : LoadedRoom) (owner : PrincipalId) (previous : PrivateRoomListingRecord) :
    Nat → PrivateRoomListingRecord → SettingsProgram ListingView
  | 0, _ => settled (.error ⟨operation, .internal⟩)
  | attempts + 1, record => do
    let outcome ← save operation record (some previous.version) owner
    match outcome with
    | .saved => return view (some record) loaded.encrypted loaded.hold
    | .shareCodeTaken => do
      let code ← replacementShareCode operation previous.shareCode shareCodeAttempts
      saveReplaced loaded owner previous attempts { record with shareCode := code }
    | .ownerLimitReached | .stale => settled (.error ⟨operation, .internal⟩)

end

def update (request : UpdateListing) : SettingsProgram ListingView := do
  let loaded ← joinedRoom "private_room.listing.update" request.actor request.checkedAt
  settled ((loaded.snapshot.room.authorizeListingChange request.actor.principalId).mapError (domain "private_room.listing.update"))
  if request.settings.listed then list "private_room.listing.update" request loaded
  else unlist "private_room.listing.update" request loaded

def changeShareCode (request : ChangeShareCode) : SettingsProgram ListingView := do
  let loaded ← joinedRoom "private_room.listing.share_code" request.actor request.checkedAt
  settled ((loaded.snapshot.room.authorizeListingChange request.actor.principalId).mapError (domain "private_room.listing.share_code"))
  match loaded.listing with
  | none => settled (.error ⟨"private_room.listing.share_code", .neverListed⟩)
  | some previous => do
    let shareCode ← replacementShareCode "private_room.listing.share_code" previous.shareCode shareCodeAttempts
    let version ← settled (nextVersion "private_room.listing.share_code" (some previous))
    saveReplaced "private_room.listing.share_code" loaded request.actor.principalId previous shareCodeAttempts
      { previous with
        shareCode
        updatedBy := request.actor.principalId
        updatedAt := later request.now previous.firstListedAt
        version }

structure PrivateRoomInvitation where
  principalId : PrincipalId
  permissions : PrivateRoomPermissions

structure CreatePrivateRoom where
  actor : PrivateRoomActor
  catalogId : RoomCatalogId
  name : String
  description : String
  retentionDays : Option Nat
  invitations : List PrivateRoomInvitation
  createdByAgent : Option AgentId
  listing : RoomListingSettings
  checkedAt : UtcMillis
  now : UtcMillis

abbrev CreationProgram (α : Type) := ExceptT PrivateRoomFailure (Program ListingCall ListingReply) α

section

open PrivateRooms (failure)

def creation : String := "private_room.create"

section

variable (request : CreatePrivateRoom)

def ensureCreator : CreationProgram Unit :=
  match request.actor.isAgent, request.createdByAgent, request.invitations with
  | false, none, _ => return ()
  | true, some agent, [] => do
    let owned ← consult (.ownsActiveAgent request.actor.principalId agent) (Except.mapError (PrivateRooms.repository creation .directory))
    settled (ensure (failure creation .validation .forbidden) (owned = true))
  | _, _, _ => settled (.error (failure creation .validation .invalidRequest))

def ensurePublicCreator : Except PrivateRoomFailure Unit :=
  ensure ⟨creation, .validation, .invalidRequest, some "listing"⟩
    (request.listing.listed = true ∧ request.actor.isAgent = false ∧ request.createdByAgent = none)

def ensureSameCreation (existing : PrivateRoomSnapshot) : Except PrivateRoomFailure Unit :=
  ensure (failure creation .validation .conflict)
    (existing.room.ownerPrincipalId = request.actor.principalId ∧ existing.room.createdByAgent = request.createdByAgent ∧
      existing.name = request.name ∧ existing.description = request.description ∧ existing.retentionDays = request.retentionDays)

def ensureSameRoom (existing : PrivateRoomSnapshot) : CreationProgram PrivateRoomSnapshot := do
  settled (ensureSameCreation request existing)
  let listing ← consult .listing (Except.mapError (PrivateRooms.repository creation .persistence))
  settled (ensure (failure creation .persistence .conflict) (listing.isSome = true))
  return existing

def ensureCreatedByRetry : CreationProgram PrivateRoomSnapshot := do
  let found ← consult .findByCatalog (Except.mapError (PrivateRooms.repository creation .persistence))
  let existing ← settled (found.elim (.error (failure creation .persistence .conflict)) .ok)
  ensureSameRoom request existing

def ensurePublicRoomQuota : CreationProgram Unit := do
  let listed ← consult (.listedRoomsOwnedBy request.actor.principalId) (Except.mapError (PrivateRooms.repository creation .directory))
  settled (ensure (failure creation .validation .publicRoomLimitReached) (listed = []))

end

def prepareInvitations (owner : PrincipalId) :
    List PrivateRoomInvitation → List PrincipalId → List (RoomUser × Bool) → PrivateRoom →
      CreationProgram (PrivateRoom × List (RoomUser × Bool))
  | [], _, assignments, room => return (room, assignments)
  | invitation :: rest, invited, assignments, room => do
    settled (ensure ⟨creation, .validation, .invalidRequest, some "invitations.owner"⟩ (invitation.principalId ≠ owner))
    settled (ensure ⟨creation, .validation, .invalidRequest, some "invitations.duplicate"⟩ (invitation.principalId ∉ invited))
    let (_, next) ← settled (attempt creation room (.invite owner invitation.principalId invitation.permissions))
    let found ← consult (.matrixUserId invitation.principalId) (Except.mapError (PrivateRooms.repository creation .directory))
    let user ← settled (found.elim (.error (failure creation .directory .notFound)) .ok)
    settled (ensure (failure creation .directory .conflict) (user ∉ assignments.map Prod.fst))
    prepareInvitations owner rest (invitation.principalId :: invited) (assignments ++ [(user, invitation.permissions.allows .speak)]) next

def ownAssignments (actor : PrivateRoomActor) : List (RoomUser × Bool) := match actor with
  | .person actor => [(actor.matrixUser, true)]
  | .device _ _ | .networkAgent _ _ => []

def publicShareCode : CreationProgram RoomShareCode :=
  consult .newShareCode fun answer => answer.elim (.error (failure creation .validation .dependencyUnavailable)) .ok

def saveCreated (request : CreatePrivateRoom) (snapshot : PrivateRoomSnapshot) :
    Nat → PrivateRoomListingRecord → CreationProgram PrivateRoomSnapshot
  | 0, _ => settled (.error (failure creation .persistence .internal))
  | attempts + 1, record => do
    let outcome ← consult (.createListedRoom snapshot record) (Except.mapError (PrivateRooms.repository creation .persistence))
    match outcome with
    | .saved => return snapshot
    | .shareCodeTaken => do
      let code ← publicShareCode
      saveCreated request snapshot attempts { record with shareCode := code }
    | .ownerLimitReached => settled (.error (failure creation .validation .publicRoomLimitReached))
    | .stale => ensureCreatedByRetry request

def savePublicRoom (request : CreatePrivateRoom) (snapshot : PrivateRoomSnapshot) : CreationProgram PrivateRoomSnapshot := do
  consult (.markListed request.now) (Except.mapError (PrivateRooms.matrix creation))
  let shareCode ← publicShareCode
  let version ← settled (AggregateVersion.initial.next.mapError (PrivateRooms.domain creation))
  saveCreated request snapshot shareCodeAttempts
    { catalogId := request.catalogId
      settings := request.listing
      shareCode
      firstListedAt := request.now
      updatedBy := request.actor.principalId
      updatedAt := request.now
      version }

def createNew (request : CreatePrivateRoom) : CreationProgram PrivateRoomSnapshot := do
  ensurePublicRoomQuota request
  let owner := request.actor.principalId
  let (room, assignments) ← prepareInvitations owner request.invitations [] (ownAssignments request.actor) (PrivateRoom.create request.catalogId owner)
  consult .createMatrixRoom (Except.mapError (PrivateRooms.matrix creation))
  consult (.setSpeakingBatch assignments) (Except.mapError (PrivateRooms.matrix creation))
  savePublicRoom request ⟨room, request.name, request.description, request.retentionDays⟩

def create (request : CreatePrivateRoom) : CreationProgram PrivateRoomSnapshot := do
  settled (ensure (failure creation .validation .forbidden) (request.checkedAt < request.actor.expiresAt))
  ensureCreator request
  settled (ensurePublicCreator request)
  let found ← consult .findByCatalog (Except.mapError (PrivateRooms.repository creation .persistence))
  match found with
  | some existing => ensureSameRoom request existing
  | none => createNew request

end

inductive SettingsRequest where
  | update (request : UpdateListing)
  | changeShareCode (request : ChangeShareCode)
  | create (request : CreatePrivateRoom)

inductive SettingsAnswer where
  | viewed (result : Except ListingFailure ListingView)
  | created (result : Except PrivateRoomFailure PrivateRoomSnapshot)

def SettingsRequest.serve : SettingsRequest → Program ListingCall ListingReply SettingsAnswer
  | .update request => (Listing.update request).run.bind fun result => .done (.viewed result)
  | .changeShareCode request => (Listing.changeShareCode request).run.bind fun result => .done (.viewed result)
  | .create request => (Listing.create request).run.bind fun result => .done (.created result)

end Listing

end AgentRoom
