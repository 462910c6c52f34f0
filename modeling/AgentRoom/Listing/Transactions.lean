import AgentRoom.Library.Transactions
import AgentRoom.PrivateRoom.Service
import AgentRoom.RoomAccess.Codes

namespace AgentRoom.Listing

inductive RoomJoinMode where
  | open
  | request
  | inviteOnly

structure RoomListingSettings where
  listed : Bool
  joinMode : RoomJoinMode
  memberPermissions : PrivateRoomPermissions
  allowNetworkAgents : Bool
  viewable : memberPermissions.allows .view = true
  unmanaged : memberPermissions.allows .manage = false

namespace RoomListingSettings

def unlisted : RoomListingSettings := ⟨false, .open, .invitedByAgent, true, by decide, by decide⟩

end RoomListingSettings

open RoomAccess (RoomShareCode)

-- A room has one from the first time it is listed on.
structure PrivateRoomListingRecord where
  catalogId : RoomCatalogId
  settings : RoomListingSettings
  shareCode : RoomShareCode
  firstListedAt : UtcMillis
  updatedBy : PrincipalId
  updatedAt : UtcMillis
  version : AggregateVersion

open Library
open PrivateRooms (PrivateRoomListingSaveOutcome)

inductive ListingKey where
  | principal (id : PrincipalId)
  | catalog (id : RoomCatalogId)
  | state (id : RoomCatalogId)
  | listing (id : RoomCatalogId)
deriving DecidableEq

structure CatalogRow where
  ownerPrincipalId : Option PrincipalId
  status : PrivateRoomLifecycleStatus

abbrev ListingRow : ListingKey → Type
  | .principal _ => Unit
  | .catalog _ => CatalogRow
  | .state _ => AggregateVersion
  | .listing _ => PrivateRoomListingRecord

abbrev ListingRows := AList ListingRow

inductive ListingWork where
  | saveListing (catalogId : RoomCatalogId) (owner : PrincipalId)
  | createListedRoom (catalogId : RoomCatalogId) (owner : PrincipalId)
  | saveTransferredRoom (catalogId : RoomCatalogId) (owner : PrincipalId)
  | archive

inductive DatabaseFailure where
  | shareCodeIndex
  | other (kind : RepositoryErrorKind)

def mapSqlxError : DatabaseFailure → RepositoryErrorKind
  | .shareCodeIndex => .conflict
  | .other kind => kind

abbrev ListingStatement := Statement ListingKey ListingRow ListingWork

abbrev ListingProgram (α : Type) := ExceptT RepositoryErrorKind (Program ListingStatement (Reply DatabaseFailure)) α

section

variable (rows : ListingRows) (catalogId : RoomCatalogId) (owner : PrincipalId)

def isListed : Bool := (rows.lookup (.listing catalogId)).any fun record => record.settings.listed

def isActiveOf : Bool :=
  (rows.lookup (.catalog catalogId)).any fun row => decide (row.ownerPrincipalId = some owner ∧ row.status = .active)

def listedRoomsOfOwner : List RoomCatalogId := rows.entries.filterMap fun entry => match entry with
  | ⟨.listing catalogId, record⟩ => if record.settings.listed && isActiveOf rows catalogId owner then some catalogId else none
  | _ => none

end

section

variable (tx : Nat) (catalogId : RoomCatalogId) (owner : PrincipalId)

def begin' (work : ListingWork) : ListingProgram Nat := consult (.begin work) (Except.mapError mapSqlxError)

def lockRow (key : ListingKey) (mode : LockMode) : ListingProgram (Option (ListingRow key)) :=
  consult (.lock tx key mode) (Except.mapError mapSqlxError)

def selectRows : ListingProgram ListingRows := consult (.select tx) (Except.mapError mapSqlxError)

def writeRow (key : ListingKey) (change : Option (ListingRow key) → Option (ListingRow key)) : ListingProgram Bool :=
  consult (.write tx key change) (Except.mapError mapSqlxError)

def commit : ListingProgram Unit := consult (.commit tx) (Except.mapError mapSqlxError)

def letGo {α : Type} (value : α) : ListingProgram α := do
  consult (.rollback tx) (Except.mapError mapSqlxError)
  return value

def ownerListsAnother : ListingProgram Bool := do
  let _ ← lockRow tx (.principal owner) .update
  let rows ← selectRows tx
  return (listedRoomsOfOwner rows owner).any fun room => decide (room ≠ catalogId)

def stillOwnedBy : ListingProgram Bool := do
  let current ← lockRow tx (.catalog catalogId) .share
  return decide (current.bind CatalogRow.ownerPrincipalId = some owner)

def lockRoomAndReadListed : ListingProgram Bool := do
  let _ ← lockRow tx (.catalog catalogId) .noKeyUpdate
  let rows ← selectRows tx
  return isListed rows catalogId

-- A key that is taken already, or a version that does not match, changes nothing.
def insertOnly {α : Type} (row : α) : Option α → Option α
  | none => some row
  | some _ => none

def updateIf {α : Type} (fits : α → Bool) (change : α → α) : Option α → Option α
  | none => none
  | some row => if fits row then some (change row) else none

def uniqueOutcome : Except DatabaseFailure Bool → Except RepositoryErrorKind PrivateRoomListingSaveOutcome
  | .ok true => .ok .saved
  | .ok false => .ok .stale
  | .error .shareCodeIndex => .ok .shareCodeTaken
  | .error (.other kind) => .error kind

def insertListing (record : PrivateRoomListingRecord) : ListingProgram PrivateRoomListingSaveOutcome :=
  consult (.write tx (.listing record.catalogId) (insertOnly record)) uniqueOutcome

def updateListing (record : PrivateRoomListingRecord) (expected : AggregateVersion) : ListingProgram PrivateRoomListingSaveOutcome :=
  consult (.write tx (.listing record.catalogId) (updateIf (fun row => decide (row.version = expected))
    fun row => { record with firstListedAt := row.firstListedAt })) uniqueOutcome

def writeListing (record : PrivateRoomListingRecord) : Option AggregateVersion → ListingProgram PrivateRoomListingSaveOutcome
  | none => insertListing tx record
  | some expected => updateListing tx record expected

def commitSaved (outcome : PrivateRoomListingSaveOutcome) : ListingProgram PrivateRoomListingSaveOutcome :=
  if outcome = .saved then do
    commit tx
    return outcome
  else letGo tx outcome

end

def listingRefused (tx : Nat) (record : PrivateRoomListingRecord) (owner : PrincipalId) :
    ListingProgram (Option PrivateRoomListingSaveOutcome) :=
  if record.settings.listed then do
    let owned ← stillOwnedBy tx record.catalogId owner
    if owned then do
      let another ← ownerListsAnother tx record.catalogId owner
      return if another then some .ownerLimitReached else none
    else return some .stale
  else return none

def saveListing (record : PrivateRoomListingRecord) (expected : Option AggregateVersion) (owner : PrincipalId) :
    ListingProgram PrivateRoomListingSaveOutcome := do
  let tx ← begin' (.saveListing record.catalogId owner)
  let refused ← listingRefused tx record owner
  match refused with
  | some outcome => letGo tx outcome
  | none => do
    let outcome ← writeListing tx record expected
    commitSaved tx outcome

-- A new room as it is stored: its catalog entry and the state of its members.
def createPrivateRoom (tx : Nat) (room : PrivateRoom) : ListingProgram Bool := do
  let entered ← writeRow tx (.catalog room.catalogId) (insertOnly ⟨some room.ownerPrincipalId, room.status⟩)
  if entered then writeRow tx (.state room.catalogId) (insertOnly room.version) else return false

def createListedRoom (room : PrivateRoom) (listing : PrivateRoomListingRecord) : ListingProgram PrivateRoomListingSaveOutcome := do
  settled (ensure .constraint (room.status = .active))
  settled (ensure .constraint (listing.catalogId = room.catalogId ∧ listing.settings.listed = true))
  let tx ← begin' (.createListedRoom room.catalogId room.ownerPrincipalId)
  let another ← ownerListsAnother tx listing.catalogId room.ownerPrincipalId
  if another then letGo tx .ownerLimitReached
  else do
    let created ← attempted (createPrivateRoom tx room)
    match created with
    | .ok true => do
      let outcome ← insertListing tx listing
      commitSaved tx outcome
    | .ok false | .error .conflict => letGo tx .stale
    | .error kind => settled (.error kind)

-- The version has to be the one the room was read at.
def savePrivateRoom (tx : Nat) (room : PrivateRoom) (expected : AggregateVersion) : ListingProgram Unit := do
  let versioned ← writeRow tx (.state room.catalogId) (updateIf (fun version => decide (version = expected)) fun _ => room.version)
  settled (ensure .conflict (versioned = true))
  let entered ← writeRow tx (.catalog room.catalogId) (updateIf (fun _ => true) fun _ => ⟨some room.ownerPrincipalId, room.status⟩)
  settled (ensure .corruptData (entered = true))

def followsVersion (room : PrivateRoom) (expected : AggregateVersion) : Except RepositoryErrorKind Unit :=
  match expected.next with
  | .ok next => ensure .constraint (next = room.version)
  | .error _ => .error .constraint

def transferRefused (tx : Nat) (room : PrivateRoom) : ListingProgram Bool := do
  let listed ← lockRoomAndReadListed tx room.catalogId
  if listed then ownerListsAnother tx room.catalogId room.ownerPrincipalId else return false

def saveTransferredRoom (room : PrivateRoom) (expected : AggregateVersion) : ListingProgram PrivateRoomListingSaveOutcome := do
  settled (followsVersion room expected)
  let tx ← begin' (.saveTransferredRoom room.catalogId room.ownerPrincipalId)
  let refused ← transferRefused tx room
  if refused then letGo tx .ownerLimitReached
  else do
    savePrivateRoom tx room expected
    commit tx
    return .saved

def archive (room : PrivateRoom) (expected : AggregateVersion) : ListingProgram PrivateRoomListingSaveOutcome := do
  settled (followsVersion room expected)
  let tx ← begin' .archive
  savePrivateRoom tx { room with status := .archived } expected
  commit tx
  return .saved

def archiveEach (tx : Nat) (owner : PrincipalId) : List RoomCatalogId → ListingProgram Unit
  | [] => return ()
  | catalogId :: rest => do
    let _ ← writeRow tx (.catalog catalogId)
      (updateIf (fun row => decide (row.ownerPrincipalId = some owner)) fun row => { row with status := .archived })
    archiveEach tx owner rest

def roomsOfOwner (rows : ListingRows) (owner : PrincipalId) : List RoomCatalogId := rows.entries.filterMap fun entry => match entry with
  | ⟨.catalog catalogId, row⟩ => if row.ownerPrincipalId = some owner then some catalogId else none
  | _ => none

def archivePrivateRooms (owner : PrincipalId) : ListingProgram PrivateRoomListingSaveOutcome := do
  let tx ← begin' .archive
  let rows ← selectRows tx
  archiveEach tx owner (roomsOfOwner rows owner)
  commit tx
  return .saved

def known (key : ListingKey) : ListingProgram Unit := do
  let rows ← consult .load (Except.mapError mapSqlxError)
  settled (ensure .notFound (key ∈ rows))

inductive ListingRequest where
  | saveListing (record : PrivateRoomListingRecord) (expected : Option AggregateVersion) (owner : PrincipalId)
  | createListedRoom (room : PrivateRoom) (listing : PrivateRoomListingRecord)
  | saveTransferredRoom (room : PrivateRoom) (expected : AggregateVersion)
  | archive (room : PrivateRoom) (expected : AggregateVersion)
  | deleteAccount (owner : PrincipalId)

def ListingRequest.serve : ListingRequest → ListingProgram PrivateRoomListingSaveOutcome
  | .saveListing record expected owner => do
    known (.principal owner)
    Listing.saveListing record expected owner
  | .createListedRoom room listing => do
    known (.principal room.ownerPrincipalId)
    Listing.createListedRoom room listing
  -- The new owner is a member of the room that was read.
  | .saveTransferredRoom room expected => do
    known (.catalog room.catalogId)
    known (.principal room.ownerPrincipalId)
    Listing.saveTransferredRoom room expected
  | .archive room expected => Listing.archive room expected
  | .deleteAccount owner => archivePrivateRooms owner

abbrev ListingDatabase := Database ListingKey ListingRow ListingWork

abbrev listingTransactions : Environment ListingDatabase ListingStatement (Reply DatabaseFailure) :=
  transactions ListingKey ListingRow ListingWork DatabaseFailure

end AgentRoom.Listing
