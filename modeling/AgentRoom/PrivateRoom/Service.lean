import AgentRoom.Domain.Failures
import AgentRoom.Library.Calls
import AgentRoom.PrivateRoom.Steps

namespace AgentRoom.PrivateRooms

open Library

inductive PrivateRoomFailureStage where
  | validation
  | directory
  | matrix
  | persistence

inductive PrivateRoomFailureKind where
  | invalidRequest
  | forbidden
  | notFound
  | conflict
  | dependencyUnavailable
  | unknownCommit
  | publicRoomLimitReached
  | internal

structure PrivateRoomFailure where
  operation : String
  stage : PrivateRoomFailureStage
  kind : PrivateRoomFailureKind
  rejected : Option String

def failure (operation : String) (stage : PrivateRoomFailureStage) (kind : PrivateRoomFailureKind) : PrivateRoomFailure :=
  ⟨operation, stage, kind, none⟩

def domain (operation : String) : DomainError → PrivateRoomFailure
  | .forbidden _ => failure operation .validation .forbidden
  | .validation field _ => ⟨operation, .validation, .invalidRequest, some field⟩
  | .invalidTransition _ _ _ => failure operation .validation .conflict
  | .invariantViolation _ _ | .capacityExceeded _ | .timeOverflow | .versionOverflow => failure operation .validation .internal

def repository (operation : String) (stage : PrivateRoomFailureStage) : RepositoryErrorKind → PrivateRoomFailure
  | .conflict => failure operation stage .conflict
  | .constraint => failure operation stage .invalidRequest
  | .forbidden => failure operation stage .forbidden
  | .notFound => failure operation stage .notFound
  | .unavailable => failure operation stage .dependencyUnavailable
  | .corruptData => failure operation stage .internal

def matrix (operation : String) : MatrixFailureKind → PrivateRoomFailure
  | .conflict => failure operation .matrix .conflict
  | .rateLimited | .timeout | .dependencyUnavailable => failure operation .matrix .dependencyUnavailable
  | .unknownCommit => failure operation .matrix .unknownCommit
  | _ => failure operation .matrix .internal

-- A Matrix user, by whom it stands for: the accounts keep their user ids apart.
inductive RoomUser where
  | person (principal : PrincipalId)
  | agent (agent : AgentId)
deriving DecidableEq

inductive PrivateMatrixMembership where
  | invited
  | joined
  | left
  | banned
  | knocked
deriving DecidableEq

inductive PrivateRoomListingSaveOutcome where
  | saved
  | ownerLimitReached
  | shareCodeTaken
  | stale
deriving DecidableEq

-- What the service asks of its ports about one room.
inductive RoomCall where
  | findByCatalog
  | matrixUserId (principal : PrincipalId)
  | agentMatrixUsers (principal : PrincipalId)
  | membership (user : RoomUser)
  | invite (user : RoomUser)
  | kick (user : RoomUser)
  | ban (user : RoomUser)
  | unban (user : RoomUser)
  | setSpeaking (user : RoomUser) (allowed : Bool)
  | archive
  | save (room : PrivateRoom) (expected : AggregateVersion)
  | saveTransferredRoom (room : PrivateRoom) (expected : AggregateVersion)
  | listed
  | listedRoomsOwnedBy (principal : PrincipalId)

def RoomAnswer : RoomCall → Type
  | .findByCatalog => Except RepositoryErrorKind (Option PrivateRoom)
  | .matrixUserId _ => Except RepositoryErrorKind (Option RoomUser)
  | .agentMatrixUsers _ => Except RepositoryErrorKind (List RoomUser)
  | .membership _ => Except MatrixFailureKind (Option PrivateMatrixMembership)
  | .invite _ | .kick _ | .ban _ | .unban _ | .setSpeaking _ _ | .archive => Except MatrixFailureKind Unit
  | .save _ _ => Except RepositoryErrorKind Unit
  | .saveTransferredRoom _ _ => Except RepositoryErrorKind PrivateRoomListingSaveOutcome
  | .listed => Except RepositoryErrorKind Bool
  | .listedRoomsOwnedBy _ => Except RepositoryErrorKind (List RoomCatalogId)

abbrev RoomProgram (α : Type) := ExceptT PrivateRoomFailure (Program RoomCall RoomAnswer) α

structure AuthenticatedPrincipal where
  principalId : PrincipalId
  expiresAt : UtcMillis

def AuthenticatedPrincipal.matrixUser (actor : AuthenticatedPrincipal) : RoomUser := .person actor.principalId

inductive PrivateRoomActor where
  | person (actor : AuthenticatedPrincipal)
  | device (principal : PrincipalId) (expiresAt : UtcMillis)
  | networkAgent (principal : PrincipalId) (expiresAt : UtcMillis)

namespace PrivateRoomActor

def principalId : PrivateRoomActor → PrincipalId
  | .person actor => actor.principalId
  | .device principal _ | .networkAgent principal _ => principal

def expiresAt : PrivateRoomActor → UtcMillis
  | .person actor => actor.expiresAt
  | .device _ expiresAt | .networkAgent _ expiresAt => expiresAt

def isAgent : PrivateRoomActor → Bool
  | .person _ => false
  | .device _ _ | .networkAgent _ _ => true

end PrivateRoomActor

structure InvitePrivateRoomMember where
  actor : PrivateRoomActor
  targetPrincipalId : PrincipalId
  permissions : PrivateRoomPermissions
  now : UtcMillis

structure InviteByLink where
  linkCreator : PrincipalId
  targetPrincipalId : PrincipalId
  permissions : PrivateRoomPermissions

structure PrivateRoomMembershipAction where
  actor : AuthenticatedPrincipal
  now : UtcMillis

structure GovernPrivateRoomMember where
  actor : AuthenticatedPrincipal
  targetPrincipalId : PrincipalId
  now : UtcMillis

structure ChangePrivateRoomPermissions where
  actor : AuthenticatedPrincipal
  targetPrincipalId : PrincipalId
  permissions : PrivateRoomPermissions
  now : UtcMillis

structure TransferPrivateRoomOwnership where
  actor : AuthenticatedPrincipal
  targetPrincipalId : PrincipalId
  formerOwnerPermissions : PrivateRoomPermissions
  now : UtcMillis

structure ArchivePrivateRoom where
  actor : PrivateRoomActor
  now : UtcMillis

end AgentRoom.PrivateRooms

namespace AgentRoom

open Library

namespace PrivateRoom

def authorizeInviteLink (room : PrivateRoom) (actor : PrincipalId) : DomainResult Unit := do
  room.ensureActive "invite_link_changed"
  if ¬ room.members[actor]?.any PrivateRoomMember.hasJoined then throw (.forbidden "管理私人房间邀请链接")
  room.require actor .invite "管理私人房间邀请链接"

end PrivateRoom

namespace PrivateRooms

-- A method of the room on a copy of it: whether it changed anything, and the copy.
def attempt (operation : String) (room : PrivateRoom) (op : RoomOp) : Except PrivateRoomFailure (Bool × PrivateRoom) :=
  match op.perform.run room with
  | .ok changed next => .ok (changed, next)
  | .error error _ => .error (domain operation error)

def onlyIf (condition : Bool) (program : RoomProgram Unit) : RoomProgram Unit := if condition then program else pure ()

section

variable (operation : String)

def load : RoomProgram PrivateRoom := do
  let found ← consult .findByCatalog fun answer => answer.mapError (repository operation .persistence)
  settled (found.elim (.error (failure operation .persistence .notFound)) .ok)

def principalMatrixUser (principal : PrincipalId) : RoomProgram RoomUser := do
  let found ← consult (.matrixUserId principal) fun answer => answer.mapError (repository operation .directory)
  settled (found.elim (.error (failure operation .directory .notFound)) .ok)

variable (user : RoomUser)

def matrixMembership : RoomProgram (Option PrivateMatrixMembership) :=
  consult (.membership user) fun answer => answer.mapError (matrix operation)

def matrixInvite : RoomProgram Unit := consult (.invite user) fun answer => answer.mapError (matrix operation)

def matrixKick : RoomProgram Unit := consult (.kick user) fun answer => answer.mapError (matrix operation)

def matrixBan : RoomProgram Unit := consult (.ban user) fun answer => answer.mapError (matrix operation)

def matrixUnban : RoomProgram Unit := consult (.unban user) fun answer => answer.mapError (matrix operation)

def setSpeaking (allowed : Bool) : RoomProgram Unit :=
  consult (.setSpeaking user allowed) fun answer => answer.mapError (matrix operation)

def saveIfChanged (room : PrivateRoom) (expected : AggregateVersion) (changed : Bool) : RoomProgram Unit :=
  onlyIf changed (consult (.save room expected) fun answer => answer.mapError (repository operation .persistence))

def ensureActiveActor (expiresAt now : UtcMillis) : RoomProgram Unit :=
  settled (if now < expiresAt then .ok () else .error (failure operation .validation .forbidden))

inductive MatrixMembershipRequirement where
  | joined
  | absentOrLeft

def MatrixMembershipRequirement.isMet (requirement : MatrixMembershipRequirement) (membership : Option PrivateMatrixMembership) : Bool :=
  match requirement with
  | .joined => decide (membership = some .joined)
  | .absentOrLeft => decide (membership = none ∨ membership = some .left)

def requireMatrixMembership (requirement : MatrixMembershipRequirement) : RoomProgram Unit := do
  let membership ← matrixMembership operation user
  settled (if requirement.isMet membership then .ok () else .error (failure operation .matrix .conflict))

inductive MemberAgentChange where
  | speak (allowed : Bool)
  | evict

def isInRoom (membership : Option PrivateMatrixMembership) : Bool := decide (membership = some .joined ∨ membership = some .invited)

def governAgent (change : MemberAgentChange) (agent : RoomUser) : RoomProgram Unit :=
  match change with
  | .speak allowed => setSpeaking operation agent allowed
  | .evict => matrixKick operation agent

def governAgents (change : MemberAgentChange) : List RoomUser → RoomProgram Unit
  | [] => pure ()
  | agent :: rest => do
    let membership ← matrixMembership operation agent
    onlyIf (isInRoom membership) (governAgent operation change agent)
    governAgents change rest

def governMemberAgents (principal : PrincipalId) (change : MemberAgentChange) : RoomProgram Unit := do
  let agents ← consult (.agentMatrixUsers principal) fun answer => answer.mapError (repository operation .directory)
  governAgents operation change agents

end

def invited (room : PrivateRoom) (changed : Bool) (target : PrincipalId) : Option PrivateRoomMember :=
  room.members[target]?.filter fun member => !member.hasJoined || changed

variable (operation : String)

def deliverInvitation (snapshot room : PrivateRoom) (expected : AggregateVersion) (changed : Bool)
    (target : PrincipalId) : RoomProgram PrivateRoom :=
  match invited room changed target with
  | none => pure snapshot
  | some member => do
    let user ← principalMatrixUser operation target
    matrixInvite operation user
    setSpeaking operation user (member.permissions.allows .speak)
    saveIfChanged operation room expected changed
    return room

def invitation (snapshot : PrivateRoom) (request : InvitePrivateRoomMember) : Except PrivateRoomFailure (Bool × PrivateRoom) :=
  if request.actor.isAgent then
    if request.permissions = .invitedByAgent then
      attempt operation snapshot (.inviteByAgent request.actor.principalId request.targetPrincipalId)
    else .error (failure operation .validation .invalidRequest)
  else attempt operation snapshot (.invite request.actor.principalId request.targetPrincipalId request.permissions)

def inviteMember (request : InvitePrivateRoomMember) : RoomProgram PrivateRoom := do
  ensureActiveActor "private_room.invite" request.actor.expiresAt request.now
  let snapshot ← load "private_room.invite"
  let (changed, room) ← settled (invitation "private_room.invite" snapshot request)
  deliverInvitation "private_room.invite" snapshot room snapshot.version changed request.targetPrincipalId

def inviteByLink (request : InviteByLink) : RoomProgram PrivateRoom := do
  let snapshot ← load "private_room.invite_by_link"
  settled ((snapshot.authorizeInviteLink request.linkCreator).mapError (domain "private_room.invite_by_link"))
  let (changed, room) ← settled (attempt "private_room.invite_by_link" snapshot
    (.invite request.linkCreator request.targetPrincipalId request.permissions))
  deliverInvitation "private_room.invite_by_link" snapshot room snapshot.version changed request.targetPrincipalId

-- What accept, decline and leave share: the room's own method, and where the member
-- must be on Matrix by then.
def answerInvitation (op : PrincipalId → RoomOp) (requirement : MatrixMembershipRequirement)
    (request : PrivateRoomMembershipAction) : RoomProgram PrivateRoom := do
  ensureActiveActor operation request.actor.expiresAt request.now
  let snapshot ← load operation
  let (changed, room) ← settled (attempt operation snapshot (op request.actor.principalId))
  requireMatrixMembership operation request.actor.matrixUser requirement
  saveIfChanged operation room snapshot.version changed
  return room

def accept (request : PrivateRoomMembershipAction) : RoomProgram PrivateRoom :=
  answerInvitation "private_room.accept" RoomOp.accept .joined request

def decline (request : PrivateRoomMembershipAction) : RoomProgram PrivateRoom :=
  answerInvitation "private_room.decline" RoomOp.decline .absentOrLeft request

def leave (request : PrivateRoomMembershipAction) : RoomProgram PrivateRoom := do
  ensureActiveActor "private_room.leave" request.actor.expiresAt request.now
  let snapshot ← load "private_room.leave"
  let (changed, room) ← settled (attempt "private_room.leave" snapshot (.leave request.actor.principalId))
  requireMatrixMembership "private_room.leave" request.actor.matrixUser .absentOrLeft
  governMemberAgents "private_room.leave" request.actor.principalId .evict
  saveIfChanged "private_room.leave" room snapshot.version changed
  return room

def excludeAs (op : RoomOp) (exclude : RoomUser → RoomProgram Unit) (target : PrincipalId) : RoomProgram PrivateRoom := do
  let snapshot ← load operation
  let (changed, room) ← settled (attempt operation snapshot op)
  let user ← principalMatrixUser operation target
  exclude user
  governMemberAgents operation target .evict
  saveIfChanged operation room snapshot.version changed
  return room

def removeAs (actor target : PrincipalId) : RoomProgram PrivateRoom :=
  excludeAs operation (.remove actor target) (matrixKick operation) target

def banAs (actor target : PrincipalId) : RoomProgram PrivateRoom :=
  excludeAs operation (.ban actor target) (matrixBan operation) target

def unbanAs (actor target : PrincipalId) : RoomProgram PrivateRoom := do
  let snapshot ← load operation
  let (changed, room) ← settled (attempt operation snapshot (.unban actor target))
  onlyIf changed do
    let user ← principalMatrixUser operation target
    matrixUnban operation user
    saveIfChanged operation room snapshot.version changed
  return room

def govern (act : String → PrincipalId → PrincipalId → RoomProgram PrivateRoom) (request : GovernPrivateRoomMember) :
    RoomProgram PrivateRoom := do
  ensureActiveActor operation request.actor.expiresAt request.now
  act operation request.actor.principalId request.targetPrincipalId

def remove (request : GovernPrivateRoomMember) : RoomProgram PrivateRoom := govern "private_room.remove" removeAs request

def ban (request : GovernPrivateRoomMember) : RoomProgram PrivateRoom := govern "private_room.ban" banAs request

def unban (request : GovernPrivateRoomMember) : RoomProgram PrivateRoom := govern "private_room.unban" unbanAs request

def setMemberSpeaking (target : PrincipalId) (user : RoomUser) (allowed : Bool) : RoomProgram Unit := do
  setSpeaking operation user allowed
  governMemberAgents operation target (.speak allowed)

-- Taking the right away is done on Matrix first, giving it is recorded first.
def carryPermissions (room : PrivateRoom) (expected : AggregateVersion) (changed : Bool) (target : PrincipalId)
    (user : RoomUser) (previous desired : Bool) : RoomProgram Unit :=
  match previous, desired with
  | true, false => do
    setMemberSpeaking operation target user false
    saveIfChanged operation room expected changed
  | false, true => do
    saveIfChanged operation room expected changed
    setMemberSpeaking operation target user true
  | _, desired => do
    saveIfChanged operation room expected changed
    onlyIf (!changed) (setMemberSpeaking operation target user desired)

def updatePermissions (request : ChangePrivateRoomPermissions) : RoomProgram PrivateRoom := do
  let operation := "private_room.update_permissions"
  ensureActiveActor operation request.actor.expiresAt request.now
  let snapshot ← load operation
  let previous ← settled ((snapshot.members[request.targetPrincipalId]?).elim
    (.error (failure operation .validation .conflict)) fun member => .ok member.permissions)
  let (changed, room) ← settled (attempt operation snapshot
    (.updatePermissions request.actor.principalId request.targetPrincipalId request.permissions))
  let user ← principalMatrixUser operation request.targetPrincipalId
  carryPermissions operation room snapshot.version changed request.targetPrincipalId user (previous.allows .speak)
    (request.permissions.allows .speak)
  return room

def ensureTransferQuota (catalog : RoomCatalogId) (target : PrincipalId) : RoomProgram Unit := do
  let listed ← consult .listed fun answer => answer.mapError (repository operation .directory)
  onlyIf listed do
    let owned ← consult (.listedRoomsOwnedBy target) fun answer => answer.mapError (repository operation .directory)
    settled (if owned.any (· ≠ catalog) then .error (failure operation .validation .publicRoomLimitReached) else .ok ())

-- Whether the transfer was saved: not if the new owner has opened another room by now.
def saveTransferredRoom (room : PrivateRoom) (expected : AggregateVersion) : RoomProgram Bool := do
  let outcome ← consult (.saveTransferredRoom room expected) fun answer => answer.mapError (repository operation .persistence)
  settled (match outcome with
    | .saved => .ok true
    | .ownerLimitReached => .ok false
    | .shareCodeTaken | .stale => .error (failure operation .persistence .conflict))

def saveIfTransferred (room : PrivateRoom) (expected : AggregateVersion) (changed : Bool) : RoomProgram Bool :=
  if changed then saveTransferredRoom operation room expected else pure true

def reconcileCompletedTransfer (snapshot : PrivateRoom) (request : TransferPrivateRoomOwnership)
    (targetUser : RoomUser) : RoomProgram PrivateRoom :=
  if request.actor.principalId = request.targetPrincipalId then do
    setSpeaking operation targetUser true
    return snapshot
  else do
    settled (if snapshot.members[request.actor.principalId]?.any (·.permissions = request.formerOwnerPermissions) then .ok ()
      else .error (failure operation .validation .conflict))
    setSpeaking operation targetUser true
    setSpeaking operation request.actor.matrixUser (request.formerOwnerPermissions.allows .speak)
    onlyIf (!request.formerOwnerPermissions.allows .speak)
      (governMemberAgents operation request.actor.principalId (.speak false))
    return snapshot

def finishTransfer (room : PrivateRoom) (request : TransferPrivateRoomOwnership) (targetUser : RoomUser)
    (targetPreviousSpeaks : Bool) : RoomProgram PrivateRoom := do
  onlyIf (!targetPreviousSpeaks) (setSpeaking operation targetUser true)
  onlyIf (request.formerOwnerPermissions.allows .speak) (setSpeaking operation request.actor.matrixUser true)
  return room

def abandonTransfer (request : TransferPrivateRoomOwnership) : RoomProgram PrivateRoom := do
  onlyIf (!request.formerOwnerPermissions.allows .speak)
    (setMemberSpeaking operation request.actor.principalId request.actor.matrixUser true)
  settled (.error (failure operation .validation .publicRoomLimitReached))

def handOver (snapshot : PrivateRoom) (request : TransferPrivateRoomOwnership) (targetUser : RoomUser) :
    RoomProgram PrivateRoom := do
  let (changed, room) ← settled (attempt operation snapshot
    (.transferOwnership request.actor.principalId request.targetPrincipalId request.formerOwnerPermissions))
  ensureTransferQuota operation snapshot.catalogId request.targetPrincipalId
  onlyIf (!request.formerOwnerPermissions.allows .speak)
    (setMemberSpeaking operation request.actor.principalId request.actor.matrixUser false)
  let saved ← saveIfTransferred operation room snapshot.version changed
  if saved then
    finishTransfer operation room request targetUser
      (snapshot.members[request.targetPrincipalId]?.any (·.permissions.allows .speak))
  else abandonTransfer operation request

def transferOwnership (request : TransferPrivateRoomOwnership) : RoomProgram PrivateRoom := do
  let operation := "private_room.transfer_ownership"
  ensureActiveActor operation request.actor.expiresAt request.now
  let snapshot ← load operation
  let targetUser ← principalMatrixUser operation request.targetPrincipalId
  if snapshot.ownerPrincipalId = request.targetPrincipalId then
    reconcileCompletedTransfer operation snapshot request targetUser
  else handOver operation snapshot request targetUser

def archiveAsOwner (snapshot : PrivateRoom) (owner : PrincipalId) : RoomProgram PrivateRoom := do
  let (changed, room) ← settled (attempt operation snapshot (.archive owner))
  consult .archive fun answer => answer.mapError (matrix operation)
  saveIfChanged operation room snapshot.version changed
  return room

def archive (request : ArchivePrivateRoom) : RoomProgram PrivateRoom := do
  let operation := "private_room.archive"
  ensureActiveActor operation request.actor.expiresAt request.now
  settled (match request.actor with
    | .device _ _ => .error (failure operation .validation .forbidden)
    | .person _ | .networkAgent _ _ => .ok ())
  let snapshot ← load operation
  archiveAsOwner operation snapshot request.actor.principalId

inductive RoomRequest where
  | invite (request : InvitePrivateRoomMember)
  | inviteByLink (request : InviteByLink)
  | accept (request : PrivateRoomMembershipAction)
  | decline (request : PrivateRoomMembershipAction)
  | leave (request : PrivateRoomMembershipAction)
  | remove (request : GovernPrivateRoomMember)
  | ban (request : GovernPrivateRoomMember)
  | unban (request : GovernPrivateRoomMember)
  | updatePermissions (request : ChangePrivateRoomPermissions)
  | transferOwnership (request : TransferPrivateRoomOwnership)
  | archive (request : ArchivePrivateRoom)

def RoomRequest.serve : RoomRequest → RoomProgram PrivateRoom
  | .invite request => inviteMember request
  | .inviteByLink request => PrivateRooms.inviteByLink request
  | .accept request => PrivateRooms.accept request
  | .decline request => PrivateRooms.decline request
  | .leave request => PrivateRooms.leave request
  | .remove request => PrivateRooms.remove request
  | .ban request => PrivateRooms.ban request
  | .unban request => PrivateRooms.unban request
  | .updatePermissions request => PrivateRooms.updatePermissions request
  | .transferOwnership request => PrivateRooms.transferOwnership request
  | .archive request => PrivateRooms.archive request

end PrivateRooms

end AgentRoom
