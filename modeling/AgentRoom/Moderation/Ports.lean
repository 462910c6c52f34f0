import AgentRoom.Lobby.Service

namespace AgentRoom.Moderation

open Library

abbrev MatrixRoomId := Lobby.MatrixRoomReference

inductive ModerationFailureKind where
  | invalidRequest
  | forbidden
  | notFound
  | conflict
  | rateLimited
  | dependencyUnavailable
  | internal
deriving DecidableEq

structure ModerationFailure where
  operation : String
  kind : ModerationFailureKind

def failure (operation : String) (kind : ModerationFailureKind) : ModerationFailure := ⟨operation, kind⟩

def repositoryFailure (operation : String) : RepositoryErrorKind → ModerationFailure
  | .conflict => failure operation .conflict
  | .forbidden => failure operation .forbidden
  | .notFound => failure operation .notFound
  | .constraint | .corruptData => failure operation .internal
  | .unavailable => failure operation .dependencyUnavailable

def matrixFailureCode : MatrixFailureKind → String
  | .invalidConfiguration => "matrix.invalid_configuration"
  | .unauthenticated => "matrix.unauthenticated"
  | .authenticationRejected => "matrix.auth_rejected"
  | .forbidden => "matrix.forbidden"
  | .notFound => "matrix.not_found"
  | .conflict => "matrix.conflict"
  | .rateLimited => "matrix.rate_limited"
  | .timeout => "matrix.timeout"
  | .dependencyUnavailable => "matrix.unavailable"
  | .cryptographicIdentityConflict => "matrix.crypto_identity_conflict"
  | .invalidResponse => "matrix.invalid_response"
  | .unknownCommit => "matrix.unknown_commit"
  | .staleSyncToken => "matrix.stale_sync_token"
  | .unsupportedVersion => "matrix.unsupported_version"

inductive ModerationRole where
  | none
  | roomManager
  | platformModerator
  | auditReader
deriving DecidableEq

def ModerationRole.allows (role : ModerationRole) (_ : ModerationActionKind) : Bool :=
  decide (role = .roomManager ∨ role = .platformModerator)

structure ModerationRoomContext where
  role : ModerationRole
  roomKind : RoomCatalogKind
  matrixRoomIds : List MatrixRoomId
  hasMatrixUser : Bool

inductive ModerationMemberRefusal where
  | owner
  | notInRoom
  | roomUnavailable

inductive ModerationActionReservationOutcome where
  | reserved (action : ModerationAction)
  | existing (action : ModerationAction)

structure ModerationExpiryClaim where
  action : ModerationAction
  attempt : Nat
  previousFailureCode : Option String

inductive ModerationExpiryReschedule where
  | retry (retryAt : UtcMillis) (failureCode : String)
  | defer (retryAt : UtcMillis)

structure ModerationMuteRoom where
  roomKind : RoomCatalogKind
  matrixRoomIds : List MatrixRoomId
  hasMatrixUser : Bool
  maySpeak : Bool

structure ModerationMuteStanding extends ModerationMuteRoom where
  mutes : List ModerationAction

-- Where an action takes effect: in a room of the homeserver, or by way of the
-- member records of a private room.
inductive EffectPlace where
  | room (matrixRoomId : MatrixRoomId)
  | members
deriving DecidableEq

-- What the moderation service and the one that opens new shards ask of their ports.
-- Whose inspection it is, and the rooms a reservation goes by, are asked of nobody:
-- they are there for the record.
inductive PortCall where
  | clock
  | inspectRoom (id : ModerationActionId) (actor : PrincipalId) (target : ModerationTarget)
  | findCase (caseId : ModerationCaseId)
  | containsEvent (room : MatrixRoomId) (reference : String)
  | checkMembers (kind : ModerationActionKind) (person : PrincipalId)
  | reserveAction (action : ModerationAction) (rooms : List MatrixRoomId)
  | effect (lifts : Bool) (place : EffectPlace) (action : ModerationAction)
  | findAction (id : ModerationActionId)
  | finalizeAction (action : ModerationAction)
  | appendAudit (auditAction : String) (action : ModerationAction)
  | claimDueAction (now leaseUntil : UtcMillis)
  | rescheduleExpiry (claim : ModerationExpiryClaim) (reschedule : ModerationExpiryReschedule)
  | hasOtherEffectiveAction (action : ModerationAction) (now : UtcMillis)
  | expiryRoom (action : ModerationAction)
  | tryLockMutes (target : ModerationTarget)
  | releaseMutes (target : ModerationTarget)
  | muteRoom (target : ModerationTarget)
  | personMutes (target : ModerationTarget)
  | lobby (call : Lobby.LobbyCall)

def PortAnswer : PortCall → Type
  | .clock => UtcMillis
  | .inspectRoom _ _ _ => Except RepositoryErrorKind (Option ModerationRoomContext)
  | .findCase _ => Except RepositoryErrorKind (Option ModerationTarget)
  | .containsEvent _ _ => Except MatrixFailureKind Bool
  | .checkMembers _ _ => Except RepositoryErrorKind (Option ModerationMemberRefusal)
  | .reserveAction _ _ => Except RepositoryErrorKind ModerationActionReservationOutcome
  | .effect _ _ _ => Except MatrixFailureKind Unit
  | .findAction _ => Except RepositoryErrorKind (Option ModerationAction)
  | .finalizeAction _ => Except RepositoryErrorKind ModerationAction
  | .appendAudit _ _ => Except RepositoryErrorKind Unit
  | .claimDueAction _ _ => Except RepositoryErrorKind (Option ModerationExpiryClaim)
  | .rescheduleExpiry _ _ => Except RepositoryErrorKind Bool
  | .hasOtherEffectiveAction _ _ => Except RepositoryErrorKind Bool
  | .expiryRoom _ => Except RepositoryErrorKind (Option ModerationRoomContext)
  | .tryLockMutes _ => Except RepositoryErrorKind Bool
  | .releaseMutes _ => Unit
  | .muteRoom _ => Except RepositoryErrorKind (Option ModerationMuteRoom)
  | .personMutes _ => Except RepositoryErrorKind (List ModerationAction)
  | .lobby call => Lobby.LobbyAnswer call

abbrev ModerationProgram (α : Type) := ExceptT ModerationFailure (Program PortCall PortAnswer) α

abbrev EffectProgram := ExceptT MatrixFailureKind (Program PortCall PortAnswer) Unit

structure AuthenticatedModerator where
  principalId : PrincipalId
  expiresAt : UtcMillis
  recentlyAuthenticated : Bool

structure ApplyModerationAction where
  actor : AuthenticatedModerator
  actionId : ModerationActionId
  caseId : Option ModerationCaseId
  kind : ModerationActionKind
  target : ModerationTarget
  reason : ModerationReason
  expiresAt : Option UtcMillis
  impactAcknowledged : Bool

structure ReverseModerationAction where
  actor : AuthenticatedModerator
  actionId : ModerationActionId
  impactAcknowledged : Bool

end AgentRoom.Moderation
