import AgentRoom.Library.Calls
import AgentRoom.Lobby.Allocation
import AgentRoom.Lobby.Provisioning

namespace AgentRoom.Lobby

open Library
open Moderation (ModerationAction)

inductive MatrixRoomKind where
  | conversation
  | space

-- What the lobby services ask of their ports; every id is drawn anew. What stands
-- is asked for a catalog; the room it is carried over to is there for the record.
inductive LobbyCall where
  | clock
  | newId
  | claimProvisioning (claim : RoomProvisioningClaim)
  | checkpointMatrixRoom (job : RoomProvisioningJob) (room : MatrixRoomReference) (checkpointedAt : UtcMillis)
  | completeSpace (job : RoomProvisioningJob) (space : MatrixRoomReference) (completedAt : UtcMillis)
  | completeInstance (job : RoomProvisioningJob) (room : RoomInstance) (completedAt : UtcMillis)
  | releaseProvisioning (job : RoomProvisioningJob) (code : RoomProvisioningFailureCode) (releasedAt : UtcMillis)
  | createRoom (kind : MatrixRoomKind) (aliasLocalpart : MatrixRoomAliasLocalpart)
  | resolveRoomAlias (aliasLocalpart : MatrixRoomAliasLocalpart)
  | attachChild (space child : MatrixRoomReference)
  | standingPersonActions (job : RoomProvisioningJob) (room : MatrixRoomReference) (now : UtcMillis)
  | applyEffect (action : ModerationAction) (room : MatrixRoomReference)
  | reserve (claim : RoomReservationClaim)
  | transition (id : RoomReservationId) (expected target : RoomReservationState) (changedAt : UtcMillis)
  | joinRoom (room : MatrixRoomReference)
  | leaveRoom (room : MatrixRoomReference)

def LobbyAnswer : LobbyCall → Type
  | .clock => UtcMillis
  | .newId => Nat
  | .claimProvisioning _ => Except RepositoryErrorKind RoomProvisioningClaimOutcome
  | .checkpointMatrixRoom _ _ _ | .completeInstance _ _ _ | .releaseProvisioning _ _ _ => Except RepositoryErrorKind Unit
  | .completeSpace _ _ _ => Except RepositoryErrorKind RoomCatalog
  | .createRoom _ _ | .resolveRoomAlias _ => Except MatrixFailureKind MatrixRoomReference
  | .attachChild _ _ | .applyEffect _ _ | .joinRoom _ | .leaveRoom _ => Except MatrixFailureKind Unit
  | .standingPersonActions _ _ _ => Except RepositoryErrorKind (List ModerationAction)
  | .reserve _ => Except RepositoryErrorKind RoomReservationOutcome
  | .transition _ _ _ _ => Except RepositoryErrorKind RoomReservation

abbrev LobbyProgram (ε α : Type) := ExceptT ε (Program LobbyCall LobbyAnswer) α

def clock {ε : Type} : LobbyProgram ε UtcMillis := consult .clock .ok

def newId {ε : Type} : LobbyProgram ε Nat := consult .newId .ok

inductive LobbyProvisioningFailureStage where
  | claimSpace
  | createSpace
  | resolveSpace
  | checkpointSpace
  | completeSpace
  | claimInstance
  | createInstance
  | resolveInstance
  | checkpointInstance
  | attachInstance
  | carryOverModeration
  | completeInstance

inductive LobbyProvisioningFailure where
  | invalid (error : DomainError)
  | timeOverflow
  | store (stage : LobbyProvisioningFailureStage) (source : RepositoryErrorKind)
  | matrix (stage : LobbyProvisioningFailureStage) (source : MatrixFailureKind)
  | matrixReleaseFailed (stage : LobbyProvisioningFailureStage) (source : MatrixFailureKind) (release : RepositoryErrorKind)

structure LobbyProvisioningRequest where
  catalog : RoomCatalog
  preferredRegion : Option RoomRegion

structure ProvisionedLobby where
  catalog : RoomCatalog
  room : RoomInstance

inductive LobbyProvisioningOutcome where
  | ready (lobby : ProvisionedLobby)
  | busy (retryAt : UtcMillis)

inductive EnsureSpaceOutcome where
  | ready (catalog : RoomCatalog)
  | busy (retryAt : UtcMillis)

abbrev ProvisioningProgram (α : Type) := LobbyProgram LobbyProvisioningFailure α

def invalidStoreOutcome (rule : String) : LobbyProvisioningFailure := .invalid (.invariantViolation "room_provisioning_store" rule)

def validateCatalog (catalog : RoomCatalog) : Except LobbyProvisioningFailure Unit :=
  if catalog.kind ≠ .publicLobby then .error (.invalid (.invariantViolation "room_catalog" "自动分片只接受公共大厅目录"))
  else if catalog.isJoinable then .ok ()
  else .error (.invalid (.invalidTransition "room_catalog" catalog.status.asStr "provisioning"))

def uuidSimple (id : Nat) : String :=
  let digits := Nat.toDigits 16 id
  String.ofList (List.replicate (32 - digits.length) '0' ++ digits)

def withSlug (catalog : RoomCatalog) (name : String → MatrixRoomAliasLocalpart) : Except LobbyProvisioningFailure MatrixRoomAliasLocalpart :=
  match catalog.slug with
  | some slug => .ok (name slug)
  | none => .error (.invalid (.invariantViolation "room_catalog" "公共大厅必须有稳定短名"))

def spaceAlias (catalog : RoomCatalog) : Except LobbyProvisioningFailure MatrixRoomAliasLocalpart :=
  withSlug catalog fun slug => "agent-room-space-" ++ slug

def instanceAlias (catalog : RoomCatalog) (room : RoomInstanceId) : Except LobbyProvisioningFailure MatrixRoomAliasLocalpart :=
  withSlug catalog fun slug => "agent-room-" ++ slug ++ "-" ++ uuidSimple room

def buildRoomInstance (job : RoomProvisioningJob) (room : MatrixRoomReference) : Except LobbyProvisioningFailure RoomInstance :=
  match job.target.roomInstanceId with
  | some id => .ok {
      id
      catalogId := job.catalog.id
      matrixRoomId := room
      region := job.target.region
      capacity := .standard
      allocatedSlots := 0
      state := .active
      fits := Nat.zero_le _ }
  | none => .error (.invalid (.invariantViolation "room_provisioning_job" "房间实例任务缺少实例标识"))

def fromStore {α : Type} (stage : LobbyProvisioningFailureStage) (answer : Except RepositoryErrorKind α) :
    Except LobbyProvisioningFailure α := answer.mapError (.store stage)

def leaseUntil (lifetime : DurationMillis) (now : UtcMillis) : Except LobbyProvisioningFailure UtcMillis :=
  (now.checkedAdd lifetime).mapError fun _ => .timeOverflow

def provisioningClaim (lifetime : DurationMillis) (catalogId : RoomCatalogId) (target : RoomProvisioningTarget)
    (aliasLocalpart : MatrixRoomAliasLocalpart) : ProvisioningProgram RoomProvisioningClaim := do
  let now ← clock
  let expiresAt ← settled (leaseUntil lifetime now)
  let jobId ← newId
  let leaseId ← newId
  settled ((RoomProvisioningClaim.new ⟨jobId, leaseId, catalogId, target, aliasLocalpart, now, expiresAt⟩).mapError .invalid)

-- The lease is given up, and the failure of the homeserver is what is answered.
def releaseMatrixFailure {α : Type} (job : RoomProvisioningJob) (code : RoomProvisioningFailureCode)
    (stage : LobbyProvisioningFailureStage) (source : MatrixFailureKind) : ProvisioningProgram α := do
  let now ← clock
  let released ← consult (.releaseProvisioning job code now) .ok
  settled (.error (match released with
    | .ok () => .matrix stage source
    | .error release => .matrixReleaseFailed stage source release))

structure MatrixRoomStages where
  kind : MatrixRoomKind
  create : LobbyProvisioningFailureStage
  resolve : LobbyProvisioningFailureStage
  checkpoint : LobbyProvisioningFailureStage

def spaceStages : MatrixRoomStages := ⟨.space, .createSpace, .resolveSpace, .checkpointSpace⟩

def instanceStages : MatrixRoomStages := ⟨.conversation, .createInstance, .resolveInstance, .checkpointInstance⟩

section

variable (job : RoomProvisioningJob) (stages : MatrixRoomStages)

def checkpoint (room : MatrixRoomReference) : ProvisioningProgram MatrixRoomReference := do
  let now ← clock
  consult (.checkpointMatrixRoom job room now) (fromStore stages.checkpoint)
  return room

def resolveRoom : ProvisioningProgram MatrixRoomReference := do
  let resolved ← consult (.resolveRoomAlias job.aliasLocalpart) .ok
  match resolved with
  | .ok room => checkpoint job stages room
  | .error source => releaseMatrixFailure job .matrixResolve stages.resolve source

def createMatrixRoom : ProvisioningProgram MatrixRoomReference := do
  let created ← consult (.createRoom stages.kind job.aliasLocalpart) .ok
  match created with
  | .ok room => checkpoint job stages room
  | .error .conflict | .error .unknownCommit => resolveRoom job stages
  | .error source => releaseMatrixFailure job .matrixCreate stages.create source

def ensureMatrixRoom : ProvisioningProgram MatrixRoomReference :=
  match job.matrixRoomId with
  | some room => pure room
  | none => createMatrixRoom job stages

end

def ensureJobKind (job : RoomProvisioningJob) (expected : RoomProvisioningKind) : Except LobbyProvisioningFailure Unit :=
  if job.target.kind = expected then .ok ()
  else .error (.invalid (.invariantViolation "room_provisioning_job" "持久化返回的建房目标类型与请求不一致"))

def openSpace (job : RoomProvisioningJob) : ProvisioningProgram EnsureSpaceOutcome := do
  settled (ensureJobKind job .space)
  let space ← ensureMatrixRoom job spaceStages
  let now ← clock
  let catalog ← consult (.completeSpace job space now) (fromStore .completeSpace)
  return .ready catalog

section

variable (lifetime : DurationMillis)

def claimSpace (catalog : RoomCatalog) : ProvisioningProgram EnsureSpaceOutcome := do
  let aliasLocalpart ← settled (spaceAlias catalog)
  let claim ← provisioningClaim lifetime catalog.id .space aliasLocalpart
  let outcome ← consult (.claimProvisioning claim) (fromStore .claimSpace)
  match outcome with
  | .claimed job => openSpace job
  | .busy retryAt => return .busy retryAt
  | .spaceReady catalog => return .ready catalog
  | .instanceReady _ => settled (.error (invalidStoreOutcome "Space 租约返回了房间实例"))

def ensureSpace (catalog : RoomCatalog) : ProvisioningProgram EnsureSpaceOutcome :=
  if catalog.matrixSpaceId.isSome then pure (.ready catalog) else claimSpace lifetime catalog

def attachInstance (job : RoomProvisioningJob) (space child : MatrixRoomReference) : ProvisioningProgram Unit := do
  let attached ← consult (.attachChild space child) .ok
  match attached with
  | .ok () => pure ()
  | .error source => releaseMatrixFailure job .spaceAttach .attachInstance source

def carriesOver (action : ModerationAction) (now : UtcMillis) : Bool :=
  decide (action.kind = .mute ∨ action.kind = .ban) && action.isEffectiveAt now

def carryOver (job : RoomProvisioningJob) (room : MatrixRoomReference) : List ModerationAction → ProvisioningProgram Unit
  | [] => pure ()
  | action :: rest => do
    let applied ← consult (.applyEffect action room) .ok
    match applied with
    | .ok () => carryOver job room rest
    | .error source => releaseMatrixFailure job .moderationCarryOver .carryOverModeration source

def carryOverModeration (job : RoomProvisioningJob) (room : MatrixRoomReference) : ProvisioningProgram Unit := do
  let now ← clock
  let standing ← consult (.standingPersonActions job room now) (fromStore .carryOverModeration)
  carryOver job room (standing.filter (carriesOver · now))

def openInstance (catalog : RoomCatalog) (space : MatrixRoomReference) (job : RoomProvisioningJob) :
    ProvisioningProgram LobbyProvisioningOutcome := do
  settled (ensureJobKind job .roomInstance)
  let child ← ensureMatrixRoom job instanceStages
  attachInstance job space child
  carryOverModeration job child
  let room ← settled (buildRoomInstance job child)
  let now ← clock
  consult (.completeInstance job room now) (fromStore .completeInstance)
  return .ready ⟨catalog, room⟩

def ensureInstance (catalog : RoomCatalog) (preferredRegion : Option RoomRegion) :
    ProvisioningProgram LobbyProvisioningOutcome := do
  let space ← settled (match catalog.matrixSpaceId with
    | some space => .ok space
    | none => .error (invalidStoreOutcome "完成 Space 后目录仍缺少 Matrix Space 标识"))
  let proposed ← newId
  let aliasLocalpart ← settled (instanceAlias catalog proposed)
  let claim ← provisioningClaim lifetime catalog.id (.roomInstance proposed preferredRegion) aliasLocalpart
  let outcome ← consult (.claimProvisioning claim) (fromStore .claimInstance)
  match outcome with
  | .claimed job => openInstance catalog space job
  | .busy retryAt => return .busy retryAt
  | .instanceReady room => return .ready ⟨catalog, room⟩
  | .spaceReady _ => settled (.error (invalidStoreOutcome "房间实例租约返回了 Space"))

def provision (request : LobbyProvisioningRequest) : ProvisioningProgram LobbyProvisioningOutcome := do
  settled (validateCatalog request.catalog)
  let ensured ← ensureSpace lifetime request.catalog
  match ensured with
  | .ready catalog => ensureInstance lifetime catalog request.preferredRegion
  | .busy retryAt => return .busy retryAt

inductive LobbyJoinRollbackFailure where
  | matrix (source : MatrixFailureKind)
  | reservation (source : RepositoryErrorKind)

inductive JoinLobbyFailure where
  | timeOverflow
  | allocation (source : RepositoryErrorKind)
  | matrixJoin (source : MatrixFailureKind)
  | matrixJoinCompensation (join : MatrixFailureKind) (release : RepositoryErrorKind)
  | confirmationRolledBack (confirmation : RepositoryErrorKind)
  | confirmationRollbackFailed (confirmation : RepositoryErrorKind) (rollback : LobbyJoinRollbackFailure)

structure JoinLobbyRequest where
  agentId : AgentId
  agentInstanceId : AgentInstanceId
  catalogId : RoomCatalogId
  mode : RoomAllocationMode
  preferredLanguage : Option RoomLanguage
  preferredRegion : Option RoomRegion
  evidence : RoomAllocationEvidence

inductive LobbyJoinKind where
  | newAssignment
  | recoveredAssignment

inductive JoinLobbyOutcome where
  | joined (reservation : RoomReservation) (room : RoomInstance) (kind : LobbyJoinKind)
  | provisioningRequired (catalog : RoomCatalog)

abbrev JoinProgram (α : Type) := LobbyProgram JoinLobbyFailure α

def rollbackJoin (reservation : RoomReservation) (room : RoomInstance) (now : UtcMillis) :
    LobbyProgram LobbyJoinRollbackFailure Unit := do
  consult (.leaveRoom room.matrixRoomId) (Except.mapError .matrix)
  let _ ← consult (.transition reservation.id .reserved .released now) (Except.mapError .reservation)

def joinReserved (reservation : RoomReservation) (room : RoomInstance) (now : UtcMillis) : JoinProgram JoinLobbyOutcome := do
  let joined ← consult (.joinRoom room.matrixRoomId) .ok
  match joined with
  | .error join =>
    let released ← consult (.transition reservation.id .reserved .released now) .ok
    settled (.error (match released with
      | .ok _ => .matrixJoin join
      | .error release => .matrixJoinCompensation join release))
  | .ok () =>
    let confirmed ← consult (.transition reservation.id .reserved .committed now) .ok
    match confirmed with
    | .ok committed => return .joined committed room .newAssignment
    | .error confirmation =>
      let rolledBack ← attempted (rollbackJoin reservation room now)
      settled (.error (match rolledBack with
        | .ok () => .confirmationRolledBack confirmation
        | .error rollback => .confirmationRollbackFailed confirmation rollback))

def reservationClaim (request : JoinLobbyRequest) (id : RoomReservationId) (now expiresAt : UtcMillis) : RoomReservationClaim where
  reservationId := id
  agentId := request.agentId
  agentInstanceId := request.agentInstanceId
  catalogId := request.catalogId
  mode := request.mode
  preferredLanguage := request.preferredLanguage
  preferredRegion := request.preferredRegion
  evidence := request.evidence
  reservedAt := now
  expiresAt

def join (request : JoinLobbyRequest) : JoinProgram JoinLobbyOutcome := do
  let now ← clock
  let expiresAt ← settled ((now.checkedAdd lifetime).mapError fun _ => .timeOverflow)
  let id ← newId
  let outcome ← consult (.reserve (reservationClaim request id now expiresAt)) (Except.mapError .allocation)
  match outcome with
  | .provisioningRequired catalog => return .provisioningRequired catalog
  | .existingAssignment reservation room =>
    consult (.joinRoom room.matrixRoomId) (Except.mapError .matrixJoin)
    return .joined reservation room .recoveredAssignment
  | .reserved reservation room => joinReserved reservation room now

end

inductive EnterLobbyOutcome where
  | joined (reservation : RoomReservation) (room : RoomInstance) (kind : LobbyJoinKind)
  | provisioningBusy (retryAt : UtcMillis)
  | capacityChanged (catalogId : RoomCatalogId)

inductive EnterLobbyFailure where
  | join (source : JoinLobbyFailure)
  | provisioning (source : LobbyProvisioningFailure)
  | provisioningResultMismatch (expected actual room : RoomCatalogId)

structure EnterLobbyPolicy where
  reservationLifetime : DurationMillis
  leaseLifetime : DurationMillis

section

variable (policy : EnterLobbyPolicy) (request : JoinLobbyRequest)

def retryAfterProvisioning : LobbyProgram EnterLobbyFailure EnterLobbyOutcome := do
  let outcome ← failAs .join (join policy.reservationLifetime request)
  match outcome with
  | .joined reservation room kind => return .joined reservation room kind
  | .provisioningRequired _ => return .capacityChanged request.catalogId

def enterProvisioned : LobbyProvisioningOutcome → LobbyProgram EnterLobbyFailure EnterLobbyOutcome
  | .busy retryAt => return .provisioningBusy retryAt
  | .ready lobby =>
    if lobby.catalog.id ≠ request.catalogId ∨ lobby.room.catalogId ≠ request.catalogId then
      settled (.error (.provisioningResultMismatch request.catalogId lobby.catalog.id lobby.room.catalogId))
    else retryAfterProvisioning policy request

def enter : LobbyProgram EnterLobbyFailure EnterLobbyOutcome := do
  let first ← failAs .join (join policy.reservationLifetime request)
  match first with
  | .joined reservation room kind => return .joined reservation room kind
  | .provisioningRequired catalog =>
    let provisioned ← failAs .provisioning (provision policy.leaseLifetime ⟨catalog, request.preferredRegion⟩)
    enterProvisioned policy request provisioned

end

end AgentRoom.Lobby
