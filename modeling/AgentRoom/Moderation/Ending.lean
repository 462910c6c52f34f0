import AgentRoom.Moderation.Ports
import AgentRoom.Publication.Stores

namespace AgentRoom.Moderation

open Library

def fromRepository {α : Type} (operation : String) (answer : Except RepositoryErrorKind α) : Except ModerationFailure α :=
  answer.mapError (repositoryFailure operation)

section

variable (operation : String)

def clock : ModerationProgram UtcMillis := consult .clock .ok

def requireActiveActor (actor : AuthenticatedModerator) (now : UtcMillis) : Except ModerationFailure Unit :=
  if now < actor.expiresAt then .ok () else .error (failure operation .forbidden)

def requireRecentActor (actor : AuthenticatedModerator) (now : UtcMillis) (impactAcknowledged : Bool) : Except ModerationFailure Unit := do
  requireActiveActor operation actor now
  if actor.recentlyAuthenticated && impactAcknowledged then .ok () else .error (failure operation .forbidden)

def authorizedRoomContext (id : ModerationActionId) (actor : AuthenticatedModerator) (target : ModerationTarget)
    (kind : ModerationActionKind) : ModerationProgram ModerationRoomContext := do
  let found ← consult (.inspectRoom id actor.principalId target) (fromRepository operation)
  let context ← settled (found.elim (.error (failure operation .notFound)) .ok)
  settled (if context.role.allows kind then .ok context else .error (failure operation .forbidden))

def requireMatchingCase (caseId : Option ModerationCaseId) (target : ModerationTarget) : ModerationProgram Unit :=
  match caseId with
  | none => pure ()
  | some id => do
    let found ← consult (.findCase id) (fromRepository operation)
    let concerned ← settled (found.elim (.error (failure operation .notFound)) .ok)
    settled (if concerned = target then .ok () else .error (failure operation .conflict))

end

section

def searchEvent (operation reference : String) : List MatrixRoomId → Bool → ModerationProgram MatrixRoomId
  | [], unavailable => settled (.error (failure operation (if unavailable then .dependencyUnavailable else .notFound)))
  | room :: rest, unavailable => do
    let answer ← consult (.containsEvent room reference) .ok
    match answer with
    | .ok true => pure room
    | .ok false => searchEvent operation reference rest unavailable
    | .error _ => searchEvent operation reference rest true

def eventRoom (operation : String) (rooms : List MatrixRoomId) (target : ModerationTarget) : ModerationProgram MatrixRoomId :=
  match rooms with
  | [only] => pure only
  | rooms =>
    if Publication.validEventId target.reference then searchEvent operation target.reference rooms false
    else settled (.error (failure operation .notFound))

def effectRooms (operation : String) (context : ModerationRoomContext) (kind : ModerationActionKind) (target : ModerationTarget) :
    ModerationProgram (List MatrixRoomId) :=
  if context.matrixRoomIds.isEmpty then settled (.error (failure operation .notFound))
  else match kind with
    | .hide => do
      let room ← eventRoom operation context.matrixRoomIds target
      return [room]
    | .mute | .kick | .ban => pure context.matrixRoomIds

def throughMembers (context : ModerationRoomContext) (kind : ModerationActionKind) : Bool :=
  decide (context.roomKind = .privateRoom) && decide (kind = .kick ∨ kind = .ban)

variable (parseUuid : String → Option PrincipalId)

def inEachRoom (lifts : Bool) (action : ModerationAction) : List MatrixRoomId → EffectProgram
  | [] => pure ()
  | room :: rest => do
    consult (.effect lifts (.room room) action) id
    inEachRoom lifts action rest

def carryEffects (lifts : Bool) (action : ModerationAction) (context : ModerationRoomContext) (rooms : List MatrixRoomId) :
    EffectProgram :=
  if throughMembers context action.kind then
    match principalReference parseUuid action.target with
    | none => settled (.error .notFound)
    | some _ => consult (.effect lifts .members action) id
  else inEachRoom lifts action rooms

def applyEffects (action : ModerationAction) (context : ModerationRoomContext) (rooms : List MatrixRoomId) : EffectProgram :=
  carryEffects parseUuid false action context rooms

def reverseEffects (action : ModerationAction) (context : ModerationRoomContext) (rooms : List MatrixRoomId) : EffectProgram :=
  carryEffects parseUuid true action context rooms

def refused (operation : String) : Option ModerationMemberRefusal → Except ModerationFailure Unit
  | none => .ok ()
  | some .owner => .error (failure operation .forbidden)
  | some .notInRoom => .error (failure operation .conflict)
  | some .roomUnavailable => .error (failure operation .notFound)

def checkMembers (operation : String) (context : ModerationRoomContext) (kind : ModerationActionKind) (target : ModerationTarget) :
    ModerationProgram Unit :=
  if throughMembers context kind then
    match principalReference parseUuid target with
    | none => settled (.error (failure operation .invalidRequest))
    | some person => do
      let refusal ← consult (.checkMembers kind person) (fromRepository operation)
      settled (refused operation refusal)
  else pure ()

end

section

variable (parseUuid : String → Option PrincipalId)

-- The outcome of the effects goes on record: failed if a single shard failed.
def finishApplied (operation : String) (action : ModerationAction) (applied : Except MatrixFailureKind Unit) :
    ModerationProgram ModerationAction :=
  match applied with
  | .ok () => do
    let marked ← settled (action.markApplied.mapError fun _ => failure operation .internal)
    consult (.finalizeAction marked) (fromRepository operation)
  | .error kind => do
    let marked ← settled ((action.markFailed (matrixFailureCode kind)).mapError fun _ => failure operation .internal)
    let _ ← consult (.finalizeAction marked) (fromRepository operation)
    settled (.error (failure operation .dependencyUnavailable))

def landReserved (operation : String) (context : ModerationRoomContext) (rooms : List MatrixRoomId) :
    ModerationActionReservationOutcome → ModerationProgram ModerationAction
  | .existing action => pure action
  | .reserved action => do
    let applied ← attempted (applyEffects parseUuid action context rooms)
    finishApplied operation action applied

def applyAction (request : ApplyModerationAction) : ModerationProgram ModerationAction := do
  let operation := "moderation.apply_action"
  let now ← clock
  settled (requireRecentActor operation request.actor now request.impactAcknowledged)
  let context ← authorizedRoomContext operation request.actionId request.actor request.target request.kind
  requireMatchingCase operation request.caseId request.target
  let rooms ← effectRooms operation context request.kind request.target
  checkMembers parseUuid operation context request.kind request.target
  let action ← settled ((ModerationAction.reserve request.actionId request.caseId request.actor.principalId request.kind request.target
    request.reason now request.expiresAt).mapError fun _ => failure operation .invalidRequest)
  let outcome ← consult (.reserveAction action context.matrixRoomIds) (fromRepository operation)
  landReserved parseUuid operation context rooms outcome

end

-- What is left of a reversal that could not be done: an audit row, and a failure.
def reverseFailed {α : Type} (operation : String) (action : ModerationAction) : ModerationProgram α := do
  consult (.appendAudit "moderation.action.reverse_failed" action) (fromRepository operation)
  settled (.error (failure operation .dependencyUnavailable))

-- The action had been ended by somebody else in the meantime: that is what is answered.
def endedMeanwhile (operation : String) (id : ModerationActionId) (error : RepositoryErrorKind) : ModerationProgram ModerationAction :=
  if error = .conflict then do
    let found ← consult (.findAction id) (fromRepository operation)
    settled (match found with
      | some current => if current.status = .reversed then .ok current else .error (repositoryFailure operation error)
      | none => .error (repositoryFailure operation error))
  else settled (.error (repositoryFailure operation error))

def recordReversed (operation : String) (action : ModerationAction) : ModerationProgram ModerationAction := do
  let now ← clock
  let reversed ← settled ((action.reverse now).mapError fun _ => failure operation .conflict)
  let answer ← consult (.finalizeAction reversed) .ok
  match answer with
  | .ok recorded => pure recorded
  | .error error => endedMeanwhile operation action.id error

open Library

def pendingGraceMillis : Nat := 5 * 60 * 1000

inductive MuteCourse where
  | unsettled
  | leaveAlone
  | keepMuted (action : ModerationAction)
  | lift
deriving DecidableEq

def landingAt (mute : ModerationAction) (now : UtcMillis) : Bool :=
  decide (mute.status = .pending) && decide (now.value - mute.startsAt.value < pendingGraceMillis)

def roomGone (standing : ModerationMuteStanding) : Bool := standing.matrixRoomIds.isEmpty || !standing.hasMatrixUser

namespace MuteCourse

def of (standing : ModerationMuteStanding) (ending : ModerationAction) (now : UtcMillis) : MuteCourse :=
  let others := standing.mutes.filter fun mute => decide (mute.id ≠ ending.id)
  if others.any (landingAt · now) then .unsettled
  else if roomGone standing then .leaveAlone
  else match others.find? (·.isEffectiveAt now) with
    | some effective => .keepMuted effective
    | none => if standing.maySpeak then .lift else .leaveAlone

def insisting (standing : ModerationMuteStanding) (ending : ModerationAction) (now : UtcMillis) : MuteCourse :=
  match MuteCourse.of standing ending now with
  | .unsettled =>
    if roomGone standing then .leaveAlone
    else match standing.mutes.find? fun mute => decide (mute.id ≠ ending.id) && landingAt mute now with
      | some landing => .keepMuted landing
      | none => .leaveAlone
  | course => course

def sameAs : MuteCourse → MuteCourse → Bool
  | .unsettled, .unsettled | .leaveAlone, .leaveAlone | .keepMuted _, .keepMuted _ | .lift, .lift => true
  | _, _ => false

end MuteCourse

def sameRooms (left right : List MatrixRoomId) : Bool := decide (left.Perm right)

def settledAfter (before : ModerationMuteStanding) (course : MuteCourse) (found : Option ModerationMuteStanding)
    (ending : ModerationAction) (now : UtcMillis) : Bool :=
  found.any fun standing => (MuteCourse.of standing ending now).sameAs course && sameRooms before.matrixRoomIds standing.matrixRoomIds

section

variable (parseUuid : String → Option PrincipalId) (operation : String)

-- The room is read first, and then the mutes, by a statement of its own.
def muteStanding (action : ModerationAction) : ModerationProgram (Option ModerationMuteStanding) := do
  let found ← consult (.muteRoom action.target) (fromRepository operation)
  match found with
  | none => pure none
  | some room => do
    let mutes ← consult (.personMutes action.target) (fromRepository operation)
    return some { room with mutes }

def ModerationMuteStanding.context (standing : ModerationMuteStanding) : ModerationRoomContext where
  role := .none
  roomKind := standing.roomKind
  matrixRoomIds := standing.matrixRoomIds
  hasMatrixUser := standing.hasMatrixUser

def followMuteCourse (course : MuteCourse) (ending : ModerationAction) (standing : ModerationMuteStanding) : EffectProgram :=
  match course with
  | .keepMuted effective => applyEffects parseUuid effective standing.context standing.matrixRoomIds
  | .lift => reverseEffects parseUuid ending standing.context standing.matrixRoomIds
  | .unsettled | .leaveAlone => pure ()

def followWhenReversing (course : MuteCourse) (action : ModerationAction) (standing : ModerationMuteStanding) : ModerationProgram Unit := do
  let followed ← attempted (followMuteCourse parseUuid course action standing)
  match followed with
  | .ok () => pure ()
  | .error _ => reverseFailed operation action

def followAgain (before : ModerationMuteStanding) (course : MuteCourse) (found : Option ModerationMuteStanding)
    (action : ModerationAction) (now : UtcMillis) : ModerationProgram Unit :=
  if settledAfter before course found action now then pure ()
  else match found with
    | none => pure ()
    | some standing => followWhenReversing parseUuid operation (MuteCourse.insisting standing action now) action standing

def reverseMuteLocked (action : ModerationAction) : ModerationProgram ModerationAction := do
  let now ← clock
  let found ← muteStanding operation action
  let standing ← settled (found.elim (.error (failure operation .notFound)) .ok)
  let course := MuteCourse.of standing action now
  settled (if course = .unsettled then .error (failure operation .conflict) else .ok ())
  followWhenReversing parseUuid operation course action standing
  let again ← muteStanding operation action
  followAgain parseUuid operation standing course again action now
  recordReversed operation action

-- The lock is given back whatever comes of it.
def withMuteLock {α : Type} (action : ModerationAction) (program : ModerationProgram α) : ModerationProgram α := do
  let outcome ← attempted program
  consult (.releaseMutes action.target) .ok
  settled outcome

def reverseMute (action : ModerationAction) : ModerationProgram ModerationAction := do
  let locked ← consult (.tryLockMutes action.target) (fromRepository operation)
  if locked then withMuteLock action (reverseMuteLocked parseUuid operation action)
  else settled (.error (failure operation .conflict))

end

section

variable (parseUuid : String → Option PrincipalId)

def reverseStanding (operation : String) (action : ModerationAction) (context : ModerationRoomContext) :
    ModerationProgram ModerationAction := do
  let rooms ← effectRooms operation context action.kind action.target
  let reversed ← attempted (reverseEffects parseUuid action context rooms)
  match reversed with
  | .ok () => recordReversed operation action
  | .error _ => reverseFailed operation action

def reverseFound (operation : String) (actor : AuthenticatedModerator) (action : ModerationAction) : ModerationProgram ModerationAction :=
  if action.status = .reversed then pure action
  else do
    let context ← authorizedRoomContext operation action.id actor action.target action.kind
    if action.kind = .mute then reverseMute parseUuid operation action
    else reverseStanding parseUuid operation action context

def reverseAction (request : ReverseModerationAction) : ModerationProgram ModerationAction := do
  let operation := "moderation.reverse_action"
  let now ← clock
  settled (requireRecentActor operation request.actor now request.impactAcknowledged)
  let found ← consult (.findAction request.actionId) (fromRepository operation)
  let action ← settled (found.elim (.error (failure operation .notFound)) .ok)
  reverseFound parseUuid operation request.actor action

end

section

def claimsPerRound : Nat := 20
def leaseMillis : Nat := 2 * 60 * 1000
def retryInitialMillis : Nat := 30 * 1000
def retryMaximumMillis : Nat := 15 * 60 * 1000
def settleDelayMillis : Nat := 20 * 1000

def later (start : UtcMillis) (millis : Nat) : UtcMillis :=
  if fits : start.value + millis ≤ i64Max then ⟨start.value + millis, fits⟩ else ⟨i64Max, Nat.le_refl _⟩

def retryDelayMillis (attempt : Nat) : Nat := min (retryInitialMillis * 2 ^ min (attempt - 1) 20) retryMaximumMillis

def homeserverUnavailable : MatrixFailureKind → Bool
  | .dependencyUnavailable | .timeout | .rateLimited | .unauthenticated | .authenticationRejected => true
  | _ => false

inductive Step where
  | expired
  | alreadyEnded
  | unsettled
  | failed (failureCode : String) (homeserverDown : Bool)

inductive Scope where
  | rooms (context : ModerationRoomContext) (matrixRoomIds : List MatrixRoomId)
  | nothing
  | unreadable

structure ModerationExpiryRetry where
  actionId : ModerationActionId
  failureCode : String

structure ModerationExpiryOutcome where
  expired : Nat
  retrying : List ModerationExpiryRetry

variable (parseUuid : String → Option PrincipalId) (operation : String)

def failed (kind : MatrixFailureKind) : Step := .failed (matrixFailureCode kind) (homeserverUnavailable kind)

def latest (first second : UtcMillis) : UtcMillis := if first ≤ second then second else first

variable (action : ModerationAction) (now : UtcMillis)

def recordExpired (dueAt : UtcMillis) : ModerationProgram Step := do
  let now ← clock
  let expired ← settled ((action.expire (latest now dueAt)).mapError fun _ => failure operation .internal)
  let answer ← consult (.finalizeAction expired) .ok
  settled (match answer with
    | .ok _ => .ok .expired
    | .error .conflict => .ok .alreadyEnded
    | .error error => .error (repositoryFailure operation error))

def liftable (context : ModerationRoomContext) : Bool :=
  !context.matrixRoomIds.isEmpty && (decide (action.target.kind ≠ .principal) || context.hasMatrixUser)

def roomScope (room : Option ModerationRoomContext) : ModerationProgram Scope :=
  match room.filter (liftable action) with
  | none => pure .nothing
  | some context => do
    let rooms ← attempted (effectRooms operation context action.kind action.target)
    return match rooms with
      | .ok rooms => .rooms context rooms
      | .error failure => if failure.kind = .notFound then .nothing else .unreadable

def expiryScope : ModerationProgram Scope :=
  if action.kind = .kick then pure .nothing
  else do
    let other ← consult (.hasOtherEffectiveAction action now) (fromRepository operation)
    if other then pure .nothing
    else do
      let room ← consult (.expiryRoom action) (fromRepository operation)
      roomScope operation action room

def expireScoped : Scope → ModerationProgram Step
  | .rooms context rooms => do
    let reversed ← attempted (reverseEffects parseUuid action context rooms)
    match reversed with
    | .ok () => recordExpired operation action now
    | .error kind => pure (failed kind)
  | .nothing => recordExpired operation action now
  | .unreadable => pure (.failed "matrix.unavailable" false)

def expireMuteCourse (standing : ModerationMuteStanding) (course : MuteCourse) : ModerationProgram Step := do
  let followed ← attempted (followMuteCourse parseUuid course action standing)
  match followed with
  | .error kind => pure (failed kind)
  | .ok () => do
    let again ← muteStanding operation action
    if settledAfter standing course again action now then recordExpired operation action now else pure .unsettled

def expireMuteLocked : ModerationProgram Step := do
  let found ← muteStanding operation action
  match found with
  | none => recordExpired operation action now
  | some standing =>
    match MuteCourse.of standing action now with
    | .unsettled => pure .unsettled
    | .leaveAlone => recordExpired operation action now
    | course => expireMuteCourse parseUuid operation action now standing course

def expireMute : ModerationProgram Step := do
  let locked ← consult (.tryLockMutes action.target) (fromRepository operation)
  if locked then withMuteLock action (expireMuteLocked parseUuid operation action now) else pure .unsettled

def expireAction (action : ModerationAction) (now : UtcMillis) : ModerationProgram Step :=
  if action.isDueAt now then
    if action.kind = .mute then expireMute parseUuid "moderation.expire_action" action now
    else do
      let scope ← expiryScope "moderation.expire_action" action now
      expireScoped parseUuid "moderation.expire_action" action now scope
  else pure .alreadyEnded

def reschedule (claim : ModerationExpiryClaim) (reschedule : ModerationExpiryReschedule) : ModerationProgram Bool :=
  consult (.rescheduleExpiry claim reschedule) (fromRepository "moderation.settle_expiry")

def auditFirstFailure (claim : ModerationExpiryClaim) (rescheduled : Bool) : ModerationProgram Unit :=
  if rescheduled && claim.previousFailureCode.isNone then
    consult (.appendAudit "moderation.action.expire_failed" claim.action) (fromRepository "moderation.settle_expiry")
  else pure ()

def settleClaim (claim : ModerationExpiryClaim) (now : UtcMillis) (outcome : ModerationExpiryOutcome) :
    Step → ModerationProgram (ModerationExpiryOutcome × Bool)
  | .expired => pure ({ outcome with expired := outcome.expired + 1 }, false)
  | .alreadyEnded => pure (outcome, false)
  | .unsettled => do
    let _ ← reschedule claim (.defer (later now settleDelayMillis))
    return (outcome, false)
  | .failed failureCode homeserverDown => do
    let rescheduled ← reschedule claim (.retry (later now (retryDelayMillis claim.attempt)) failureCode)
    auditFirstFailure claim rescheduled
    return ({ outcome with retrying := outcome.retrying ++ [⟨claim.action.id, failureCode⟩] }, homeserverDown)

def expireClaims : Nat → ModerationExpiryOutcome → ModerationProgram ModerationExpiryOutcome
  | 0, outcome => pure outcome
  | rounds + 1, outcome => do
    let now ← clock
    let claimed ← consult (.claimDueAction now (later now leaseMillis)) (fromRepository "moderation.expire_due_actions")
    match claimed with
    | none => pure outcome
    | some claim => do
      let step ← expireAction parseUuid claim.action now
      let (outcome, homeserverDown) ← settleClaim claim now outcome step
      if homeserverDown then pure outcome else expireClaims rounds outcome

def expireDueActions : ModerationProgram ModerationExpiryOutcome := expireClaims parseUuid claimsPerRound ⟨0, []⟩

end

end AgentRoom.Moderation
