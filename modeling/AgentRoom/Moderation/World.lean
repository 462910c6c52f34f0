import AgentRoom.Lobby.World
import AgentRoom.Moderation.Ending
import Mathlib.Data.List.Sort

namespace AgentRoom.Moderation

open Library
open Lobby (LobbyAnswer LobbyAnswers LobbyCall LobbyWorld RoomInstance RoomProvisioningJob RoomProvisioningLeaseId)

inductive ModerationEvent where
  | inspected (id : ModerationActionId) (target : ModerationTarget) (rooms : List MatrixRoomId)
  | reserved (id : ModerationActionId) (rooms : List MatrixRoomId)
  | asked (action : ModerationAction)
  | looked (action : ModerationAction) (now : UtcMillis)
  | recorded (id : ModerationActionId)
  | effect (lifts : Bool) (place : EffectPlace) (action : ModerationAction)
  | carriedRead (lease : RoomProvisioningLeaseId) (room : MatrixRoomId) (now : UtcMillis)
  | published (lease : RoomProvisioningLeaseId) (room : MatrixRoomId)
deriving DecidableEq

structure LedgerRow where
  action : ModerationAction
  expiryAttempts : Nat
  expiryNextAttemptAt : Option UtcMillis
  expiryFailureCode : Option String

-- The key of the lock: a person is the same however it is written.
inductive MuteLockKey where
  | person (principal : PrincipalId)
  | reference (text : String)
deriving DecidableEq

structure ModerationWorld where
  now : UtcMillis
  catalogId : RoomCatalogId
  roomKind : RoomCatalogKind
  lobby : LobbyWorld
  ledger : List LedgerRow
  locks : List MuteLockKey
  log : List ModerationEvent

def openIn (catalogId : RoomCatalogId) (room : RoomInstance) : Bool := decide (room.catalogId = catalogId ∧ room.state = .active)

-- ORDER BY allocated_slots DESC; the rest of the order is that of their creation.
def shardsOf (catalogId : RoomCatalogId) (lobby : LobbyWorld) : List MatrixRoomId :=
  ((lobby.store.rooms.filter (openIn catalogId)).insertionSort fun first second => second.allocatedSlots ≤ first.allocatedSlots).map
    RoomInstance.matrixRoomId

namespace ModerationWorld

variable (world : ModerationWorld)

def shards : List MatrixRoomId := shardsOf world.catalogId world.lobby

def note (event : ModerationEvent) : ModerationWorld := { world with log := world.log ++ [event] }

def find (id : ModerationActionId) : Option LedgerRow := world.ledger.find? fun row => decide (row.action.id = id)

def change (id : ModerationActionId) (update : LedgerRow → LedgerRow) : ModerationWorld :=
  { world with ledger := world.ledger.map fun row => if row.action.id = id then update row else row }

def actions : List ModerationAction := world.ledger.map LedgerRow.action

def reserve (action : ModerationAction) (rooms : List MatrixRoomId) : ModerationWorld :=
  ({ world with ledger := world.ledger ++ [⟨action, 0, none, none⟩] } : ModerationWorld).note (.reserved action.id rooms)

def opened (job : RoomProvisioningJob) (room : RoomInstance) (lobby : LobbyWorld) : ModerationWorld :=
  if openIn world.catalogId room then ({ world with lobby } : ModerationWorld).note (.published job.leaseId room.matrixRoomId) else { world with lobby }

end ModerationWorld

-- What the database does with an action's new state: the row it leaves.
inductive Finalized (current action : ModerationAction) : Option ModerationAction → Prop where
  | unchanged (same : ModerationAction.SameIdentity current action) (settled : current.status = action.status)
      (code : current.failureCode = action.failureCode) (ended : current.reversedAt = action.reversedAt) : Finalized current action none
  | written (same : ModerationAction.SameIdentity current action)
      (transition : (current.status = .pending ∧ (action.status = .applied ∨ action.status = .failed)) ∨
        (current.status = .applied ∧ action.status = .reversed)) :
      Finalized current action
        (some { current with status := action.status, failureCode := action.failureCode, reversedAt := action.reversedAt })

section

variable (parseUuid : String → Option PrincipalId) (accounts : PrincipalId → Bool) (homes : String → Option MatrixRoomId)
variable (world : ModerationWorld)

def muteLockKey (target : ModerationTarget) : MuteLockKey :=
  (principalReference parseUuid target).elim (.reference target.reference) .person

def targetKnown (target : ModerationTarget) : Bool := (principalReference parseUuid target).any accounts

def Seen {ε α : Type} (value : α) (answer : Except ε α) : Prop := ∀ found, answer = .ok found → found = value

def Written {ε α : Type} (possible : α → Prop) (written : ModerationWorld) (answer : Except ε α) (next : ModerationWorld) : Prop :=
  (next = written ∧ ∀ value, answer = .ok value → possible value) ∨ (next = world ∧ ∃ error, answer = .error error)

def inspection (target : ModerationTarget) : Option (RoomCatalogKind × List MatrixRoomId × Bool) :=
  if world.shards.isEmpty then none
  else if target.kind = .principal ∧ targetKnown parseUuid accounts target = false then none
  else some (world.roomKind, world.shards, targetKnown parseUuid accounts target)

def Inspects (id : ModerationActionId) (target : ModerationTarget) (answer : Except RepositoryErrorKind (Option ModerationRoomContext))
    (next : ModerationWorld) : Prop :=
  next = world.note (.inspected id target world.shards) ∧ ∀ context, answer = .ok (some context) →
    inspection parseUuid accounts world target = some (context.roomKind, context.matrixRoomIds, context.hasMatrixUser)

def Reserves (action : ModerationAction) (rooms : List MatrixRoomId)
    (answer : Except RepositoryErrorKind ModerationActionReservationOutcome) (next : ModerationWorld) : Prop :=
  match world.find action.id with
  | none => Written world (fun outcome => outcome = .reserved action) (world.reserve action rooms) answer next
  | some row => next = world ∧ ∀ outcome, answer = .ok outcome →
      outcome = .existing row.action ∧ ModerationAction.SameIdentity row.action action

def Finalizes (action : ModerationAction) (answer : Except RepositoryErrorKind ModerationAction) (next : ModerationWorld) : Prop :=
  (∃ row left, world.find action.id = some row ∧ Finalized row.action action (some left) ∧
      next = (if left.status = .applied then (world.change action.id ({ · with action := left })).note (.recorded action.id)
        else world.change action.id ({ · with action := left })) ∧ ∀ value, answer = .ok value → value = left) ∨
    (∃ row, world.find action.id = some row ∧ Finalized row.action action none ∧ next = world ∧
      ∀ value, answer = .ok value → value = row.action) ∨
    (next = world ∧ ∃ error, answer = .error error)

def claimable (now : UtcMillis) (row : LedgerRow) : Bool :=
  row.action.isDueAt now && row.expiryNextAttemptAt.all fun retryAt => decide (retryAt ≤ now)

def Claims (now leaseUntil : UtcMillis) (answer : Except RepositoryErrorKind (Option ModerationExpiryClaim)) (next : ModerationWorld) : Prop :=
  (∃ row ∈ world.ledger, claimable now row = true ∧
      next = world.change row.action.id (fun row =>
        { row with expiryAttempts := row.expiryAttempts + 1, expiryNextAttemptAt := some leaseUntil }) ∧
      ∀ found, answer = .ok found → found = some ⟨row.action, row.expiryAttempts + 1, row.expiryFailureCode⟩) ∨
    (next = world ∧ ∀ found, answer = .ok found → found = none)

def rescheduled (claim : ModerationExpiryClaim) (reschedule : ModerationExpiryReschedule) (row : LedgerRow) : LedgerRow :=
  if row.action.status = .applied ∧ row.expiryAttempts = claim.attempt then
    match reschedule with
    | .retry retryAt failureCode => { row with expiryNextAttemptAt := some retryAt, expiryFailureCode := some failureCode }
    | .defer retryAt => { row with expiryNextAttemptAt := some retryAt, expiryAttempts := row.expiryAttempts - 1 }
  else row

def hasOtherEffective (action : ModerationAction) (now : UtcMillis) : Bool :=
  world.actions.any fun other => decide (other.id ≠ action.id) && other.isEffectiveAt now && sameConcern parseUuid action other

def Looks (action : ModerationAction) (now : UtcMillis) (answer : Except RepositoryErrorKind Bool) (next : ModerationWorld) : Prop :=
  Seen (hasOtherEffective parseUuid world action now) answer ∧
    next = if answer = .ok false then world.note (.looked action now) else world

def byStart (first second : ModerationAction) : Bool :=
  decide (first.startsAt < second.startsAt ∨ (first.startsAt = second.startsAt ∧ first.id.uuid ≤ second.id.uuid))

def standingActions (now : UtcMillis) : List ModerationAction :=
  (world.actions.filter fun action => decide (action.kind = .mute ∨ action.kind = .ban) && action.isEffectiveAt now &&
    (parseUuid action.target.reference).any accounts).insertionSort (byStart · ·)

def personMutes (target : ModerationTarget) : List ModerationAction :=
  (world.actions.filter fun action => decide (action.kind = .mute) && decide (action.status = .applied ∨ action.status = .pending) &&
    sameTarget parseUuid target action.target.reference).insertionSort (byStart · ·)

def LobbyServes : (call : LobbyCall) → LobbyAnswer call → ModerationWorld → Prop
  | .clock, answer, next => answer = world.now ∧ next = world
  | .standingPersonActions job room now, answer, next =>
    if job.catalog.id = world.catalogId then
      Seen (standingActions parseUuid accounts world now) answer ∧ next = world.note (.carriedRead job.leaseId room now)
    else next = world
  | .applyEffect action room, answer, next => Written world (fun _ => True) (world.note (.effect false (.room room) action)) answer next
  | .completeInstance job room now, answer, next =>
    (∃ store, world.lobby.store.completeInstance job room now = .ok store ∧
        next = world.opened job room (world.lobby.wrote store [.completed job room.matrixRoomId now])) ∨
      (next = world ∧ ∃ error, answer = .error error)
  | call, answer, next => ∃ lobby, LobbyAnswers world.lobby call answer lobby ∧ next = { world with lobby }

def PortAnswers : (call : PortCall) → PortAnswer call → ModerationWorld → Prop
  | .clock, answer, next => answer = world.now ∧ next = world
  | .inspectRoom id _ target, answer, next => Inspects parseUuid accounts world id target answer next
  | .findCase _, _, next => next = world
  | .containsEvent room reference, answer, next => Seen (decide (homes reference = some room)) answer ∧ next = world
  | .checkMembers _ _, _, next => next = world
  | .reserveAction action rooms, answer, next => Reserves world action rooms answer next
  | .effect lifts place action, answer, next => Written world (fun _ => True) (world.note (.effect lifts place action)) answer next
  | .findAction id, answer, next =>
    Seen ((world.find id).map LedgerRow.action) answer ∧
      next = match world.find id with
        | some row => world.note (.asked row.action)
        | none => world
  | .finalizeAction action, answer, next => Finalizes world action answer next
  | .appendAudit _ _, _, next => next = world
  | .claimDueAction now leaseUntil, answer, next => Claims world now leaseUntil answer next
  | .rescheduleExpiry claim reschedule, _, next =>
    next = world ∨ next = world.change claim.action.id (rescheduled claim reschedule)
  | .hasOtherEffectiveAction action now, answer, next => Looks parseUuid world action now answer next
  | .expiryRoom action, answer, next => next = world ∧ ∀ context, answer = .ok (some context) →
      context.roomKind = world.roomKind ∧ context.matrixRoomIds = world.shards ∧
        context.hasMatrixUser = targetKnown parseUuid accounts action.target
  | .tryLockMutes target, answer, next =>
    (next = { world with locks := muteLockKey parseUuid target :: world.locks } ∧ muteLockKey parseUuid target ∉ world.locks ∧
        ∀ locked, answer = .ok locked → locked = true) ∨
      (next = world ∧ ∀ locked, answer = .ok locked → locked = false)
  | .releaseMutes target, _, next => next = { world with locks := world.locks.erase (muteLockKey parseUuid target) }
  | .muteRoom target, answer, next => next = world ∧ ∀ room, answer = .ok (some room) →
      room.roomKind = world.roomKind ∧ room.matrixRoomIds = world.shards ∧ room.hasMatrixUser = targetKnown parseUuid accounts target
  | .personMutes target, answer, next => Seen (personMutes parseUuid world target) answer ∧ next = world
  | .lobby call, answer, next => LobbyServes parseUuid accounts world call answer next

inductive WorldMoves : ModerationWorld → Prop where
  | ticks (now : UtcMillis) (onward : world.now ≤ now) : WorldMoves { world with now }
  | drops (key : MuteLockKey) : WorldMoves { world with locks := world.locks.erase key }
  -- Agents come and go; a room of this catalog that is open stays so.
  | elsewhere (lobby : LobbyWorld) (moved : Lobby.Elsewhere world.lobby lobby)
      (open' : (shardsOf world.catalogId lobby).Perm world.shards) : WorldMoves { world with lobby }

end

def moderationEnvironment (parseUuid : String → Option PrincipalId) (accounts : PrincipalId → Bool) (homes : String → Option MatrixRoomId) :
    Environment ModerationWorld PortCall PortAnswer where
  answers := PortAnswers parseUuid accounts homes
  moves := WorldMoves

-- A homeserver and a database that do what they are asked; new shards get this room.
section

variable (parseUuid : String → Option PrincipalId) (accounts : PrincipalId → Bool) (homes : String → Option MatrixRoomId)
variable (place : MatrixRoomId) (world : ModerationWorld)

def obligingInspection (target : ModerationTarget) : Option ModerationRoomContext :=
  (inspection parseUuid accounts world target).map fun read => ⟨.platformModerator, read.1, read.2.1, read.2.2⟩

def finalizable (current action : ModerationAction) : Prop :=
  ModerationAction.SameIdentity current action ∧
    ((current.status = .pending ∧ (action.status = .applied ∨ action.status = .failed)) ∨
      (current.status = .applied ∧ action.status = .reversed))

instance (current action : ModerationAction) : Decidable (finalizable current action) := inferInstanceAs (Decidable (_ ∧ _))

def obligingFinalize (action : ModerationAction) : Except RepositoryErrorKind ModerationAction × ModerationWorld :=
  match world.find action.id with
  | none => (.error .notFound, world)
  | some row =>
    if finalizable row.action action then
      let left := { row.action with status := action.status, failureCode := action.failureCode, reversedAt := action.reversedAt }
      (.ok left, if left.status = .applied then (world.change action.id ({ · with action := left })).note (.recorded action.id)
        else world.change action.id ({ · with action := left }))
    else (.error .conflict, world)

def obligingReserve (action : ModerationAction) (rooms : List MatrixRoomId) :
    Except RepositoryErrorKind ModerationActionReservationOutcome × ModerationWorld :=
  match world.find action.id with
  | none => (.ok (.reserved action), world.reserve action rooms)
  | some row => (if ModerationAction.SameIdentity row.action action then .ok (.existing row.action) else .error .conflict, world)

def obligingLook (action : ModerationAction) (now : UtcMillis) : Except RepositoryErrorKind Bool × ModerationWorld :=
  if hasOtherEffective parseUuid world action now then (.ok true, world) else (.ok false, world.note (.looked action now))

def obligingLobby : (call : LobbyCall) → LobbyAnswer call × ModerationWorld
  | .clock => (world.now, world)
  | .standingPersonActions job room now =>
    if job.catalog.id = world.catalogId then
      (.ok (standingActions parseUuid accounts world now), world.note (.carriedRead job.leaseId room now))
    else (.ok [], world)
  | .applyEffect action room => (.ok (), world.note (.effect false (.room room) action))
  | .completeInstance job room now =>
    match world.lobby.store.completeInstance job room now with
    | .ok store => (.ok (), world.opened job room (world.lobby.wrote store [.completed job room.matrixRoomId now]))
    | .error failure => (.error failure, world)
  | call => ((Lobby.oblige world.lobby world.now place call).1, { world with lobby := (Lobby.oblige world.lobby world.now place call).2 })

def oblige : (call : PortCall) → PortAnswer call × ModerationWorld
  | .clock => (world.now, world)
  | .inspectRoom id _ target => (.ok (obligingInspection parseUuid accounts world target), world.note (.inspected id target world.shards))
  | .findCase _ => (.ok none, world)
  | .containsEvent room reference => (.ok (decide (homes reference = some room)), world)
  | .checkMembers _ _ => (.ok none, world)
  | .reserveAction action rooms => obligingReserve world action rooms
  | .effect lifts place action => (.ok (), world.note (.effect lifts place action))
  | .findAction id => (.ok ((world.find id).map LedgerRow.action), match world.find id with
      | some row => world.note (.asked row.action)
      | none => world)
  | .finalizeAction action => obligingFinalize world action
  | .appendAudit _ _ => (.ok (), world)
  | .claimDueAction _ _ => (.ok none, world)
  | .rescheduleExpiry _ _ => (.ok false, world)
  | .hasOtherEffectiveAction action now => obligingLook parseUuid world action now
  | .expiryRoom _ | .muteRoom _ => (.ok none, world)
  | .tryLockMutes _ => (.ok false, world)
  | .releaseMutes target => ((), { world with locks := world.locks.erase (muteLockKey parseUuid target) })
  | .personMutes target => (.ok (personMutes parseUuid world target), world)
  | .lobby call => obligingLobby parseUuid accounts place world call

theorem oblige_inspects (id : ModerationActionId) (target : ModerationTarget) :
    Inspects parseUuid accounts world id target (.ok (obligingInspection parseUuid accounts world target))
      (world.note (.inspected id target world.shards)) := by
  refine ⟨rfl, fun context read => ?_⟩
  cases inspected : inspection parseUuid accounts world target with
  | none => simp [obligingInspection, inspected] at read
  | some found =>
    simp only [obligingInspection, inspected, Option.map_some, Except.ok.injEq, Option.some.injEq] at read
    rw [← read]

variable {action : ModerationAction}

theorem oblige_reserves (rooms : List MatrixRoomId) :
    Reserves world action rooms (obligingReserve world action rooms).1 (obligingReserve world action rooms).2 := by
  unfold Reserves obligingReserve
  cases found : world.find action.id with
  | none => exact .inl ⟨rfl, fun outcome ok => (Except.ok.inj ok).symm⟩
  | some row =>
    refine ⟨rfl, fun outcome ok => ?_⟩
    by_cases same : ModerationAction.SameIdentity row.action action
    · simp only [if_pos same, Except.ok.injEq] at ok
      exact ⟨ok.symm, same⟩
    · simp [if_neg same] at ok

theorem oblige_finalizes : Finalizes world action (obligingFinalize world action).1 (obligingFinalize world action).2 := by
  unfold obligingFinalize
  cases found : world.find action.id with
  | none => exact .inr (.inr ⟨rfl, _, rfl⟩)
  | some row =>
    by_cases may : finalizable row.action action
    · simp only [if_pos may]
      exact .inl ⟨row, _, found, .written may.1 may.2, rfl, fun value ok => (Except.ok.inj ok).symm⟩
    · simp only [if_neg may]
      exact .inr (.inr ⟨rfl, _, rfl⟩)

theorem oblige_looks (now : UtcMillis) :
    Looks parseUuid world action now (obligingLook parseUuid world action now).1 (obligingLook parseUuid world action now).2 := by
  unfold obligingLook Looks
  cases hasOtherEffective parseUuid world action now with
  | true => exact ⟨fun found ok => (Except.ok.inj ok).symm, by simp⟩
  | false => exact ⟨fun found ok => (Except.ok.inj ok).symm, by simp⟩

theorem oblige_serves (call : LobbyCall) : LobbyServes parseUuid accounts world call
    (obligingLobby parseUuid accounts place world call).1 (obligingLobby parseUuid accounts place world call).2 := by
  cases call with
  | clock => exact ⟨rfl, rfl⟩
  | standingPersonActions job room now =>
    by_cases ours : job.catalog.id = world.catalogId
    · simp only [LobbyServes, obligingLobby, if_pos ours]
      exact ⟨fun found ok => (Except.ok.inj ok).symm, trivial⟩
    · simp only [LobbyServes, obligingLobby, if_neg ours]
  | applyEffect action room => exact .inl ⟨rfl, fun _ _ => trivial⟩
  | completeInstance job room now =>
    simp only [LobbyServes, obligingLobby]
    cases done : world.lobby.store.completeInstance job room now with
    | ok store => exact .inl ⟨store, rfl, rfl⟩
    | error failure => exact .inr ⟨rfl, failure, rfl⟩
  | _ => exact ⟨_, Lobby.oblige_answers world.lobby world.now place _, rfl⟩

theorem oblige_answers (call : PortCall) : PortAnswers parseUuid accounts homes world call
    (oblige parseUuid accounts homes place world call).1 (oblige parseUuid accounts homes place world call).2 := by
  cases call with
  | clock => exact ⟨rfl, rfl⟩
  | inspectRoom id actor target => exact oblige_inspects parseUuid accounts world id target
  | findCase | checkMembers | appendAudit => exact rfl
  | containsEvent room reference => exact ⟨fun found ok => (Except.ok.inj ok).symm, rfl⟩
  | reserveAction action rooms => exact oblige_reserves world rooms
  | effect lifts place action => exact .inl ⟨rfl, fun _ _ => trivial⟩
  | findAction id => exact ⟨fun found ok => (Except.ok.inj ok).symm, rfl⟩
  | finalizeAction action => exact oblige_finalizes world
  | claimDueAction now leaseUntil => exact .inr ⟨rfl, fun found ok => (Except.ok.inj ok).symm⟩
  | rescheduleExpiry claim reschedule => exact .inl rfl
  | hasOtherEffectiveAction action now => exact oblige_looks parseUuid world now
  | expiryRoom action => exact ⟨rfl, fun context ok => by cases Except.ok.inj ok⟩
  | muteRoom target => exact ⟨rfl, fun room ok => by cases Except.ok.inj ok⟩
  | personMutes target => exact ⟨fun found ok => (Except.ok.inj ok).symm, rfl⟩
  | tryLockMutes target => exact .inr ⟨rfl, fun locked ok => (Except.ok.inj ok).symm⟩
  | releaseMutes target => exact rfl
  | lobby call => exact oblige_serves parseUuid accounts place world call

end

end AgentRoom.Moderation
