import AgentRoom.Library.Sequential
import AgentRoom.Lobby.Service

namespace AgentRoom.Lobby

open Library

inductive LobbyEvent where
  | handed (job : RoomProvisioningJob)
  | checkpointed (job : RoomProvisioningJob) (room : MatrixRoomReference) (now : UtcMillis)
  | completed (job : RoomProvisioningJob) (room : MatrixRoomReference) (now : UtcMillis)
  | released (job : RoomProvisioningJob) (now : UtcMillis)

structure LobbyWorld where
  store : LobbyStore
  directory : List (MatrixRoomAliasLocalpart × MatrixRoomReference)
  issued : List Nat
  log : List LobbyEvent

namespace LobbyWorld

variable (world : LobbyWorld)

def wrote (store : LobbyStore) (events : List LobbyEvent) : LobbyWorld := { world with store, log := world.log ++ events }

def resolves (aliasLocalpart : MatrixRoomAliasLocalpart) : Option MatrixRoomReference :=
  (world.directory.find? fun entry => decide (entry.1 = aliasLocalpart)).map Prod.snd

def opened (aliasLocalpart : MatrixRoomAliasLocalpart) (room : MatrixRoomReference) : LobbyWorld :=
  { world with directory := world.directory ++ [(aliasLocalpart, room)] }

end LobbyWorld

-- The lease of the claim has been handed to nobody, and its new room is none that is there.
def LobbyWorld.unused (world : LobbyWorld) (claim : RoomProvisioningClaim) : Bool :=
  (world.log.all fun event => match event with
    | .handed job => decide (job.leaseId ≠ claim.leaseId)
    | _ => true) &&
    world.store.rooms.all fun room => decide (claim.target.roomInstanceId ≠ some room.id)

def handedOut : RoomProvisioningClaimOutcome → List LobbyEvent
  | .claimed job => [.handed job]
  | _ => []

def Transacts {α : Type} (world : LobbyWorld) (result : Except RepositoryErrorKind (α × LobbyStore)) (events : α → List LobbyEvent)
    (answer : Except RepositoryErrorKind α) (next : LobbyWorld) : Prop :=
  (∃ value store, result = .ok (value, store) ∧ next = world.wrote store (events value) ∧
      (answer = .ok value ∨ ∃ error, answer = .error error)) ∨
    (next = world ∧ ∃ error, answer = .error error)

theorem transacts_ok {world final : LobbyWorld} {result : Except RepositoryErrorKind (α × LobbyStore)}
    {answer : Except RepositoryErrorKind α} (transacts : Transacts world result events answer final)
    (ok : answer = .ok value) : ∃ store, result = .ok (value, store) ∧ final = world.wrote store (events value) := by
  rcases transacts with ⟨found, store, made, rfl, same | ⟨error, failed⟩⟩ | ⟨_, error, failed⟩
  · cases same.symm.trans ok
    exact ⟨store, made, rfl⟩
  · cases failed.symm.trans ok
  · cases failed.symm.trans ok

def withoutValue (result : Except RepositoryErrorKind LobbyStore) : Except RepositoryErrorKind (Unit × LobbyStore) :=
  result.map fun store => ((), store)

theorem without_value_ok (made : withoutValue result = .ok (value, store)) : result = .ok store := by
  cases result with
  | error failure => cases made
  | ok found =>
    cases made
    rfl

def Creates (world : LobbyWorld) (aliasLocalpart : MatrixRoomAliasLocalpart) (answer : Except MatrixFailureKind MatrixRoomReference)
    (next : LobbyWorld) : Prop :=
  (∃ room, world.resolves aliasLocalpart = none ∧ (∀ entry ∈ world.directory, entry.2 ≠ room) ∧
      (∀ other ∈ world.store.rooms, other.matrixRoomId ≠ room) ∧ next = world.opened aliasLocalpart room ∧
      (answer = .ok room ∨ ∃ error, answer = .error error)) ∨
    (next = world ∧ ∃ error, answer = .error error)

def LobbyAnswers (world : LobbyWorld) : (call : LobbyCall) → LobbyAnswer call → LobbyWorld → Prop
  | .clock, _, next => next = world
  | .newId, id, next => id ∉ world.issued ∧ next = { world with issued := id :: world.issued }
  -- The ids of a claim are drawn for it alone.
  | .claimProvisioning claim, answer, next => Transacts world (world.store.claimRoomProvisioning claim) handedOut answer next ∧
      (next = world ∨ world.unused claim = true)
  | .checkpointMatrixRoom job room now, answer, next =>
    Transacts world (withoutValue (world.store.checkpointMatrixRoom job room now)) (fun _ => [.checkpointed job room now]) answer next
  | .completeSpace job space now, answer, next =>
    Transacts world (world.store.completeSpace job space now) (fun _ => [.completed job space now]) answer next
  | .completeInstance job room now, answer, next =>
    Transacts world (withoutValue (world.store.completeInstance job room now))
      (fun _ => [.completed job room.matrixRoomId now]) answer next
  | .releaseProvisioning job _ now, answer, next =>
    Transacts world (withoutValue (world.store.releaseProvisioning job now)) (fun _ => [.released job now]) answer next
  | .createRoom _ aliasLocalpart, answer, next => Creates world aliasLocalpart answer next
  | .resolveRoomAlias aliasLocalpart, answer, next =>
    (∀ room, answer = .ok room → world.resolves aliasLocalpart = some room) ∧ next = world
  | .attachChild _ _, _, next | .applyEffect _ _, _, next | .joinRoom _, _, next | .leaveRoom _, _, next |
    .standingPersonActions _ _ _, _, next => next = world
  | .reserve claim, answer, next => Transacts world (world.store.reserveRoom claim) (fun _ => []) answer next
  | .transition id expected target now, answer, next =>
    Transacts world (world.store.transitionReservation id expected target now) (fun _ => []) answer next

-- Meanwhile slots are given back, rooms and catalogs change their state, and so on;
-- the jobs, the spaces and the rooms' places stay.
structure Elsewhere (world next : LobbyWorld) : Prop where
  jobs : next.store.jobs = world.store.jobs
  spaces : next.store.catalogs.map (fun catalog => (catalog.id, catalog.matrixSpaceId)) =
    world.store.catalogs.map fun catalog => (catalog.id, catalog.matrixSpaceId)
  rooms : next.store.rooms.map (fun room => (room.id, room.matrixRoomId)) =
    world.store.rooms.map fun room => (room.id, room.matrixRoomId)
  directory : next.directory = world.directory
  issued : next.issued = world.issued
  log : next.log = world.log

def lobbyEnvironment : Environment LobbyWorld LobbyCall LobbyAnswer where
  answers := LobbyAnswers
  moves := Elsewhere

section

variable (world : LobbyWorld) (now : UtcMillis) (place : MatrixRoomReference)

def obligingTransaction {α : Type} (result : Except RepositoryErrorKind (α × LobbyStore)) (events : α → List LobbyEvent) :
    Except RepositoryErrorKind α × LobbyWorld :=
  match result with
  | .ok (value, store) => (.ok value, world.wrote store (events value))
  | .error failure => (.error failure, world)

def obligingCreate (aliasLocalpart : MatrixRoomAliasLocalpart) : Except MatrixFailureKind MatrixRoomReference × LobbyWorld :=
  if world.resolves aliasLocalpart = none ∧ (∀ entry ∈ world.directory, entry.2 ≠ place) ∧
      ∀ other ∈ world.store.rooms, other.matrixRoomId ≠ place then (.ok place, world.opened aliasLocalpart place)
  else (.error .conflict, world)

def obligingClaim (claim : RoomProvisioningClaim) : Except RepositoryErrorKind RoomProvisioningClaimOutcome × LobbyWorld :=
  if world.unused claim then obligingTransaction world (world.store.claimRoomProvisioning claim) handedOut
  else (.error .conflict, world)

def oblige : (call : LobbyCall) → LobbyAnswer call × LobbyWorld
  | .clock => (now, world)
  | .newId => (world.issued.foldl max 0 + 1, { world with issued := (world.issued.foldl max 0 + 1) :: world.issued })
  | .claimProvisioning claim => obligingClaim world claim
  | .checkpointMatrixRoom job room at' =>
    obligingTransaction world (withoutValue (world.store.checkpointMatrixRoom job room at')) fun _ => [.checkpointed job room at']
  | .completeSpace job space at' => obligingTransaction world (world.store.completeSpace job space at') fun _ => [.completed job space at']
  | .completeInstance job room at' =>
    obligingTransaction world (withoutValue (world.store.completeInstance job room at')) fun _ => [.completed job room.matrixRoomId at']
  | .releaseProvisioning job _ at' =>
    obligingTransaction world (withoutValue (world.store.releaseProvisioning job at')) fun _ => [.released job at']
  | .createRoom _ aliasLocalpart => obligingCreate world place aliasLocalpart
  | .resolveRoomAlias aliasLocalpart => (match world.resolves aliasLocalpart with
      | some room => .ok room
      | none => .error .notFound, world)
  | .attachChild _ _ | .applyEffect _ _ | .joinRoom _ | .leaveRoom _ => (.ok (), world)
  | .standingPersonActions _ _ _ => (.ok [], world)
  | .reserve claim => obligingTransaction world (world.store.reserveRoom claim) fun _ => []
  | .transition id expected target at' => obligingTransaction world (world.store.transitionReservation id expected target at') fun _ => []

theorem oblige_transacts :
    Transacts world result events (obligingTransaction world result events).1 (obligingTransaction world result events).2 := by
  cases result with
  | ok made => exact .inl ⟨made.1, made.2, rfl, rfl, .inl rfl⟩
  | error failure => exact .inr ⟨rfl, failure, rfl⟩

theorem fresh_id {issued : List Nat} : issued.foldl max 0 + 1 ∉ issued := by
  intro listed
  have below : ∀ (list : List Nat) (start : Nat), start ≤ list.foldl max start ∧ ∀ id ∈ list, id ≤ list.foldl max start := by
    intro list
    induction list with
    | nil => exact fun start => ⟨Nat.le_refl _, nofun⟩
    | cons first rest ih =>
      intro start
      obtain ⟨above, others⟩ := ih (max start first)
      refine ⟨Nat.le_trans (Nat.le_max_left ..) above, fun id there => ?_⟩
      rcases List.mem_cons.mp there with rfl | later
      · exact Nat.le_trans (Nat.le_max_right ..) above
      · exact others id later
  exact absurd ((below issued 0).2 _ listed) (Nat.not_succ_le_self _)

theorem oblige_answers (call : LobbyCall) : LobbyAnswers world call (oblige world now place call).1 (oblige world now place call).2 := by
  cases call with
  | clock | attachChild | standingPersonActions | applyEffect | joinRoom | leaveRoom => exact rfl
  | newId => exact ⟨fresh_id, rfl⟩
  | claimProvisioning claim =>
    change Transacts world _ handedOut (obligingClaim world claim).1 (obligingClaim world claim).2 ∧
      ((obligingClaim world claim).2 = world ∨ _)
    unfold obligingClaim
    by_cases unused : world.unused claim = true
    · rw [if_pos unused]
      exact ⟨oblige_transacts world, .inr unused⟩
    · rw [if_neg unused]
      exact ⟨.inr ⟨rfl, _, rfl⟩, .inl rfl⟩
  | checkpointMatrixRoom | completeSpace | completeInstance | releaseProvisioning | reserve | transition =>
    exact oblige_transacts world
  | createRoom kind aliasLocalpart =>
    change Creates world aliasLocalpart (obligingCreate world place aliasLocalpart).1 (obligingCreate world place aliasLocalpart).2
    unfold obligingCreate
    split
    · rename_i fresh
      exact .inl ⟨place, fresh.1, fresh.2.1, fresh.2.2, rfl, .inl rfl⟩
    · exact .inr ⟨rfl, _, rfl⟩
  | resolveRoomAlias aliasLocalpart =>
    refine ⟨fun room answered => ?_, rfl⟩
    simp only [oblige] at answered
    split at answered
    · rename_i found
      rw [found, Except.ok.inj answered]
    · cases answered

end

end AgentRoom.Lobby
