import AgentRoom.Library.Sequential
import AgentRoom.PrivateRoom.Service
import Mathlib.Logic.Function.Basic

namespace AgentRoom.PrivateRooms

open Library

structure MatrixRoom where
  members : RoomUser → Option PrivateMatrixMembership
  speaks : RoomUser → Bool

namespace MatrixRoom

variable (matrix : MatrixRoom) (user : RoomUser)

def put (membership : PrivateMatrixMembership) : MatrixRoom :=
  { matrix with members := Function.update matrix.members user (some membership) }

def invite : MatrixRoom := if isInRoom (matrix.members user) then matrix else matrix.put user .invited

def kick : MatrixRoom :=
  match matrix.members user with
  | none | some .left | some .banned => matrix
  | some .invited | some .joined | some .knocked => matrix.put user .left

def ban : MatrixRoom := matrix.put user .banned

def unban : MatrixRoom := if matrix.members user = some .banned then matrix.put user .left else matrix

def allow (allowed : Bool) : MatrixRoom := { matrix with speaks := Function.update matrix.speaks user allowed }

end MatrixRoom

structure RoomWorld where
  room : PrivateRoom
  matrix : MatrixRoom

-- Who has an account of their own, and whose agents are whose: an agent may have
-- several owners.
structure Directory where
  hasAccount : PrincipalId → Bool
  agents : PrincipalId → List AgentId

section

variable (directory : Directory) (world : RoomWorld)

def onMatrix (change : MatrixRoom → MatrixRoom) : RoomWorld := { world with matrix := change world.matrix }

def Reads {ε α : Type} (value : α) (answer : Except ε α) (next : RoomWorld) : Prop :=
  next = world ∧ ∀ found, answer = .ok found → found = value

def Writes {ε : Type} (possible : Prop) (written : RoomWorld) (answer : Except ε Unit) (next : RoomWorld) : Prop :=
  (possible ∧ next = written) ∨ (next = world ∧ ∃ error, answer = .error error)

-- The version decides whether a save is taken.
def saves (room : PrivateRoom) (expected : AggregateVersion) : Prop := expected.next = .ok room.version ∧ world.room.version = expected

def RoomAnswers : (call : RoomCall) → RoomAnswer call → RoomWorld → Prop
  | .findByCatalog, answer, next => Reads world (some world.room) answer next
  | .matrixUserId principal, answer, next =>
    Reads world (if directory.hasAccount principal then some (.person principal) else none) answer next
  | .agentMatrixUsers principal, answer, next => Reads world ((directory.agents principal).map .agent) answer next
  | .membership user, answer, next => Reads world (world.matrix.members user) answer next
  | .invite user, answer, next =>
    Writes world (world.matrix.members user ≠ some .banned) (onMatrix world (·.invite user)) answer next
  | .kick user, answer, next => Writes world True (onMatrix world (·.kick user)) answer next
  | .ban user, answer, next => Writes world True (onMatrix world (·.ban user)) answer next
  | .unban user, answer, next => Writes world True (onMatrix world (·.unban user)) answer next
  | .setSpeaking user allowed, answer, next => Writes world True (onMatrix world (·.allow user allowed)) answer next
  | .save room expected, answer, next => Writes world (saves world room expected) { world with room } answer next
  | .saveTransferredRoom room expected, answer, next =>
    (saves world room expected ∧ next = { world with room } ∧ ∀ outcome, answer = .ok outcome → outcome = .saved) ∨
      (next = world ∧ ∀ outcome, answer = .ok outcome → outcome = .ownerLimitReached)
  -- Archiving raises what it takes to speak, and leaves everybody's own level.
  | .archive, _, next | .listed, _, next => next = world
  | .listedRoomsOwnedBy _, _, next => next = world

-- What users do by themselves: take an invitation up, or go.
inductive UserMoves : RoomWorld → Prop where
  | joins (user : RoomUser) (invited : world.matrix.members user = some .invited) : UserMoves (onMatrix world (·.put user .joined))
  | goes (user : RoomUser) (here : isInRoom (world.matrix.members user) = true) : UserMoves (onMatrix world (·.put user .left))

end

instance (world : RoomWorld) (room : PrivateRoom) (expected : AggregateVersion) : Decidable (saves world room expected) :=
  inferInstanceAs (Decidable (_ ∧ _))

def oblige (directory : Directory) (world : RoomWorld) : (call : RoomCall) → RoomAnswer call × RoomWorld
  | .findByCatalog => (.ok (some world.room), world)
  | .matrixUserId principal => (.ok (if directory.hasAccount principal then some (.person principal) else none), world)
  | .agentMatrixUsers principal => (.ok ((directory.agents principal).map .agent), world)
  | .membership user => (.ok (world.matrix.members user), world)
  | .invite user =>
    if world.matrix.members user = some .banned then (.error .forbidden, world) else (.ok (), onMatrix world (·.invite user))
  | .kick user => (.ok (), onMatrix world (·.kick user))
  | .ban user => (.ok (), onMatrix world (·.ban user))
  | .unban user => (.ok (), onMatrix world (·.unban user))
  | .setSpeaking user allowed => (.ok (), onMatrix world (·.allow user allowed))
  | .save room expected => if saves world room expected then (.ok (), { world with room }) else (.error .conflict, world)
  | .saveTransferredRoom room expected =>
    if saves world room expected then (.ok .saved, { world with room }) else (.error .conflict, world)
  | .archive => (.ok (), world)
  | .listed => (.ok false, world)
  | .listedRoomsOwnedBy _ => (.ok [], world)

theorem oblige_answers (directory : Directory) (world : RoomWorld) (call : RoomCall) :
    RoomAnswers directory world call (oblige directory world call).1 (oblige directory world call).2 := by
  have reads {ε α : Type} (value : α) : Reads world value (Except.ok value : Except ε α) world := by
    refine ⟨rfl, fun found ok => ?_⟩
    cases ok
    rfl
  cases call with
  | findByCatalog => exact reads _
  | matrixUserId principal => exact reads _
  | agentMatrixUsers principal => exact reads _
  | membership user => exact reads _
  | invite user =>
    by_cases banned : world.matrix.members user = some .banned
    · simp only [oblige, if_pos banned]
      exact .inr ⟨rfl, _, rfl⟩
    · simp only [oblige, if_neg banned]
      exact .inl ⟨banned, rfl⟩
  | kick user => exact .inl ⟨trivial, rfl⟩
  | ban user => exact .inl ⟨trivial, rfl⟩
  | unban user => exact .inl ⟨trivial, rfl⟩
  | setSpeaking user allowed => exact .inl ⟨trivial, rfl⟩
  | save room expected =>
    by_cases taken : saves world room expected
    · simp only [oblige, if_pos taken]
      exact .inl ⟨taken, rfl⟩
    · simp only [oblige, if_neg taken]
      exact .inr ⟨rfl, _, rfl⟩
  | saveTransferredRoom room expected =>
    by_cases taken : saves world room expected
    · simp only [oblige, if_pos taken]
      exact .inl ⟨taken, rfl, fun outcome ok => (Except.ok.inj ok).symm⟩
    · simp only [oblige, if_neg taken]
      exact .inr ⟨rfl, fun outcome ok => by cases ok⟩
  | archive => rfl
  | listed => rfl
  | listedRoomsOwnedBy principal => rfl

def roomEnvironment (directory : Directory) : Environment RoomWorld RoomCall RoomAnswer where
  answers := RoomAnswers directory
  moves := UserMoves

abbrev Served {α : Type} (directory : Directory) (program : RoomProgram α) (world : RoomWorld) (answered : α) (final : RoomWorld) : Prop :=
  Alone (roomEnvironment directory) program.run world (.ok answered) final

section

variable (directory : Directory) (operation : String) (world final : RoomWorld)

theorem writes_ok (made : Writes world possible written answer next) (ok : answer = .ok ()) : possible ∧ next = written := by
  rcases made with done | ⟨_, error, failed⟩
  · exact done
  · rw [failed] at ok
    cases ok

theorem alone_load (run : Served directory (load operation) world room final) :
    room = world.room ∧ world = final := by
  obtain ⟨found, middle, consulted, settles⟩ := (alone_then ..).mp run
  obtain ⟨answer, ⟨rfl, reads⟩, ok⟩ := (alone_consult ..).mp consulted
  obtain ⟨chosen, rfl⟩ := (alone_settled ..).mp settles
  cases reads found (map_error_read ok)
  exact ⟨(Except.ok.inj chosen).symm, rfl⟩

theorem alone_principal_user
    (run : Served directory (principalMatrixUser operation principal) world user final) :
    user = .person principal ∧ world = final := by
  obtain ⟨found, middle, consulted, settles⟩ := (alone_then ..).mp run
  obtain ⟨answer, ⟨rfl, reads⟩, ok⟩ := (alone_consult ..).mp consulted
  obtain ⟨chosen, rfl⟩ := (alone_settled ..).mp settles
  have value := reads found (map_error_read ok)
  cases known : directory.hasAccount principal with
  | true =>
    rw [known] at value
    cases value
    exact ⟨(Except.ok.inj chosen).symm, rfl⟩
  | false =>
    rw [known] at value
    cases value
    cases chosen

section

variable {directory operation world final} {α : Type}

theorem alone_ensured (run : Served directory (ensureActiveActor operation expiresAt now >>= rest) world answered final) :
    Served directory (rest ()) world answered final :=
  (alone_checked _ run).elim fun _ ensured => ensured.2

theorem alone_loaded (run : Served directory (load operation >>= rest) world answered final) :
    Served directory (rest world.room) world answered final := by
  obtain ⟨room, middle, loaded, run⟩ := (alone_then ..).mp run
  obtain ⟨rfl, rfl⟩ := alone_load directory operation world middle loaded
  exact run

theorem alone_named (run : Served directory (principalMatrixUser operation principal >>= rest) world answered final) :
    Served directory (rest (.person principal)) world answered final := by
  obtain ⟨user, middle, found, run⟩ := (alone_then ..).mp run
  obtain ⟨rfl, rfl⟩ := alone_principal_user directory operation world middle found
  exact run

end

theorem alone_membership
    (run : Served directory (matrixMembership operation user) world membership final) :
    membership = world.matrix.members user ∧ world = final := by
  obtain ⟨answer, ⟨rfl, reads⟩, ok⟩ := (alone_consult ..).mp run
  exact ⟨reads membership (map_error_read ok), rfl⟩

theorem alone_require
    (run : Served directory (requireMatrixMembership operation user requirement) world () final) :
    requirement.isMet (world.matrix.members user) = true ∧ world = final := by
  obtain ⟨membership, middle, read, settles⟩ := (alone_then ..).mp run
  obtain ⟨rfl, rfl⟩ := alone_membership directory operation world middle read
  obtain ⟨chosen, rfl⟩ := (alone_settled ..).mp settles
  split at chosen
  · exact ⟨by assumption, rfl⟩
  · cases chosen

theorem alone_set_speaking {user : RoomUser}
    (run : Served directory (setSpeaking operation user allowed) world () final) :
    final = onMatrix world (·.allow user allowed) := by
  obtain ⟨answer, made, ok⟩ := (alone_consult ..).mp run
  exact (writes_ok world made (map_error_read ok)).2

theorem alone_invite (run : Served directory (matrixInvite operation user) world () final) :
    final = onMatrix world (·.invite user) := by
  obtain ⟨answer, made, ok⟩ := (alone_consult ..).mp run
  exact (writes_ok world made (map_error_read ok)).2

theorem alone_kick (run : Served directory (matrixKick operation user) world () final) :
    final = onMatrix world (·.kick user) := by
  obtain ⟨answer, made, ok⟩ := (alone_consult ..).mp run
  exact (writes_ok world made (map_error_read ok)).2

theorem alone_ban (run : Served directory (matrixBan operation user) world () final) :
    final = onMatrix world (·.ban user) := by
  obtain ⟨answer, made, ok⟩ := (alone_consult ..).mp run
  exact (writes_ok world made (map_error_read ok)).2

theorem alone_unban (run : Served directory (matrixUnban operation user) world () final) :
    final = onMatrix world (·.unban user) := by
  obtain ⟨answer, made, ok⟩ := (alone_consult ..).mp run
  exact (writes_ok world made (map_error_read ok)).2

theorem alone_only_if (post : RoomWorld → Prop)
    (done : condition = true → Served directory program world () final → post final)
    (skipped : condition = false → post world)
    (run : Served directory (onlyIf condition program) world () final) : post final := by
  cases condition with
  | true => exact done rfl run
  | false =>
    obtain ⟨_, rfl⟩ := (alone_pure ..).mp run
    exact skipped rfl

theorem alone_save (same : changed = false → room = world.room)
    (run : Served directory (saveIfChanged operation room expected changed) world () final) :
    final = { world with room } := by
  refine alone_only_if directory world final (fun final => final = { world with room }) ?_ ?_ run
  · intro _ saved
    obtain ⟨answer, made, ok⟩ := (alone_consult ..).mp saved
    exact (writes_ok world made (map_error_read ok)).2
  · intro unchanged
    rw [same unchanged]

end

end AgentRoom.PrivateRooms
