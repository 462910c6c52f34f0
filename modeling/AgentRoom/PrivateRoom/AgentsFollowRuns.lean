import AgentRoom.PrivateRoom.AgentsFollow
import AgentRoom.PrivateRoom.Invariant

namespace AgentRoom.PrivateRooms

open Library PrivateRoom

structure Orderly (directory : Directory) (world : RoomWorld) : Prop where
  valid : RoomInvariant world.room
  follow : AgentsFollow directory world

section

variable {directory : Directory} {operation : String} {world final : RoomWorld} {answered : PrivateRoom}

theorem attempt_valid {op : RoomOp} (valid : RoomInvariant room)
    (ok : attempt operation room op = .ok (changed, next)) : RoomInvariant next := by
  have kept := perform_invariant room op valid
  unfold attempt at ok
  unfold after at kept
  cases run : op.perform.run room with
  | ok value reached =>
    rw [run] at ok kept
    cases ok
    exact kept
  | error failure reached =>
    rw [run] at ok
    cases ok

theorem invited_present (none' : invited room changed target = none)
    (present : ∃ row, room.members[target]? = some row) : changed = false := by
  obtain ⟨row, found⟩ := present
  cases changed with
  | false => rfl
  | true => simp [invited, found] at none'

theorem alone_deliver (settles : Settles target already (Invitable permissions) world.room changed room)
    (run : Served directory (deliverInvitation operation world.room room world.room.version changed target) world answered final) :
    final.room = room ∧ AgentsKept world.matrix final.matrix := by
  unfold deliverInvitation at run
  cases delivered : invited room changed target with
  | none =>
    rw [delivered] at run
    obtain ⟨_, rfl⟩ := (alone_pure ..).mp run
    refine ⟨?_, fun _ => rfl, fun _ => rfl⟩
    cases changed with
    | false => exact settles.1.symm
    | true =>
      obtain ⟨row, _, present⟩ := settles_row settles
      exact absurd (invited_present delivered ⟨row, present⟩) (by decide)
  | some member =>
    rw [delivered] at run
    have run := alone_named run
    obtain ⟨_, second, invites, run⟩ := (alone_then ..).mp run
    obtain rfl := alone_invite directory operation world second invites
    obtain ⟨_, third, allows, run⟩ := (alone_then ..).mp run
    obtain rfl := alone_set_speaking directory operation _ third allows
    obtain ⟨_, fourth, saves, run⟩ := (alone_then ..).mp run
    obtain rfl := alone_save directory operation (onMatrix (onMatrix world _) _) fourth
      (settles_same settles) saves
    obtain ⟨_, rfl⟩ := (alone_pure ..).mp run
    exact ⟨rfl, kept_trans world.matrix (person_invite_kept world.matrix target) (person_allow_kept _ target _)⟩

theorem delivered_orderly (orderly : Orderly directory world) (valid : RoomInvariant room)
    (settles : Settles target already (Invitable permissions) world.room changed room)
    (run : Served directory (deliverInvitation operation world.room room world.room.version changed target) world answered final) :
    Orderly directory final := by
  obtain ⟨recorded, kept⟩ := alone_deliver settles run
  refine ⟨recorded ▸ valid, ?_⟩
  cases changed with
  | false => exact follow_kept directory world final kept (recorded.trans (settles_same settles rfl)) orderly.follow
  | true =>
    refine follow_touched (kept_touched directory (· = target) world final kept fun principal apart => ?_) orderly.follow ?_
    · rw [recorded, settles_others settles principal apart]
    · rintro _ rfl
      obtain ⟨row, fits, present⟩ := settles_row settles
      exact follows_of_status directory final (.inl rfl) (recorded ▸ ⟨row, present, fits.2.1⟩)

theorem invite_orderly (orderly : Orderly directory world)
    (run : Served directory (inviteMember request) world answered final) : Orderly directory final := by
  have run := alone_ensured run
  have run := alone_loaded run
  obtain ⟨⟨changed, room⟩, ok, run⟩ := alone_checked _ run
  unfold invitation at ok
  split at ok
  · split at ok
    · exact delivered_orderly orderly
        (attempt_valid orderly.valid ok)
        (attempt_ok _ (.inviteByAgent _ _) _ (wrote_settles (invite_by_agent_wrote world.room)) ok) run
    · cases ok
  · exact delivered_orderly orderly
      (attempt_valid orderly.valid ok)
      (attempt_ok _ (.invite _ _ _) _ (wrote_settles (invite_wrote world.room)) ok) run

theorem invite_by_link_orderly (orderly : Orderly directory world)
    (run : Served directory (PrivateRooms.inviteByLink request) world answered final) :
    Orderly directory final := by
  have run := alone_loaded run
  obtain ⟨_, _, run⟩ := alone_checked _ run
  obtain ⟨⟨changed, room⟩, ok, run⟩ := alone_checked _ run
  exact delivered_orderly orderly
    (attempt_valid orderly.valid ok)
    (attempt_ok _ (.invite _ _ _) _ (wrote_settles (invite_wrote world.room)) ok) run

end

-- What is asked of the two requests that make somebody's record say more about
-- the agents without a word to them.
def AlreadyLevel (directory : Directory) (world : RoomWorld) (principal : PrincipalId) (allowed : Bool) : Prop :=
  ∀ agent, directory.OnlyOwner principal agent → world.hasAgent agent = true → world.agentSpeaks agent = allowed

def Carried (directory : Directory) (world : RoomWorld) : RoomRequest → Prop
  | .accept request => ∀ member, world.room.members[request.actor.principalId]? = some member → member.status = .invited →
      AlreadyLevel directory world request.actor.principalId (member.permissions.allows .speak)
  | .transferOwnership request => world.room.ownerPrincipalId ≠ request.targetPrincipalId →
      AlreadyLevel directory world request.targetPrincipalId true
  | _ => True

section

variable {directory : Directory} {operation : String} {world final : RoomWorld} {answered : PrivateRoom}

theorem alone_answer (op : PrincipalId → RoomOp) (requirement : MatrixMembershipRequirement) (request : PrivateRoomMembershipAction)
    (already : Option PrivateRoomMember → Prop) (becomes : Option PrivateRoomMember → PrivateRoomMember → Prop)
    (yields : Yields (op request.actor.principalId).perform world.room
      (Settles request.actor.principalId already becomes world.room)) (valid : RoomInvariant world.room)
    (run : Served directory (answerInvitation operation op requirement request) world answered final) :
    ∃ changed room, Settles request.actor.principalId already becomes world.room changed room ∧ RoomInvariant room ∧
      final = { world with room } := by
  have run := alone_ensured run
  have run := alone_loaded run
  obtain ⟨⟨changed, room⟩, ok, run⟩ := alone_checked _ run
  have settles := attempt_ok _ (op request.actor.principalId) _ yields ok
  obtain ⟨_, fourth, required, run⟩ := (alone_then ..).mp run
  obtain ⟨_, rfl⟩ := alone_require directory _ world fourth required
  obtain ⟨_, fifth, saves, run⟩ := (alone_then ..).mp run
  obtain rfl := alone_save directory _ world fifth (settles_same settles) saves
  obtain ⟨_, rfl⟩ := (alone_pure ..).mp run
  exact ⟨changed, room, settles, attempt_valid valid ok, rfl⟩

theorem follows_of_level (row : PrivateRoomMember) (present : final.room.members[target]? = some row)
    (carries : row.status.carriesPermissions = true)
    (level : row.hasJoined = true → AlreadyLevel directory final target (row.permissions.allows .speak)) :
    Follows directory final target := by
  constructor
  · intro member found joined
    cases present.symm.trans found
    exact level joined
  · intro member found gone
    cases present.symm.trans found
    rcases gone with status | status <;> rw [status] at carries <;> cases carries

theorem leaves_removed (old : Option PrivateRoomMember) (row : PrivateRoomMember) (leaves : PrivateRoom.Leaves old row) :
    PrivateRoom.HasStatus .removed (some row) := by
  obtain ⟨member, _, _, rfl⟩ := leaves
  exact ⟨_, rfl, rfl⟩

theorem alone_govern (act : String → PrincipalId → PrincipalId → RoomProgram PrivateRoom) (request : GovernPrivateRoomMember)
    (run : Served directory (govern operation act request) world answered final) :
    Served directory (act operation request.actor.principalId request.targetPrincipalId) world answered
      final := by
  have run := alone_ensured run
  exact run

variable (orderly : Orderly directory world)

include orderly

theorem accept_orderly (carried : Carried directory world (.accept request))
    (run : Served directory (PrivateRooms.accept request) world answered final) :
    Orderly directory final := by
  obtain ⟨changed, room, settles, valid, rfl⟩ := alone_answer RoomOp.accept .joined request _ _
    (wrote_settles (accept_wrote world.room)) orderly.valid run
  refine ⟨valid, ?_⟩
  cases changed with
  | false => exact settles_same settles rfl ▸ orderly.follow
  | true =>
    refine follow_touched (recorded_touched directory (· = request.actor.principalId) world room
      fun principal apart => settles_others settles principal apart) orderly.follow ?_
    rintro _ rfl
    obtain ⟨row, ⟨member, found, status, rfl⟩, present⟩ := settles_row settles
    exact follows_of_level _ present rfl fun _ => carried member found status

theorem decline_orderly (run : Served directory (PrivateRooms.decline request) world answered final) :
    Orderly directory final := by
  obtain ⟨changed, room, settles, valid, rfl⟩ := alone_answer RoomOp.decline .absentOrLeft request _ _
    (wrote_settles (decline_wrote world.room)) orderly.valid run
  refine ⟨valid, follow_touched (recorded_touched directory (· = request.actor.principalId) world room
    fun principal apart => settles_others settles principal apart) orderly.follow ?_⟩
  rintro _ rfl
  refine follows_of_status directory _ (.inr rfl) (settles_fits (fun _ found => found) ?_ settles)
  rintro old row ⟨member, _, _, rfl⟩
  exact ⟨_, rfl, rfl⟩

theorem evicted_orderly {status : PrivateRoomMembershipStatus}
    (ended : status = .removed ∨ status = .banned) (valid : RoomInvariant room) (same : middle.room = world.room) (kept : AgentsKept world.matrix middle.matrix)
    (governed : Governed .evict ((directory.agents target).map .agent) middle final)
    (others : ∀ principal, principal ≠ target → room.members[principal]? = world.room.members[principal]?)
    (holds : PrivateRoom.HasStatus status room.members[target]?) : Orderly directory { final with room } := by
  have recorded : Touched directory (· = target) final { final with room } := by
    refine recorded_touched directory _ final room fun principal apart => ?_
    rw [governed.room, same]
    exact others principal apart
  have evicted := touched_trans (governed_touched directory middle final governed) recorded
  have away : Touched directory (· = target) world middle := kept_touched directory _ world middle kept fun _ _ => by rw [same]
  refine ⟨valid, follow_touched (touched_trans away evicted) orderly.follow ?_⟩
  rintro _ rfl
  exact follows_of_gone directory _ status ended holds (governed_gone directory middle final governed)

theorem leave_orderly (run : Served directory (PrivateRooms.leave request) world answered final) :
    Orderly directory final := by
  have run := alone_ensured run
  have run := alone_loaded run
  obtain ⟨⟨changed, room⟩, ok, run⟩ := alone_checked _ run
  have settles := attempt_ok _ (.leave _) _ (wrote_settles (leave_wrote world.room)) ok
  obtain ⟨_, fourth, required, run⟩ := (alone_then ..).mp run
  obtain ⟨_, rfl⟩ := alone_require directory _ world fourth required
  obtain ⟨_, fifth, governs, run⟩ := (alone_then ..).mp run
  have governed := alone_govern_member_agents governs
  obtain ⟨_, sixth, saves, run⟩ := (alone_then ..).mp run
  obtain rfl := alone_save directory _ fifth sixth
    (fun unchanged => (settles_same settles unchanged).trans governed.room.symm) saves
  obtain ⟨_, rfl⟩ := (alone_pure ..).mp run
  exact evicted_orderly orderly (.inl rfl)
    (attempt_valid orderly.valid ok) rfl ⟨fun _ => rfl, fun _ => rfl⟩ governed
    (settles_others settles) (settles_fits (fun _ found => found) leaves_removed settles)

theorem exclude_orderly (op : RoomOp) (exclude : RoomUser → RoomProgram Unit) (target : PrincipalId)
    (status : PrivateRoomMembershipStatus) (ended : status = .removed ∨ status = .banned)
    (becomes : Option PrivateRoomMember → PrivateRoomMember → Prop)
    (yields : Yields op.perform world.room (Settles target (PrivateRoom.HasStatus status) becomes world.room))
    (written : ∀ old row, becomes old row → PrivateRoom.HasStatus status (some row))
    (excludes : ∀ before after, Served directory (exclude (.person target)) before () after →
      after.room = before.room ∧ AgentsKept before.matrix after.matrix)
    (run : Served directory (excludeAs operation op exclude target) world answered final) :
    Orderly directory final := by
  have run := alone_loaded run
  obtain ⟨⟨changed, room⟩, ok, run⟩ := alone_checked _ run
  have settles := attempt_ok _ op _ yields ok
  have run := alone_named run
  obtain ⟨_, fourth, excluded, run⟩ := (alone_then ..).mp run
  obtain ⟨same, kept⟩ := excludes world fourth excluded
  obtain ⟨_, fifth, governs, run⟩ := (alone_then ..).mp run
  have governed := alone_govern_member_agents governs
  obtain ⟨_, sixth, saves, run⟩ := (alone_then ..).mp run
  obtain rfl := alone_save directory _ fifth sixth
    (fun unchanged => (settles_same settles unchanged).trans (governed.room.trans same).symm) saves
  obtain ⟨_, rfl⟩ := (alone_pure ..).mp run
  exact evicted_orderly orderly ended
    (attempt_valid orderly.valid ok) same kept governed (settles_others settles)
    (settles_fits (fun _ found => found) written settles)

theorem remove_orderly {request : GovernPrivateRoomMember}
    (run : Served directory (PrivateRooms.remove request) world answered final) :
    Orderly directory final := by
  refine exclude_orderly orderly (.remove _ _) (matrixKick _) request.targetPrincipalId .removed (.inl rfl) _
    (wrote_settles (remove_wrote world.room)) leaves_removed ?_ (alone_govern _ request run)
  intro before after kicks
  obtain rfl := alone_kick directory _ before after kicks
  exact ⟨rfl, person_kick_kept before.matrix request.targetPrincipalId⟩

theorem ban_orderly {request : GovernPrivateRoomMember}
    (run : Served directory (PrivateRooms.ban request) world answered final) :
    Orderly directory final := by
  refine exclude_orderly orderly (.ban _ _) (matrixBan _) request.targetPrincipalId .banned (.inr rfl) _
    (wrote_settles (ban_wrote world.room)) ?_ ?_ (alone_govern _ request run)
  · intro old row excluded
    exact ⟨row, rfl, excluded.1⟩
  · intro before after bans
    obtain rfl := alone_ban directory _ before after bans
    exact ⟨rfl, person_ban_kept before.matrix request.targetPrincipalId⟩

theorem unban_orderly {request : GovernPrivateRoomMember}
    (run : Served directory (PrivateRooms.unban request) world answered final) :
    Orderly directory final := by
  have run := alone_govern _ request run
  have run := alone_loaded run
  obtain ⟨⟨changed, room⟩, ok, run⟩ := alone_checked _ run
  have settles := attempt_ok _ (.unban _ _) _ (wrote_settles (unban_wrote world.room request.actor.principalId request.targetPrincipalId)) ok
  obtain ⟨_, third, acted, run⟩ := (alone_then ..).mp run
  obtain ⟨_, rfl⟩ := (alone_pure ..).mp run
  cases changed with
  | false =>
    obtain ⟨_, rfl⟩ := (alone_pure ..).mp acted
    exact orderly
  | true =>
    have acted := alone_named acted
    obtain ⟨_, fifth, unbans, saves⟩ := (alone_then ..).mp acted
    obtain rfl := alone_unban directory _ world fifth unbans
    obtain rfl := alone_save directory _ (onMatrix world _) third (settles_same settles) saves
    have kept := person_unban_kept world.matrix request.targetPrincipalId
    refine ⟨attempt_valid orderly.valid ok, ?_⟩
    refine follow_touched (kept_touched directory _ world _ kept (settles_others settles)) orderly.follow ?_
    rintro _ rfl
    obtain ⟨row, ⟨member, banned, status, rfl⟩, present⟩ := settles_row settles
    -- The banned one's agents were out already.
    have out := (orderly.follow request.targetPrincipalId).gone member banned (.inr status)
    refine follows_of_gone directory _ .removed (.inl rfl) ⟨_, present, rfl⟩ fun agent owned => ?_
    rw [← out agent owned, RoomWorld.hasAgent, RoomWorld.hasAgent]
    exact congrArg isInRoom (kept.members agent)

end

section

variable (directory : Directory) (operation : String) (world final : RoomWorld) (answered : PrivateRoom)

structure LevelSet (directory : Directory) (target : PrincipalId) (allowed : Bool) (world final : RoomWorld) : Prop where
  room : final.room = world.room
  touched : Touched directory (· = target) world final
  carried : ∀ agent ∈ directory.agents target, final.hasAgent agent = true → final.agentSpeaks agent = allowed

theorem alone_set_member_speaking
    (run : Served directory (setMemberSpeaking operation target (.person user) allowed) world () final) :
    LevelSet directory target allowed world final := by
  obtain ⟨_, first, allows, governs⟩ := (alone_then ..).mp run
  obtain rfl := alone_set_speaking directory operation world first allows
  have governed := alone_govern_member_agents governs
  refine ⟨governed.room, ?_, governed_speaks directory _ final governed⟩
  refine touched_trans ?_ (governed_touched directory _ final governed)
  exact kept_touched directory _ world _ (person_allow_kept world.matrix user allowed) fun _ _ => rfl

variable {request : TransferPrivateRoomOwnership}

theorem alone_carry {user : PrincipalId} (same : changed = false → room = world.room)
    (others : ∀ principal, principal ≠ target → room.members[principal]? = world.room.members[principal]?)
    (run : Served directory (carryPermissions operation room world.room.version changed target (.person user) previous desired)
      world () final) :
    final.room = room ∧ Touched directory (· = target) world final ∧
      ((previous = desired ∧ AgentsKept world.matrix final.matrix) ∨
        ∀ agent ∈ directory.agents target, final.hasAgent agent = true → final.agentSpeaks agent = desired) := by
  have recorded := recorded_touched directory (· = target) world room others
  have told (level : Bool) (told : Alone (roomEnvironment directory) (setMemberSpeaking operation target (.person user) level).run
      { world with room } (.ok ()) final) : final.room = room ∧ Touched directory (· = target) world final ∧
        ∀ agent ∈ directory.agents target, final.hasAgent agent = true → final.agentSpeaks agent = level := by
    have set := alone_set_member_speaking directory operation { world with room } final told
    exact ⟨set.room, touched_trans recorded set.touched, set.carried⟩
  have saving (middle : RoomWorld)
      (saved : Served directory (saveIfChanged operation room world.room.version changed) world () middle) :
      middle = { world with room } := alone_save directory operation world middle same saved
  have unmoved (level : Bool) (run : Served directory (do
      saveIfChanged operation room world.room.version changed
      onlyIf (!changed) (setMemberSpeaking operation target (.person user) level)) world () final) :
      final.room = room ∧ Touched directory (· = target) world final ∧ (AgentsKept world.matrix final.matrix ∨
        ∀ agent ∈ directory.agents target, final.hasAgent agent = true → final.agentSpeaks agent = level) := by
    obtain ⟨_, middle, saved, rest⟩ := (alone_then ..).mp run
    obtain rfl := saving middle saved
    cases changed with
    | true =>
      obtain ⟨_, rfl⟩ := (alone_pure ..).mp rest
      exact ⟨rfl, recorded, .inl ⟨fun _ => rfl, fun _ => rfl⟩⟩
    | false =>
      obtain ⟨kept, touched, carried⟩ := told level rest
      exact ⟨kept, touched, .inr carried⟩
  match previous, desired, run with
  | true, false, run =>
    obtain ⟨_, middle, set, saved⟩ := (alone_then ..).mp run
    have level := alone_set_member_speaking directory operation world middle set
    obtain rfl := alone_save directory operation middle final
      (fun unchanged => (same unchanged).trans level.room.symm) saved
    refine ⟨rfl, touched_trans level.touched (recorded_touched directory _ middle room fun principal apart => ?_), .inr level.carried⟩
    rw [level.room]
    exact others principal apart
  | false, true, run =>
    obtain ⟨_, middle, saved, set⟩ := (alone_then ..).mp run
    obtain rfl := saving middle saved
    obtain ⟨kept, touched, carried⟩ := told true set
    exact ⟨kept, touched, .inr carried⟩
  | true, true, run =>
    obtain ⟨kept, touched, outcome⟩ := unmoved true run
    exact ⟨kept, touched, outcome.imp_left fun agents => ⟨rfl, agents⟩⟩
  | false, false, run =>
    obtain ⟨kept, touched, outcome⟩ := unmoved false run
    exact ⟨kept, touched, outcome.imp_left fun agents => ⟨rfl, agents⟩⟩

theorem update_permissions_orderly {request : ChangePrivateRoomPermissions} (orderly : Orderly directory world)
    (run : Served directory (PrivateRooms.updatePermissions request) world answered final) :
    Orderly directory final := by
  have run := alone_ensured run
  have run := alone_loaded run
  obtain ⟨previous, ok, run⟩ := alone_checked _ run
  obtain ⟨⟨changed, room⟩, done, run⟩ := alone_checked _ run
  have settles := attempt_ok _ (.updatePermissions _ _ _) _
    (wrote_settles (update_permissions_wrote world.room)) done
  have run := alone_named run
  obtain ⟨_, sixth, carries, run⟩ := (alone_then ..).mp run
  obtain ⟨_, rfl⟩ := (alone_pure ..).mp run
  obtain ⟨recorded, touched, levels⟩ := alone_carry directory _ world sixth
    (settles_same settles) (settles_others settles) carries
  refine ⟨recorded ▸ attempt_valid orderly.valid done, ?_⟩
  refine follow_touched touched orderly.follow ?_
  rintro _ rfl
  have permits : PrivateRoom.Permits request.permissions room.members[request.targetPrincipalId]? := by
    refine settles_fits (fun _ found => found) ?_ settles
    rintro old row ⟨member, _, carries, rfl⟩
    exact ⟨_, rfl, carries, rfl⟩
  obtain ⟨row, present, carriesRow, same⟩ := permits
  refine follows_of_level row (recorded ▸ present) carriesRow fun joined agent owned here => ?_
  rcases levels with ⟨unmoved, kept⟩ | carried
  · -- The right to speak is what it was, and the agents followed it before.
    cases before : world.room.members[request.targetPrincipalId]? with
    | none =>
      rw [before] at ok
      cases ok
    | some member =>
      rw [before] at ok
      cases ok
      have wasJoined : member.hasJoined = true := by
        cases changed with
        | false =>
          rw [settles_same settles rfl, before] at present
          cases present
          exact joined
        | true =>
          obtain ⟨written, ⟨old, was, _, rfl⟩, now⟩ := settles_row settles
          cases was.symm.trans before
          cases now.symm.trans present
          exact joined
      rw [RoomWorld.agentSpeaks, kept.speaks, same, ← unmoved]
      exact (orderly.follow request.targetPrincipalId).speaks member before wasJoined agent owned (touched.nobodyIn agent here)
  · rw [same]
    exact carried agent owned.1 here

theorem alone_quota
    (run : Served directory (ensureTransferQuota operation catalog target) world () final) :
    world = final := by
  obtain ⟨listed, first, consulted, rest⟩ := (alone_then ..).mp run
  obtain ⟨_, rfl, _⟩ := (alone_consult ..).mp consulted
  refine alone_only_if directory first final (fun now => first = now) ?_ (fun _ => rfl) rest
  intro _ counted
  obtain ⟨owned, second, asked, settles⟩ := (alone_then ..).mp counted
  obtain ⟨_, rfl, _⟩ := (alone_consult ..).mp asked
  exact ((alone_settled ..).mp settles).2

theorem alone_save_transferred {saved : Bool}
    (run : Served directory (saveTransferredRoom operation room expected) world saved final) :
    final = if saved then { world with room } else world := by
  obtain ⟨outcome, middle, consulted, settles⟩ := (alone_then ..).mp run
  obtain ⟨answer, made, ok⟩ := (alone_consult ..).mp consulted
  obtain ⟨chosen, rfl⟩ := (alone_settled ..).mp settles
  have given := map_error_read ok
  rcases made with ⟨_, written, only⟩ | ⟨unwritten, only⟩
  · cases only outcome given
    cases chosen
    exact written
  · cases only outcome given
    cases chosen
    exact unwritten

theorem alone_only_level {principal : PrincipalId}
    (run : Served directory (onlyIf condition (setSpeaking operation (.person principal) allowed)) world ()
      final) : final.room = world.room ∧ AgentsKept world.matrix final.matrix := by
  refine alone_only_if directory world final
    (fun now => now.room = world.room ∧ AgentsKept world.matrix now.matrix) ?_ (fun _ => ⟨rfl, fun _ => rfl, fun _ => rfl⟩) run
  intro _ set
  obtain rfl := alone_set_speaking directory operation world final set
  exact ⟨rfl, person_allow_kept world.matrix principal allowed⟩

theorem abandoned (request : TransferPrivateRoomOwnership)
    (run : Served directory (abandonTransfer operation request) world answered final) : False := by
  obtain ⟨_, _, _, settles⟩ := (alone_then ..).mp run
  cases ((alone_settled ..).mp settles).1

def Lowered (directory : Directory) (request : TransferPrivateRoomOwnership) (world final : RoomWorld) : Prop :=
  if request.formerOwnerPermissions.allows .speak then final = world
  else LevelSet directory request.actor.principalId false world final

theorem alone_lower
    (run : Served directory (onlyIf (!request.formerOwnerPermissions.allows .speak)
      (setMemberSpeaking operation request.actor.principalId request.actor.matrixUser false)) world () final) :
    Lowered directory request world final := by
  unfold Lowered
  cases speaks : request.formerOwnerPermissions.allows .speak with
  | true =>
    rw [speaks] at run
    exact ((alone_pure ..).mp run).2.symm
  | false =>
    rw [speaks] at run
    exact alone_set_member_speaking directory operation world final run

theorem lowered_kept (lowered : Lowered directory request world final) :
    final.room = world.room ∧ Touched directory (· = request.actor.principalId) world final := by
  unfold Lowered at lowered
  split at lowered
  · subst lowered
    exact ⟨rfl, recorded_touched directory _ final final.room fun _ _ => rfl⟩
  · exact ⟨lowered.room, lowered.touched⟩

theorem lowered_level (lowered : Lowered directory request world final)
    (before : AlreadyLevel directory world request.actor.principalId true) :
    AlreadyLevel directory final request.actor.principalId (request.formerOwnerPermissions.allows .speak) := by
  unfold Lowered at lowered
  split at lowered
  · next speaks => rw [lowered, speaks]; exact before
  · next silent =>
      rw [Bool.not_eq_true] at silent
      rw [silent]
      exact fun agent owned here => lowered.carried agent owned.1 here

theorem handed_over_rows {actor : PrincipalId}
    {successor former : PrivateRoomMember} (handed : HandedOver room next actor target permissions successor former) :
    next.members[target]? = some { successor with permissions := .all } ∧
      next.members[actor]? = some { former with permissions } ∧
      ∀ principal, ¬ (principal = actor ∨ principal = target) → next.members[principal]? = room.members[principal]? := by
  rw [handed.members]
  refine ⟨Std.ExtTreeMap.getElem?_insert_self, ?_, fun principal apart => ?_⟩
  · rw [Std.ExtTreeMap.getElem?_insert, if_neg (by simpa using handed.other), Std.ExtTreeMap.getElem?_insert_self]
  · obtain ⟨notActor, notTarget⟩ := not_or.mp apart
    rw [Std.ExtTreeMap.getElem?_insert, if_neg (by simpa using Ne.symm notTarget), Std.ExtTreeMap.getElem?_insert,
      if_neg (by simpa using Ne.symm notActor), Std.ExtTreeMap.getElem?_erase, if_neg (by simpa using Ne.symm notTarget)]

theorem touched_weaken {world final : RoomWorld} (implies : ∀ principal, who principal → more principal)
    (touched : Touched directory who world final) : Touched directory more world final where
  rows principal apart := touched.rows principal fun named => apart (implies principal named)
  levels agent apart := touched.levels agent fun principal owns named => apart principal owns (implies principal named)
  nobodyIn := touched.nobodyIn

theorem hand_over_orderly (orderly : Orderly directory world) (other : world.room.ownerPrincipalId ≠ request.targetPrincipalId)
    (found : user = .person request.targetPrincipalId) (carried : AlreadyLevel directory world request.targetPrincipalId true)
    (run : Served directory (handOver operation world.room request user) world answered final) :
    Orderly directory final := by
  subst found
  obtain ⟨⟨changed, room⟩, ok, run⟩ := alone_checked _ run
  obtain ⟨transfers, _⟩ := attempt_ok _ (.transferOwnership _ _ _) _ (transfer_transfers world.room request.actor.principalId
    request.targetPrincipalId request.formerOwnerPermissions) ok
  have valid := attempt_valid orderly.valid ok
  obtain ⟨_, second, quota, run⟩ := (alone_then ..).mp run
  obtain rfl := alone_quota directory _ world second quota
  obtain ⟨_, third, lowers, run⟩ := (alone_then ..).mp run
  have lowered := alone_lower directory _ world third lowers
  obtain ⟨saved, fourth, saves, run⟩ := (alone_then ..).mp run
  cases changed with
  | false => exact absurd transfers.2.symm other
  | true =>
    have written := alone_save_transferred directory _ third fourth saves
    cases saved with
    | false => exact (abandoned directory _ fourth final answered request run).elim
    | true =>
      cases written
      obtain ⟨successor, former, handed⟩ := transfers
      obtain ⟨_, fifth, raises, run⟩ := (alone_then ..).mp run
      obtain ⟨fifthRoom, fifthKept⟩ := alone_only_level directory _ _ fifth raises
      obtain ⟨_, sixth, restores, run⟩ := (alone_then ..).mp run
      obtain ⟨sixthRoom, sixthKept⟩ := alone_only_level directory _ fifth sixth restores
      obtain ⟨_, rfl⟩ := (alone_pure ..).mp run
      have recorded : sixth.room = room := sixthRoom.trans fifthRoom
      have kept := kept_trans third.matrix fifthKept sixthKept
      obtain ⟨successorRow, formerRow, others⟩ := handed_over_rows handed
      obtain ⟨same, loweredTouched⟩ := lowered_kept directory world third lowered
      have touched : Touched directory (fun p => p = request.actor.principalId ∨ p = request.targetPrincipalId) world sixth := by
        refine touched_trans (touched_weaken directory (fun _ => .inl) loweredTouched) (kept_touched directory _ third sixth kept ?_)
        intro principal apart
        rw [recorded, same]
        exact others principal apart
      -- The owner's row carries every permission, so the agents spoke before.
      have owned : AlreadyLevel directory world request.actor.principalId true := by
        obtain ⟨owner, present, joined, all⟩ := orderly.valid.owned
        rw [← handed.owned] at present
        intro agent own here
        rw [(orderly.follow request.actor.principalId).speaks owner present (by simp [PrivateRoomMember.hasJoined, joined]) agent own here,
          all]
        decide
      refine ⟨recorded ▸ valid, follow_touched touched orderly.follow ?_⟩
      rintro principal (rfl | rfl)
      · refine follows_of_level _ (recorded ▸ formerRow) ?_ fun _ agent own here => ?_
        · obtain ⟨owner, present, joined, _⟩ := orderly.valid.owned
          rw [← handed.owned] at present
          cases present.symm.trans handed.present
          exact congrArg PrivateRoomMembershipStatus.carriesPermissions joined
        · rw [RoomWorld.agentSpeaks, kept.speaks]
          refine lowered_level directory world third lowered owned agent own ?_
          rw [RoomWorld.hasAgent, ← kept.members]
          exact here
      · have joined : successor.status = .joined := by simpa [PrivateRoomMember.hasJoined] using handed.hasJoined
        refine follows_of_level { successor with permissions := .all } (recorded ▸ successorRow)
          (congrArg PrivateRoomMembershipStatus.carriesPermissions joined) fun _ agent own here => ?_
        have apart : ∀ principal, agent ∈ directory.agents principal → ¬ principal = request.actor.principalId :=
          fun principal owns named => handed.other ((own.2 principal owns).symm.trans named)
        rw [RoomWorld.agentSpeaks, kept.speaks]
        have may : PrivateRoomPermissions.all.allows .speak = true := by decide
        refine (loweredTouched.levels agent apart).trans ?_
        exact (carried agent own (touched.nobodyIn agent here)).trans may.symm

theorem reconcile_orderly (orderly : Orderly directory world) (found : user = .person request.targetPrincipalId)
    (run : Served directory (reconcileCompletedTransfer operation world.room request user) world answered
      final) : Orderly directory final := by
  subst found
  unfold reconcileCompletedTransfer at run
  split at run
  · obtain ⟨_, first, set, run⟩ := (alone_then ..).mp run
    obtain rfl := alone_set_speaking directory _ world first set
    obtain ⟨_, rfl⟩ := (alone_pure ..).mp run
    exact ⟨orderly.valid, follow_kept directory world _ (person_allow_kept world.matrix _ true) rfl orderly.follow⟩
  · obtain ⟨_, ok, run⟩ := alone_checked _ run
    obtain ⟨_, second, raises, run⟩ := (alone_then ..).mp run
    obtain rfl := alone_set_speaking directory _ world second raises
    obtain ⟨_, third, restores, run⟩ := (alone_then ..).mp run
    obtain rfl := alone_set_speaking directory _ _ third restores
    obtain ⟨_, fourth, lowers, run⟩ := (alone_then ..).mp run
    obtain ⟨_, rfl⟩ := (alone_pure ..).mp run
    have kept := kept_trans world.matrix (person_allow_kept world.matrix request.targetPrincipalId true)
      (person_allow_kept _ request.actor.principalId (request.formerOwnerPermissions.allows .speak))
    have told : AgentsFollow directory (onMatrix (onMatrix world (·.allow (.person request.targetPrincipalId) true))
        (·.allow request.actor.matrixUser (request.formerOwnerPermissions.allows .speak))) :=
      follow_kept directory world _ kept rfl orderly.follow
    cases speaks : request.formerOwnerPermissions.allows .speak with
    | true =>
      rw [speaks] at lowers
      obtain ⟨_, rfl⟩ := (alone_pure ..).mp lowers
      exact ⟨orderly.valid, speaks ▸ told⟩
    | false =>
      rw [speaks] at lowers
      have governed := alone_govern_member_agents lowers
      have recorded : fourth.room = world.room := governed.room
      refine ⟨recorded ▸ orderly.valid, follow_touched (governed_touched directory _ fourth governed) (speaks ▸ told) ?_⟩
      rintro _ rfl
      constructor
      · intro member present joined agent owned here
        split at ok
        · next same =>
            rw [recorded] at present
            have permitted : member.permissions = request.formerOwnerPermissions := by simpa [present] using same
            rw [permitted, speaks]
            exact governed_speaks directory _ fourth governed agent owned.1 here
        · cases ok
      · intro member present gone agent owned
        rw [recorded] at present
        have away := (told request.actor.principalId).gone member present gone agent owned
        by_contra here
        have stillHere := governed.nobodyIn (.agent agent) (by simpa [RoomWorld.hasAgent] using here)
        rw [speaks] at away
        exact absurd (stillHere.symm.trans away) (by decide)

theorem transfer_orderly (orderly : Orderly directory world) (carried : Carried directory world (.transferOwnership request))
    (run : Served directory (PrivateRooms.transferOwnership request) world answered final) :
    Orderly directory final := by
  have run := alone_ensured run
  have run := alone_loaded run
  obtain ⟨user, third, found, run⟩ := (alone_then ..).mp run
  obtain ⟨named, rfl⟩ := alone_principal_user directory _ world third found
  split at run
  · exact reconcile_orderly directory _ world final answered orderly named run
  · next other => exact hand_over_orderly directory _ world final answered orderly other named (carried other) run

end

section

variable (directory : Directory)

-- Between two requests users may take invitations up, or go.
inductive RoomEvent where
  | served (request : RoomRequest)
  | moved

def serviceStep (world : RoomWorld) (event : RoomEvent) (next : RoomWorld) : Prop :=
  match event with
  | .served request => ∃ answered, Served directory request.serve world answered next
  | .moved => UserMoves world next

def carriedEvent (world : RoomWorld) : RoomEvent → Prop
  | .served request => Carried directory world request
  | .moved => True

variable {world final : RoomWorld}

theorem archive_orderly {request : ArchivePrivateRoom} {answered : PrivateRoom} (orderly : Orderly directory world)
    (run : Served directory (PrivateRooms.archive request) world answered final) : Orderly directory final := by
  have run := alone_ensured run
  obtain ⟨_, _, run⟩ := alone_checked _ run
  have run := alone_loaded run
  obtain ⟨⟨changed, room⟩, ok, run⟩ := alone_checked _ run
  obtain ⟨rows, same⟩ := attempt_ok _ (.archive _) _ (archive_keeps world.room _) ok
  obtain ⟨_, archived, archives, run⟩ := (alone_then ..).mp run
  obtain ⟨_, rfl, _⟩ := (alone_consult ..).mp archives
  obtain ⟨_, _, saves, run⟩ := (alone_then ..).mp run
  obtain rfl := alone_save directory _ archived _ same saves
  obtain ⟨_, rfl⟩ := (alone_pure ..).mp run
  have touched : Touched directory (fun _ => False) archived { archived with room } :=
    ⟨fun principal _ => congrArg (·[principal]?) rows, fun _ _ => rfl, fun _ here => here⟩
  exact ⟨attempt_valid orderly.valid ok, follow_touched touched orderly.follow fun _ impossible => impossible.elim⟩

theorem serve_orderly {request : RoomRequest} {answered : PrivateRoom} (orderly : Orderly directory world)
    (carried : Carried directory world request)
    (run : Served directory request.serve world answered final) : Orderly directory final := by
  cases request with
  | invite request => exact invite_orderly orderly run
  | inviteByLink request => exact invite_by_link_orderly orderly run
  | accept request => exact accept_orderly orderly carried run
  | decline request => exact decline_orderly orderly run
  | leave request => exact leave_orderly orderly run
  | remove request => exact remove_orderly orderly run
  | ban request => exact ban_orderly orderly run
  | unban request => exact unban_orderly orderly run
  | updatePermissions request => exact update_permissions_orderly directory world final answered orderly run
  | transferOwnership request => exact transfer_orderly directory world final answered orderly carried run
  | archive request => exact archive_orderly directory orderly run

theorem put_has_agent (world : RoomWorld) (membership : PrivateMatrixMembership)
    (here : isInRoom (world.matrix.members user) = true) (agent : AgentId)
    (after : (onMatrix world (·.put user membership)).hasAgent agent = true) : world.hasAgent agent = true := by
  by_cases same : RoomUser.agent agent = user
  · rw [RoomWorld.hasAgent, same]
    exact here
  · simpa [RoomWorld.hasAgent, onMatrix, MatrixRoom.put, same] using after

theorem moves_orderly (orderly : Orderly directory world) (moves : UserMoves world final) : Orderly directory final := by
  have put (user : RoomUser) (membership : PrivateMatrixMembership) (here : isInRoom (world.matrix.members user) = true) :
      Touched directory (fun _ => False) world (onMatrix world (·.put user membership)) :=
    ⟨fun _ _ => rfl, fun _ _ => rfl, put_has_agent world membership here⟩
  cases moves with
  | joins user invited =>
    have here : isInRoom (world.matrix.members user) = true := by simp [isInRoom, invited]
    exact ⟨orderly.valid, follow_touched (put user .joined here) orderly.follow fun _ impossible => impossible.elim⟩
  | goes user here =>
    exact ⟨orderly.valid, follow_touched (put user .left here) orderly.follow fun _ impossible => impossible.elim⟩

theorem step_orderly (world next : RoomWorld) (event : RoomEvent) (orderly : Orderly directory world)
    (step : Guarded (carriedEvent directory) (serviceStep directory) world event next) : Orderly directory next := by
  obtain ⟨carried, step⟩ := step
  cases event with
  | served request =>
    obtain ⟨answered, run⟩ := step
    exact serve_orderly directory orderly carried run
  | moved => exact moves_orderly directory orderly step

theorem agents_follow_their_member (start final : RoomWorld) (events : List RoomEvent) (valid : RoomInvariant start.room)
    (follow : AgentsFollow directory start)
    (run : Runs (Guarded (carriedEvent directory) (serviceStep directory)) start events final) : AgentsFollow directory final :=
  (runs_invariant (Orderly directory) (fun world event next => step_orderly directory world next event)
    ⟨valid, follow⟩ run).follow

end

def onlooker : RoomWorld where
  room := runAll RoomOp.perform (create ⟨1⟩ ⟨10⟩) [.invite ⟨10⟩ ⟨11⟩ ⟨1#8, by decide⟩, .accept ⟨11⟩]
  matrix :=
    { members := fun user => if user = .person ⟨10⟩ ∨ user = .person ⟨11⟩ ∨ user = .agent ⟨7⟩ then some .joined else none
      speaks := fun user => decide (user = .person ⟨10⟩) }

def household : Directory := ⟨fun _ => true, fun principal => if principal = ⟨11⟩ then [⟨7⟩] else []⟩

theorem household_owner (owned : agent ∈ household.agents principal) : principal = ⟨11⟩ ∧ agent = ⟨7⟩ := by
  by_cases owner : principal = ⟨11⟩
  · exact ⟨owner, by simpa [household, owner] using owned⟩
  · simp [household, owner] at owned

theorem onlooker_row : onlooker.room.members[(⟨11⟩ : PrincipalId)]? = some ⟨⟨11⟩, .joined, ⟨1#8, by decide⟩⟩ := by decide

theorem onlooker_valid : RoomInvariant onlooker.room :=
  run_invariant (produced_invariant (.create ⟨1⟩ ⟨10⟩))

theorem onlooker_follows : AgentsFollow household onlooker := by
  intro principal
  constructor
  · intro member present _ agent owned _
    obtain ⟨rfl, rfl⟩ := household_owner owned.1
    cases onlooker_row.symm.trans present
    decide
  · intro member present gone agent owned
    obtain ⟨rfl, rfl⟩ := household_owner owned
    cases onlooker_row.symm.trans present
    rcases gone with status | status <;> cases status

def obliged (request : RoomRequest) (world : RoomWorld) : Except PrivateRoomFailure PrivateRoom × RoomWorld :=
  playOut (oblige household) request.serve.run world

theorem obliged_serves {world : RoomWorld} (served : (obliged request world).1.toBool = true) :
    serviceStep household world (.served request) (obliged request world).2 := by
  have run := alone_play_out (roomEnvironment household) (oblige household) (oblige_answers household) request.serve.run world
  cases outcome : (playOut (oblige household) request.serve.run world).1 with
  | ok answered =>
    rw [outcome] at run
    exact ⟨answered, run⟩
  | error failure =>
    rw [obliged, outcome] at served
    cases served

def owner : AuthenticatedPrincipal := ⟨⟨10⟩, 1000⟩

def givesAway : RoomRequest := .transferOwnership ⟨owner, ⟨11⟩, .invitedByAgent, 0⟩

def letsSpeak : RoomRequest := .updatePermissions ⟨owner, ⟨11⟩, .invitedByAgent, 0⟩

theorem agent_of_new_owner_stays_silent :
    ¬ ∀ (directory : Directory) (start final : RoomWorld) (events : List RoomEvent), RoomInvariant start.room →
      AgentsFollow directory start → Runs (serviceStep directory) start events final → AgentsFollow directory final := by
  intro claim
  have follows := claim household onlooker _ [.served givesAway] onlooker_valid onlooker_follows
    ⟨_, obliged_serves (by decide), rfl⟩
  have level := (follows ⟨11⟩).speaks ⟨⟨11⟩, .joined, .all⟩ (by decide) (by decide) ⟨7⟩
    ⟨by decide, fun other owns => (household_owner owns).1⟩ (by decide)
  exact absurd level (by decide)

theorem agent_speaks_with_new_owner :
    Runs (Guarded (carriedEvent household) (serviceStep household)) onlooker [.served letsSpeak, .served givesAway]
        (obliged givesAway (obliged letsSpeak onlooker).2).2 ∧
      (obliged givesAway (obliged letsSpeak onlooker).2).2.agentSpeaks ⟨7⟩ = true ∧
      AgentsFollow household (obliged givesAway (obliged letsSpeak onlooker).2).2 := by
  have run : Runs (Guarded (carriedEvent household) (serviceStep household)) onlooker [.served letsSpeak, .served givesAway]
      (obliged givesAway (obliged letsSpeak onlooker).2).2 := by
    refine ⟨_, ⟨trivial, obliged_serves (by decide)⟩, _, ⟨fun _ agent owned _ => ?_, obliged_serves (by decide)⟩, rfl⟩
    obtain ⟨_, rfl⟩ := household_owner owned.1
    decide
  exact ⟨run, by decide, agents_follow_their_member household onlooker _ _ onlooker_valid onlooker_follows run⟩

end AgentRoom.PrivateRooms
