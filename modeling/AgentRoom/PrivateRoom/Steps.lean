import AgentRoom.PrivateRoom.Room

namespace AgentRoom

open Library

inductive RoomOp where
  | invite (actor target : PrincipalId) (permissions : PrivateRoomPermissions)
  | inviteByAgent (actor target : PrincipalId)
  | accept (principalId : PrincipalId)
  | decline (principalId : PrincipalId)
  | leave (principalId : PrincipalId)
  | remove (actor target : PrincipalId)
  | ban (actor target : PrincipalId)
  | unban (actor target : PrincipalId)
  | updatePermissions (actor target : PrincipalId) (permissions : PrivateRoomPermissions)
  | transferOwnership (actor target : PrincipalId) (formerOwnerPermissions : PrivateRoomPermissions)
  | archive (actor : PrincipalId)

namespace RoomOp

def actor : RoomOp → PrincipalId
  | .invite actor _ _ | .inviteByAgent actor _ => actor
  | .accept principalId | .decline principalId | .leave principalId => principalId
  | .remove actor _ | .ban actor _ | .unban actor _ => actor
  | .updatePermissions actor _ _ | .transferOwnership actor _ _ | .archive actor => actor

def perform : RoomOp → PrivateRoom.RoomMethod
  | .invite actor target permissions => PrivateRoom.invite actor target permissions
  | .inviteByAgent actor target => PrivateRoom.inviteByAgent actor target
  | .accept principalId => PrivateRoom.acceptInvitation principalId
  | .decline principalId => PrivateRoom.declineInvitation principalId
  | .leave principalId => PrivateRoom.leave principalId
  | .remove actor target => PrivateRoom.removeMember actor target
  | .ban actor target => PrivateRoom.banMember actor target
  | .unban actor target => PrivateRoom.unbanMember actor target
  | .updatePermissions actor target permissions => PrivateRoom.updatePermissions actor target permissions
  | .transferOwnership actor target permissions => PrivateRoom.transferOwnership actor target permissions
  | .archive actor => PrivateRoom.archive actor

end RoomOp

def PrivateRoomMember.Coherent (member : PrivateRoomMember) : Prop :=
  member.permissions.view = member.status.carriesPermissions

namespace PrivateRoom

def holdsBit (room : PrivateRoom) (principalId : PrincipalId) (i : Nat) : Prop :=
  (room.permissionsOf principalId).bits.getLsbD i = true

-- One member row is rewritten. Only a row that has not joined, or one that is
-- not the owner's, is ever chosen, and no bit appears in it that neither it
-- nor the actor held.
structure RowChange (room : PrivateRoom) (actor target : PrincipalId) (row : PrivateRoomMember) : Prop where
  keyed : row.principalId = (room.members[target]?).elim target PrivateRoomMember.principalId
  coherent : (∀ member, room.members[target]? = some member → member.Coherent) → row.Coherent
  spared : target = room.ownerPrincipalId → room.members[target]?.any PrivateRoomMember.hasJoined = false
  granted : ∀ i, row.permissions.bits.getLsbD i = true → room.holdsBit target i ∨ room.holdsBit actor i

inductive RoomStep (actor : PrincipalId) (room : PrivateRoom) : PrivateRoom → Prop where
  | row (target : PrincipalId) (row : PrivateRoomMember) (next : AggregateVersion)
      (advanced : room.version.next = .ok next) (change : RowChange room actor target row) :
      RoomStep actor room { room with members := room.members.insert target row, version := next }
  | transfer (target : PrincipalId) (successor former : PrivateRoomMember) (permissions : PrivateRoomPermissions)
      (next : AggregateVersion) (advanced : room.version.next = .ok next)
      (owner : actor = room.ownerPrincipalId) (other : target ≠ actor)
      (joined : room.members[target]? = some successor) (hasJoined : successor.hasJoined = true)
      (present : room.members[actor]? = some former) (assignable : permissions.view = true) :
      RoomStep actor room { room with
        members := ((room.members.erase target).insert actor { former with permissions }).insert
          target { successor with permissions := .all },
        ownerPrincipalId := target, version := next }
  | archive (next : AggregateVersion) (advanced : room.version.next = .ok next)
      (owner : actor = room.ownerPrincipalId) :
      RoomStep actor room { room with status := .archived, version := next }

def Answered (actor : PrincipalId) (room : PrivateRoom) (changed : Bool) (next : PrivateRoom) : Prop :=
  if changed then RoomStep actor room next else next = room

variable (room : PrivateRoom) (actor : PrincipalId)

theorem answered_false (room : PrivateRoom) : Answered actor room false room := rfl

variable {target : PrincipalId} {member : PrivateRoomMember}

theorem require_non_owner_ok
    (passed : room.requireNonOwnerTarget target action = .ok value) : target ≠ room.ownerPrincipalId := by
  unfold requireNonOwnerTarget at passed
  split at passed
  · cases passed
  · assumption

theorem require_assignable_ok (passed : requireAssignablePermissions permissions = .ok value) : permissions.view = true := by
  unfold requireAssignablePermissions at passed
  split at passed
  · assumption
  · cases passed

theorem require_grantable_ok {actor : PrincipalId} (passed : room.requireGrantable actor previous next = .ok value) :
    ∀ i, next.bits.getLsbD i = true → previous.bits.getLsbD i = true ∨ room.holdsBit actor i := by
  unfold requireGrantable at passed
  split at passed
  · rename_i contained
    intro i held
    cases before : previous.bits.getLsbD i with
    | true => exact .inl rfl
    | false =>
      exact .inr ((PrivateRoomPermissions.contains_iff _).mp contained i
        ((PrivateRoomPermissions.added_since_bit).mpr ⟨held, before⟩))
  · cases passed

theorem permissions_of_row (present : room.members[target]? = some member) : room.permissionsOf target = member.permissions := by
  simp [permissionsOf, present]

theorem no_bit_none (i : Nat) : PrivateRoomPermissions.none.bits.getLsbD i = true → False := by
  simp [PrivateRoomPermissions.none]

theorem row_change_cleared (keyed : row.principalId = (room.members[target]?).elim target PrivateRoomMember.principalId)
    (left : row.status.carriesPermissions = false) (cleared : row.permissions = .none)
    (spared : target = room.ownerPrincipalId → room.members[target]?.any PrivateRoomMember.hasJoined = false) :
    RowChange room actor target row :=
  ⟨keyed, fun _ => by unfold PrivateRoomMember.Coherent; rw [cleared, left]; rfl, spared,
    fun i held => (no_bit_none i (cleared ▸ held)).elim⟩

theorem not_joined_row (present : room.members[target]? = some member) (away : member.status ≠ .joined) :
    room.members[target]?.any PrivateRoomMember.hasJoined = false := by
  simp [present, PrivateRoomMember.hasJoined, away]

theorem archive_yields : Yields (archive actor) room (Answered actor room) := by
  rw [archive]
  refine yields_get ?_
  refine yields_ite (fun _ => yields_throw) fun owned => ?_
  refine yields_ite (fun _ => yields_pure (answered_false actor room)) fun _ => ?_
  exact yields_lift fun next advanced => RoomStep.archive next advanced (not_not.mp owned)

theorem archive_keeps : Yields (archive actor) room fun changed next => next.members = room.members ∧ (changed = false → next = room) := by
  rw [archive]
  refine yields_get (yields_ite (fun _ => yields_throw) fun _ => ?_)
  exact yields_ite (fun _ => yields_pure ⟨rfl, fun _ => rfl⟩) fun _ => yields_lift fun _ _ => ⟨rfl, nofun⟩

end PrivateRoom

end AgentRoom
