import AgentRoom.PrivateRoom.Steps

namespace AgentRoom

open Library

namespace PrivateRoom

structure RowWritten (room next : PrivateRoom) (target : PrincipalId) (row : PrivateRoomMember) : Prop where
  members : next.members = room.members.insert target row
  owner : next.ownerPrincipalId = room.ownerPrincipalId
  version : room.version.next = .ok next.version

def Settles (target : PrincipalId) (already : Option PrivateRoomMember → Prop)
    (becomes : Option PrivateRoomMember → PrivateRoomMember → Prop) (room : PrivateRoom) (changed : Bool) (next : PrivateRoom) : Prop :=
  if changed then ∃ row, becomes room.members[target]? row ∧ RowWritten room next target row
  else next = room ∧ already room.members[target]?

def Wrote (actor target : PrincipalId) (already : Option PrivateRoomMember → Prop)
    (becomes : Option PrivateRoomMember → PrivateRoomMember → Prop) (room : PrivateRoom) (changed : Bool) (next : PrivateRoom) : Prop :=
  if changed then ∃ row version, becomes room.members[target]? row ∧ RowChange room actor target row ∧ room.version.next = .ok version ∧
    next = { room with members := room.members.insert target row, version }
  else next = room ∧ already room.members[target]?

variable {actor target : PrincipalId} {already : Option PrivateRoomMember → Prop}
  {becomes : Option PrivateRoomMember → PrivateRoomMember → Prop} {room : PrivateRoom}

variable {method : RoomMethod} {version : AggregateVersion}

theorem wrote_settles (wrote : Yields method room (Wrote actor target already becomes room)) :
    Yields method room (Settles target already becomes room) := by
  refine yields_mono (fun changed next written => ?_) wrote
  cases changed with
  | false => exact written
  | true =>
    obtain ⟨row, version, fits, _, advanced, rfl⟩ := written
    exact ⟨row, fits, rfl, rfl, advanced⟩

theorem wrote_answered (wrote : Yields method room (Wrote actor target already becomes room)) :
    Yields method room (Answered actor room) := by
  refine yields_mono (fun changed next written => ?_) wrote
  cases changed with
  | false => exact written.1
  | true =>
    obtain ⟨row, version, _, change, advanced, rfl⟩ := written
    exact .row target row version advanced change

theorem wrote_already (found : already room.members[target]?) :
    Yields (pure false : RoomMethod) room (Wrote actor target already becomes room) := ⟨rfl, found⟩

theorem wrote_write (present : room.members[target]? = some member) (advanced : room.version.next = .ok version)
    (fits : becomes (some member) (change member)) (changes : RowChange room actor target (change member)) :
    Yields (do writeMember target rule change; commitVersion version) room (Wrote actor target already becomes room) := by
  have run : (writeMember target rule change).run room = .ok () { room with members := room.members.insert target (change member) } := by
    simp only [writeMember, EStateM.run_bind, EStateM.run_get, present]
    rfl
  rw [Yields, EStateM.run_bind, run]
  exact ⟨change member, version, present ▸ fits, changes, advanced, rfl⟩

def putRow (room : PrivateRoom) (target : PrincipalId) (status : PrivateRoomMembershipStatus) (permissions : PrivateRoomPermissions) :
    PrivateRoomMember :=
  ⟨(room.members[target]?).elim target PrivateRoomMember.principalId, status, permissions⟩

variable {permissions : PrivateRoomPermissions}

theorem wrote_put {status : PrivateRoomMembershipStatus} (advanced : room.version.next = .ok version)
    (fits : becomes room.members[target]? (room.putRow target status permissions))
    (changes : RowChange room actor target (room.putRow target status permissions)) :
    Yields (do putMember target status permissions; commitVersion version) room (Wrote actor target already becomes room) := by
  have run : (putMember target status permissions).run room =
      .ok () { room with members := room.members.insert target (room.putRow target status permissions) } := by
    simp only [putMember, putRow, EStateM.run_bind, EStateM.run_get]
    cases room.members[target]? with
    | none => rfl
    | some member => rfl
  rw [Yields, EStateM.run_bind, run]
  exact ⟨room.putRow target status permissions, version, fits, changes, advanced, rfl⟩

variable (room)

-- A row that an invitation may be written over, and the row it makes.
def Invitable (permissions : PrivateRoomPermissions) (old : Option PrivateRoomMember) (row : PrivateRoomMember) : Prop :=
  (∀ member, old = some member → member.status = .declined ∨ member.status = .removed) ∧ row.status = .invited ∧
    row.permissions = permissions

def AlreadyInvited (permissions : PrivateRoomPermissions) (old : Option PrivateRoomMember) : Prop :=
  ∃ member, old = some member ∧ member.status = .invited ∧ member.permissions = permissions

theorem invite_wrote {actor target : PrincipalId} :
    Yields (invite actor target permissions) room (Wrote actor target (AlreadyInvited permissions) (Invitable permissions) room) := by
  rw [invite]
  refine yields_get ?_
  refine yields_lift fun _ _ => yields_lift fun _ _ => ?_
  refine yields_lift fun _ assignable => yields_lift fun _ grantable => ?_
  have viewed := require_assignable_ok assignable
  have bounded := require_grantable_ok room grantable
  have admitted (open' : ∀ member, room.members[target]? = some member → member.status = .declined ∨ member.status = .removed) :
      Yields (do
        let next ← lift room.version.next
        putMember target .invited permissions
        commitVersion next) room (Wrote actor target (AlreadyInvited permissions) (Invitable permissions) room) := by
    refine yields_lift fun version advanced => wrote_put advanced ⟨open', rfl, rfl⟩
      ⟨rfl, fun _ => viewed, fun _ => ?_, fun i held => .inr ((bounded i held).resolve_left (no_bit_none i))⟩
    cases present : room.members[target]? with
    | none => rfl
    | some member => rcases open' member present with gone | gone <;> simp [PrivateRoomMember.hasJoined, gone]
  cases present : room.members[target]? with
  | none => exact admitted (by simp [present])
  | some member =>
    by_cases invited : member.status = .invited
    · by_cases same : member.permissions = permissions
      · have found : AlreadyInvited permissions room.members[target]? := ⟨member, present, invited, same⟩
        simpa [invited, same] using @wrote_already actor target _ (Invitable permissions) room found
      · simpa [invited, same] using yields_throw
    · by_cases closed : member.status ≠ .declined ∧ member.status ≠ .removed
      · simpa [invited, closed] using yields_throw
      · have gone : member.status = .declined ∨ member.status = .removed := by tauto
        have open' : ∀ other, room.members[target]? = some other → other.status = .declined ∨ other.status = .removed := by
          intro other found
          cases present.symm.trans found
          exact gone
        simpa only [if_neg invited, if_neg closed] using admitted open'

def AlreadyHere (permissions : PrivateRoomPermissions) (old : Option PrivateRoomMember) : Prop :=
  old.any PrivateRoomMember.hasJoined = true ∨ AlreadyInvited permissions old

theorem invite_by_agent_wrote : Yields (inviteByAgent actor target) room
      (Wrote actor target (AlreadyHere (room.defaultInvitationFor actor)) (Invitable (room.defaultInvitationFor actor)) room) := by
  rw [inviteByAgent]
  refine yields_get (yields_lift fun _ _ => ?_)
  refine yields_ite (fun joined => ?_) fun _ => ?_
  · exact yields_lift fun _ _ => yields_lift fun _ _ => wrote_already (.inl joined)
  · refine yields_mono ?_ (invite_wrote room)
    intro changed next settles
    cases changed with
    | true => exact settles
    | false => exact ⟨settles.1, .inr settles.2⟩

def HasStatus (status : PrivateRoomMembershipStatus) (old : Option PrivateRoomMember) : Prop :=
  ∃ member, old = some member ∧ member.status = status

def Moves (source final : PrivateRoomMembershipStatus) (permissions : PrivateRoomMember → PrivateRoomPermissions)
    (old : Option PrivateRoomMember) (row : PrivateRoomMember) : Prop :=
  ∃ member, old = some member ∧ member.status = source ∧ row = member.replace final (permissions member)

variable {principalId : PrincipalId}

theorem accept_wrote : Yields (acceptInvitation principalId) room
      (Wrote principalId principalId (HasStatus .joined) (Moves .invited .joined PrivateRoomMember.permissions) room) := by
  rw [acceptInvitation]
  refine yields_get (yields_lift fun _ _ => ?_)
  cases present : room.members[principalId]? with
  | none => exact yields_throw
  | some member =>
    dsimp only
    cases status : member.status with
    | invited =>
      refine yields_lift fun version advanced =>
        wrote_write present advanced ⟨member, rfl, status, rfl⟩
          ⟨by rw [present]; rfl, fun coherent => ?_, fun _ => ?_, fun i held => .inl ?_⟩
      · have invitee : member.permissions.view = member.status.carriesPermissions := coherent member present
        rw [status] at invitee
        exact invitee
      · exact not_joined_row room present (by simp [status])
      · rw [holdsBit, permissions_of_row room present]
        exact held
    | joined => exact wrote_already ⟨member, present, status⟩
    | declined => exact yields_throw
    | removed => exact yields_throw
    | banned => exact yields_throw

theorem decline_wrote : Yields (declineInvitation principalId) room
      (Wrote principalId principalId (HasStatus .declined) (Moves .invited .declined fun _ => .none) room) := by
  rw [declineInvitation]
  refine yields_get (yields_lift fun _ _ => ?_)
  cases present : room.members[principalId]? with
  | none => exact yields_throw
  | some member =>
    dsimp only
    cases status : member.status with
    | invited =>
      exact yields_lift fun version advanced =>
        wrote_write present advanced ⟨member, rfl, status, rfl⟩
          (row_change_cleared room principalId (by rw [present]; rfl) rfl rfl
            fun _ => not_joined_row room present (by simp [status]))
    | declined => exact wrote_already ⟨member, present, status⟩
    | joined => exact yields_throw
    | removed => exact yields_throw
    | banned => exact yields_throw

def Leaves (old : Option PrivateRoomMember) (row : PrivateRoomMember) : Prop :=
  ∃ member, old = some member ∧ member.status.carriesPermissions = true ∧ row = member.replace .removed .none

theorem terminate_wrote (spared : target ≠ room.ownerPrincipalId) :
    Yields (terminateMembership target .removed transition) room (Wrote actor target (HasStatus .removed) Leaves room) := by
  rw [terminateMembership]
  refine yields_get ?_
  cases present : room.members[target]? with
  | none => exact yields_throw
  | some member =>
    refine yields_ite (fun gone => wrote_already ⟨member, present, gone⟩) fun _ => ?_
    refine yields_ite (fun _ => yields_throw) fun carries => ?_
    exact yields_lift fun version advanced =>
      wrote_write present advanced ⟨member, rfl, not_not.mp carries, rfl⟩
        (row_change_cleared room actor (by rw [present]; rfl) rfl rfl fun owner => (spared owner).elim)

theorem leave_wrote : Yields (leave principalId) room (Wrote principalId principalId (HasStatus .removed) Leaves room) := by
  rw [leave]
  refine yields_get (yields_lift fun _ _ => ?_)
  exact yields_ite (fun _ => yields_throw) fun spared =>
    terminate_wrote room spared

theorem remove_wrote : Yields (removeMember actor target) room (Wrote actor target (HasStatus .removed) Leaves room) := by
  rw [removeMember]
  refine yields_get (yields_lift fun _ _ => yields_lift fun _ _ => ?_)
  exact yields_lift fun _ spared =>
    terminate_wrote room (require_non_owner_ok room spared)

def Excluded (_ : Option PrivateRoomMember) (row : PrivateRoomMember) : Prop := row.status = .banned ∧ row.permissions = .none

theorem ban_wrote {actor : PrincipalId} :
    Yields (banMember actor target) room (Wrote actor target (HasStatus .banned) Excluded room) := by
  rw [banMember]
  refine yields_get (yields_lift fun _ _ => yields_lift fun _ _ => ?_)
  refine yields_lift fun _ passed => ?_
  have spared := require_non_owner_ok room passed
  refine yields_ite (fun banned => wrote_already ?_) fun _ => ?_
  · obtain ⟨member, present, status⟩ := (Option.any_eq_true ..).mp banned
    exact ⟨member, present, by simpa using status⟩
  · exact yields_lift fun version advanced => wrote_put advanced ⟨rfl, rfl⟩
      (row_change_cleared room actor rfl rfl rfl fun owner => (spared owner).elim)

theorem unban_wrote (actor target : PrincipalId) : Yields (unbanMember actor target) room
      (Wrote actor target (fun old => ¬ HasStatus .banned old) (Moves .banned .removed fun _ => .none) room) := by
  rw [unbanMember]
  refine yields_get (yields_lift fun _ _ => yields_lift fun _ _ => ?_)
  refine yields_ite (fun unbanned => wrote_already ?_) fun banned => ?_
  · rintro ⟨member, present, status⟩
    exact unbanned (by simp [present, status])
  · refine yields_lift fun version advanced => ?_
    obtain ⟨member, present, status⟩ := (Option.any_eq_true ..).mp (not_not.mp banned)
    have status : member.status = .banned := by simpa using status
    exact wrote_write present advanced ⟨member, rfl, status, rfl⟩
      (row_change_cleared room actor (by rw [present]; rfl) rfl rfl
        fun _ => not_joined_row room present (by simp [status]))

def Permits (permissions : PrivateRoomPermissions) (old : Option PrivateRoomMember) : Prop :=
  ∃ member, old = some member ∧ member.status.carriesPermissions = true ∧ member.permissions = permissions

def Repermits (permissions : PrivateRoomPermissions) (old : Option PrivateRoomMember) (row : PrivateRoomMember) : Prop :=
  ∃ member, old = some member ∧ member.status.carriesPermissions = true ∧ row = { member with permissions }

theorem update_permissions_wrote :
    Yields (updatePermissions actor target permissions) room (Wrote actor target (Permits permissions) (Repermits permissions) room) := by
  rw [updatePermissions]
  refine yields_get (yields_lift fun _ _ => yields_lift fun _ _ => ?_)
  refine yields_lift fun _ passed => yields_lift fun _ assignable => ?_
  have spared := require_non_owner_ok room passed
  have viewed := require_assignable_ok assignable
  cases present : room.members[target]? with
  | none => exact yields_throw
  | some member =>
    refine yields_ite (fun _ => yields_throw) fun carries => ?_
    refine yields_ite (fun same => wrote_already ⟨member, present, not_not.mp carries, same⟩) fun _ => ?_
    refine yields_lift fun _ grantable => yields_lift fun version advanced => ?_
    refine wrote_write present advanced ⟨member, rfl, not_not.mp carries, rfl⟩
      ⟨by rw [present]; rfl, fun _ => viewed.trans (not_not.mp carries).symm, fun owner => (spared owner).elim, fun i held => ?_⟩
    rw [holdsBit, permissions_of_row room present]
    exact require_grantable_ok room grantable i held

structure HandedOver (room next : PrivateRoom) (actor target : PrincipalId) (permissions : PrivateRoomPermissions)
    (successor former : PrivateRoomMember) : Prop where
  owned : actor = room.ownerPrincipalId
  other : target ≠ actor
  joined : room.members[target]? = some successor
  hasJoined : successor.hasJoined = true
  present : room.members[actor]? = some former
  members : next.members = ((room.members.erase target).insert actor { former with permissions }).insert target
    { successor with permissions := .all }
  owner : next.ownerPrincipalId = target
  version : room.version.next = .ok next.version

def Transfers (actor target : PrincipalId) (permissions : PrivateRoomPermissions) (room : PrivateRoom) (changed : Bool)
    (next : PrivateRoom) : Prop :=
  if changed then ∃ successor former, HandedOver room next actor target permissions successor former
  else next = room ∧ target = room.ownerPrincipalId

theorem transfer_transfers (actor target : PrincipalId) (permissions : PrivateRoomPermissions) :
    Yields (transferOwnership actor target permissions) room fun changed next =>
      Transfers actor target permissions room changed next ∧ Answered actor room changed next := by
  rw [transferOwnership]
  refine yields_get (yields_lift fun _ _ => ?_)
  refine yields_ite (fun _ => yields_throw) fun owned => ?_
  refine yields_ite (fun same => yields_pure ⟨⟨rfl, same⟩, rfl⟩) fun other => ?_
  refine yields_lift fun _ assignable => ?_
  refine yields_ite (fun _ => yields_throw) fun joins => ?_
  refine yields_ite (fun _ => yields_throw) fun known => ?_
  refine yields_lift fun version advanced => ?_
  have owner : actor = room.ownerPrincipalId := not_not.mp owned
  have different : target ≠ actor := fun same => other (same.trans owner)
  cases joined : room.members[target]? with
  | none => exact yields_throw
  | some successor =>
    obtain ⟨former, present⟩ := Option.isSome_iff_exists.mp (not_not.mp known)
    have kept : (room.members.erase target)[actor]? = some former := by
      rw [Std.ExtTreeMap.getElem?_erase, if_neg (by simpa using different), present]
    have hasJoined : successor.hasJoined = true := by simpa [joined] using joins
    have moved := @RoomStep.transfer actor room target successor former permissions version advanced owner different
      joined hasJoined present (require_assignable_ok assignable)
    simp only [Yields, EStateM.run_bind, EStateM.run_modify, EStateM.run_get, kept]
    exact ⟨⟨successor, former, owner, different, joined, hasJoined, present, rfl, rfl, advanced⟩, moved⟩

theorem perform_yields (op : RoomOp) : Yields op.perform room (Answered op.actor room) := by
  cases op with
  | invite actor target permissions => exact wrote_answered (invite_wrote room)
  | inviteByAgent actor target => exact wrote_answered (invite_by_agent_wrote room)
  | accept principalId => exact wrote_answered (accept_wrote room)
  | decline principalId => exact wrote_answered (decline_wrote room)
  | leave principalId => exact wrote_answered (leave_wrote room)
  | remove actor target => exact wrote_answered (remove_wrote room)
  | ban actor target => exact wrote_answered (ban_wrote room)
  | unban actor target => exact wrote_answered (unban_wrote room actor target)
  | updatePermissions actor target permissions => exact wrote_answered (update_permissions_wrote room)
  | transferOwnership actor target permissions =>
    exact yields_mono (fun _ _ moved => moved.2) (transfer_transfers room actor target permissions)
  | archive actor => exact archive_yields room actor

end PrivateRoom

end AgentRoom
