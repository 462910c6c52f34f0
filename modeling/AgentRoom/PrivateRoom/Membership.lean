import AgentRoom.Library.Runs
import AgentRoom.PrivateRoom.AgentsFollowRuns

namespace AgentRoom.PrivateRooms

open Library PrivateRoom

abbrev Membership := Option PrivateRoomMembershipStatus

def membership (room : PrivateRoom) (who : PrincipalId) : Membership := (room.members[who]?).map (·.status)

-- What a room operation does to one person's place in the room.
def Moves (who : PrincipalId) (before : Membership) (op : RoomOp) (after : Membership) : Prop :=
  after = before ∨ match op with
    | .invite _ target _ | .inviteByAgent _ target =>
      target = who ∧ (before = none ∨ before = some .declined ∨ before = some .removed) ∧ after = some .invited
    | .accept target => target = who ∧ before = some .invited ∧ after = some .joined
    | .decline target => target = who ∧ before = some .invited ∧ after = some .declined
    | .leave target | .remove _ target => target = who ∧ (before = some .invited ∨ before = some .joined) ∧ after = some .removed
    | .ban _ target => target = who ∧ after = some .banned
    | .unban _ target => target = who ∧ before = some .banned ∧ after = some .removed
    | .updatePermissions .. | .transferOwnership .. | .archive _ => False

variable {room : PrivateRoom} {who actor target : PrincipalId} {method : RoomMethod}

theorem yielded_moves (kept : Membership → Prop) (yields : Yields method room post) (same : kept (membership room who))
    (moved : ∀ value next, post value next → kept (membership next who)) : kept (membership (after method room) who) :=
  let holds (next : PrivateRoom) := kept (membership next who)
  (after_of_yields yields same moved : holds (after method room))

theorem settled_moves (kept : Membership → Prop) (wrote : Yields method room (Wrote actor target already becomes room))
    (same : kept (membership room who)) (fits : target = who → ∀ row, becomes room.members[who]? row → kept (some row.status)) :
    kept (membership (after method room) who) := by
  refine yielded_moves kept (wrote_settles wrote) same fun changed next settles => ?_
  by_cases mine : who = target
  · subst mine
    cases changed with
    | false => exact settles.1 ▸ same
    | true =>
      obtain ⟨row, becoming, present⟩ := settles_row settles
      rw [membership, present]
      exact fits rfl row becoming
  · rw [membership, settles_others settles who mine]
    exact same

theorem leaving_moves (leaves : PrivateRoom.Leaves room.members[who]? row) :
    (membership room who = some .invited ∨ membership room who = some .joined) ∧ some row.status = some .removed := by
  obtain ⟨member, present, carries, rfl⟩ := leaves
  rw [membership, present]
  cases status : member.status <;> simp_all [PrivateRoomMembershipStatus.carriesPermissions, PrivateRoomMember.replace]

theorem operation_moves (op : RoomOp) : Moves who (membership room who) op (membership (after op.perform room) who) := by
  cases op with
  | invite actor target permissions =>
    refine settled_moves (Moves who _ _) (invite_wrote room) (.inl rfl) fun mine row fits => .inr ⟨mine, ?_⟩
    grind [membership, Invitable]
  | inviteByAgent actor target =>
    refine settled_moves (Moves who _ _) (invite_by_agent_wrote room) (.inl rfl) fun mine row fits => .inr ⟨mine, ?_⟩
    grind [membership, Invitable]
  | accept target =>
    refine settled_moves (Moves who _ _) (accept_wrote room) (.inl rfl) fun mine row fits => .inr ⟨mine, ?_⟩
    grind [membership, PrivateRoom.Moves, PrivateRoomMember.replace]
  | decline target =>
    refine settled_moves (Moves who _ _) (decline_wrote room) (.inl rfl) fun mine row fits => .inr ⟨mine, ?_⟩
    grind [membership, PrivateRoom.Moves, PrivateRoomMember.replace]
  | leave target =>
    exact settled_moves (Moves who _ _) (leave_wrote room) (.inl rfl) fun mine row fits => .inr ⟨mine, leaving_moves fits⟩
  | remove actor target =>
    exact settled_moves (Moves who _ _) (remove_wrote room) (.inl rfl) fun mine row fits => .inr ⟨mine, leaving_moves fits⟩
  | ban actor target =>
    exact settled_moves (Moves who _ _) (ban_wrote room) (.inl rfl) fun mine row fits => .inr ⟨mine, congrArg some fits.1⟩
  | unban actor target =>
    refine settled_moves (Moves who _ _) (unban_wrote room actor target) (.inl rfl) fun mine row fits => .inr ⟨mine, ?_⟩
    grind [membership, PrivateRoom.Moves, PrivateRoomMember.replace]
  | updatePermissions actor target permissions =>
    refine settled_moves (Moves who _ _) (update_permissions_wrote room) (.inl rfl) fun mine row fits => .inl ?_
    grind [membership, Repermits]
  | transferOwnership actor target permissions =>
    refine yielded_moves (Moves who _ _) (transfer_transfers room actor target permissions) (.inl rfl) fun changed next moved => .inl ?_
    cases changed with
    | false => rw [moved.1.1]
    | true =>
      obtain ⟨successor, former, handed⟩ := moved.1
      obtain ⟨taken, left, others⟩ := handed_over_rows handed
      by_cases mine : who = actor ∨ who = target
      · rcases mine with rfl | rfl
        · simp [membership, left, handed.present]
        · simp [membership, taken, handed.joined]
      · rw [membership, others who mine, membership]
  | archive actor =>
    exact yielded_moves (Moves who _ _) (archive_keeps room _) (.inl rfl) fun _ next kept => .inl (by rw [membership, kept.1]; rfl)

-- The room runs the membership machine of each person.
theorem membership_runs (ops : List RoomOp) (start : PrivateRoom) (who : PrincipalId) :
    Runs (Moves who) (membership start who) ops (membership (runAll RoomOp.perform start ops) who) := by
  induction ops generalizing start with
  | nil => rfl
  | cons op rest ih => exact ⟨_, operation_moves op, ih _⟩

theorem joining_is_accepting_and_bans_stand (ops : List RoomOp) (start : PrivateRoom) (who : PrincipalId) :
    (membership (runAll RoomOp.perform start ops) who = some .joined → membership start who = some .joined ∨ .accept who ∈ ops) ∧
      (membership start who = some .banned → membership (runAll RoomOp.perform start ops) who = some .banned ∨
        ∃ actor, .unban actor who ∈ ops) := by
  induction ops generalizing start with
  | nil => exact ⟨.inl, .inl⟩
  | cons op rest ih =>
    obtain ⟨joins, stands⟩ := ih (after op.perform start)
    have moves : Moves who (membership start who) op _ := operation_moves op
    rw [run_all_cons]
    constructor
    · intro joined
      cases op <;> grind [Moves]
    · intro banned
      cases op <;> grind [Moves]

end AgentRoom.PrivateRooms
