import AgentRoom.PrivateRoom.Effects

namespace AgentRoom

open Library

namespace PrivateRoom

-- A row the type can hold: PrivateRoomMember::restore is its only public constructor.
def Restorable (member : PrivateRoomMember) : Prop :=
  PrivateRoomMember.restore member.principalId member.status member.permissions = .ok member

inductive Produced : PrivateRoom → Prop where
  | create (catalogId : RoomCatalogId) (ownerPrincipalId : PrincipalId) :
      Produced (create catalogId ownerPrincipalId)
  | createByAgent (catalogId : RoomCatalogId) (ownerPrincipalId : PrincipalId) (agentId : AgentId) :
      Produced (createByAgent catalogId ownerPrincipalId agentId)
  | restore (catalogId : RoomCatalogId) (ownerPrincipalId : PrincipalId) (status : PrivateRoomLifecycleStatus)
      (rows : List PrivateRoomMember) (version : AggregateVersion) (createdByAgent : Option AgentId)
      (room : PrivateRoom) (typed : ∀ member ∈ rows, Restorable member)
      (restored : restore catalogId ownerPrincipalId status rows version createdByAgent = .ok room) :
      Produced room

structure RoomInvariant (room : PrivateRoom) : Prop where
  owned : ∃ owner, room.members[room.ownerPrincipalId]? = some owner ∧ owner.status = .joined ∧ owner.permissions = .all
  keyed : ∀ (key : PrincipalId) (member : PrivateRoomMember), room.members[key]? = some member → member.principalId = key
  coherent : ∀ (key : PrincipalId) (member : PrivateRoomMember), room.members[key]? = some member → member.Coherent

variable {members : MemberMap} (actor : PrincipalId) (inv : RoomInvariant room) (member : PrivateRoomMember)

theorem restorable_iff : Restorable member ↔ member.Coherent := by
  rw [Restorable, PrivateRoomMember.restore, PrivateRoomMember.Coherent, PrivateRoomPermissions.canBeAssignedToMember]
  by_cases same : member.status.carriesPermissions = member.permissions.view
  · simp [same]
  · simp [same, eq_comm]

theorem coherent_view (coherent : member.Coherent) :
    member.permissions.view = true ↔ member.status = .invited ∨ member.status = .joined := by
  rw [coherent]
  cases member.status <;> simp [PrivateRoomMembershipStatus.carriesPermissions]

theorem coherent_empty (coherent : member.Coherent)
    (left : ¬ (member.status = .invited ∨ member.status = .joined)) : member.permissions = .none := by
  have blind : ¬ member.permissions.view = true := fun viewed => left ((coherent_view member coherent).mp viewed)
  exact PrivateRoomPermissions.blind_is_none member.permissions (by simpa using blind)

theorem read_insert (key target : PrincipalId) (row : PrivateRoomMember) :
    (members.insert target row)[key]? = if key = target then some row else members[key]? := by
  rw [Std.ExtTreeMap.getElem?_insert]
  by_cases same : key = target
  · subst same
    simp
  · have apart : ¬ target = key := fun equal => same equal.symm
    simp [same, apart]

theorem read_erase (key target : PrincipalId) : (members.erase target)[key]? = if key = target then none else members[key]? := by
  rw [Std.ExtTreeMap.getElem?_erase]
  by_cases same : key = target
  · subst same
    simp
  · have apart : ¬ target = key := fun equal => same equal.symm
    simp [same, apart]

theorem index_members_reads (rows : List PrivateRoomMember) (indexed result : MemberMap)
    (built : indexMembers indexed rows = .ok result) (key : PrincipalId) (member : PrivateRoomMember)
    (present : result[key]? = some member) : indexed[key]? = some member ∨ (member ∈ rows ∧ member.principalId = key) := by
  induction rows generalizing indexed with
  | nil =>
    cases built
    exact .inl present
  | cons row rest ih =>
    unfold indexMembers at built
    split at built
    · cases built
    · rcases ih _ built with earlier | ⟨later, named⟩
      · rw [read_insert] at earlier
        by_cases same : key = row.principalId
        · rw [if_pos same] at earlier
          cases earlier
          exact .inr ⟨List.mem_cons_self .., same.symm⟩
        · rw [if_neg same] at earlier
          exact .inl earlier
      · exact .inr ⟨List.mem_cons_of_mem _ later, named⟩

variable {next : PrivateRoom}

theorem index_members_complete (indexed : MemberMap)
    (distinct : rows.Pairwise fun first second => first.principalId ≠ second.principalId)
    (fresh : ∀ member ∈ rows, indexed[member.principalId]? = none) : ∃ result, indexMembers indexed rows = .ok result ∧
      (∀ member ∈ rows, result[member.principalId]? = some member) ∧
      ∀ (key : PrincipalId) (member : PrivateRoomMember), indexed[key]? = some member → result[key]? = some member := by
  induction rows generalizing indexed with
  | nil => exact ⟨indexed, rfl, by simp, fun _ _ present => present⟩
  | cons row rest ih =>
    obtain ⟨apart, distinctRest⟩ := List.pairwise_cons.mp distinct
    have absent : indexed[row.principalId]? = none := fresh row List.mem_cons_self
    have freshRest : ∀ member ∈ rest, (indexed.insert row.principalId row)[member.principalId]? = none := by
      intro member later
      rw [read_insert, if_neg (fun same => apart member later same.symm)]
      exact fresh member (List.mem_cons_of_mem _ later)
    obtain ⟨result, built, rows', kept⟩ := ih _ distinctRest freshRest
    refine ⟨result, ?_, ?_, ?_⟩
    · simpa [indexMembers, absent] using built
    · intro member either
      rcases List.mem_cons.mp either with first | later
      · subst first
        exact kept _ _ (by rw [read_insert, if_pos rfl])
      · exact rows' member later
    · intro key member present
      refine kept key member ?_
      by_cases same : key = row.principalId
      · rw [same, absent] at present
        cases present
      · rw [read_insert, if_neg same]
        exact present

variable {room : PrivateRoom}

theorem member_rows_iff (inv : RoomInvariant room) (member : PrivateRoomMember) :
    member ∈ room.memberRows ↔ room.members[member.principalId]? = some member := by
  simp only [memberRows, List.mem_map, Prod.exists, exists_eq_right]
  constructor
  · rintro ⟨key, listed⟩
    have present := Std.ExtTreeMap.mem_toList_iff_getElem?_eq_some.mp listed
    have named := inv.keyed key member present
    exact named ▸ present
  · intro present
    exact ⟨member.principalId, Std.ExtTreeMap.mem_toList_iff_getElem?_eq_some.mpr present⟩

theorem member_rows_distinct (inv : RoomInvariant room) :
    room.memberRows.Pairwise fun first second => first.principalId ≠ second.principalId := by
  rw [memberRows]
  rw [List.pairwise_map]
  refine List.Pairwise.imp_of_mem ?_ (Std.ExtTreeMap.distinct_keys_toList)
  intro first second listed listed' apart same
  have named := inv.keyed _ _ (Std.ExtTreeMap.mem_toList_iff_getElem?_eq_some.mp listed)
  have named' := inv.keyed _ _ (Std.ExtTreeMap.mem_toList_iff_getElem?_eq_some.mp listed')
  have equal : first.1 = second.1 := named.symm.trans (same.trans named')
  rw [equal] at apart
  simp at apart

theorem restore_member_rows (inv : RoomInvariant room) :
    restore room.catalogId room.ownerPrincipalId room.status room.memberRows room.version room.createdByAgent =
      .ok room := by
  obtain ⟨indexed, built, rows, _⟩ :=
    index_members_complete ∅ (member_rows_distinct inv) (by simp)
  have same : indexed = room.members := by
    apply Std.ExtTreeMap.ext_getElem?
    intro key
    cases present : indexed[key]? with
    | some member =>
      rcases index_members_reads room.memberRows ∅ indexed built key member present with empty | ⟨listed, named⟩
      · simp at empty
      · exact (named ▸ (member_rows_iff inv member).mp listed).symm
    | none =>
      cases held : room.members[key]? with
      | none => rfl
      | some member =>
        have named := inv.keyed key member held
        have listed := (member_rows_iff inv member).mpr (named.symm ▸ held)
        have read := rows member listed
        rw [named, present] at read
        cases read
  obtain ⟨owner, present, joined, full⟩ := inv.owned
  subst same
  simp only [restore, built, bind, Except.bind, present, PrivateRoomMember.hasJoined, joined, full]
  rfl

theorem create_invariant (catalogId : RoomCatalogId) (ownerPrincipalId : PrincipalId) :
    RoomInvariant (create catalogId ownerPrincipalId) := by
  have only : ∀ (key : PrincipalId) (member : PrivateRoomMember), (create catalogId ownerPrincipalId).members[key]? = some member →
      key = ownerPrincipalId ∧ member = ⟨ownerPrincipalId, .joined, .all⟩ := by
    intro key member present
    simp only [create, read_insert] at present
    by_cases same : key = ownerPrincipalId
    · rw [if_pos same] at present
      exact ⟨same, (Option.some.inj present).symm⟩
    · simp [same] at present
  refine ⟨⟨⟨ownerPrincipalId, .joined, .all⟩, by simp [create], rfl, rfl⟩, ?_, ?_⟩
  · intro key member present
    obtain ⟨same, row⟩ := only key member present
    rw [row, same]
  · intro key member present
    obtain ⟨_, row⟩ := only key member present
    simp [row, PrivateRoomMember.Coherent, PrivateRoomMembershipStatus.carriesPermissions]

theorem restored_invariant {catalogId : RoomCatalogId} {ownerPrincipalId : PrincipalId} {status : PrivateRoomLifecycleStatus}
    {version : AggregateVersion} {createdByAgent : Option AgentId} (typed : ∀ member ∈ rows, Restorable member)
    (restored : restore catalogId ownerPrincipalId status rows version createdByAgent = .ok room) : RoomInvariant room := by
  unfold restore at restored
  cases built : indexMembers ∅ rows with
  | error failure =>
    rw [built] at restored
    cases restored
  | ok indexed =>
    simp only [built, bind, Except.bind] at restored
    have listed : ∀ (key : PrincipalId) (member : PrivateRoomMember), indexed[key]? = some member → member ∈ rows ∧ member.principalId = key := by
      intro key member present
      rcases index_members_reads rows ∅ indexed built key member present with empty | row
      · simp at empty
      · exact row
    cases present : indexed[ownerPrincipalId]? with
    | none =>
      rw [present] at restored
      cases restored
    | some owner =>
      simp only [present] at restored
      split at restored
      · cases restored
      · rename_i whole
        cases restored
        have joined : owner.hasJoined = true ∧ owner.permissions = .all := by simpa using whole
        exact ⟨⟨owner, present, by simpa [PrivateRoomMember.hasJoined] using joined.1, joined.2⟩,
          fun key member held => (listed key member held).2,
          fun key member held => (restorable_iff member).mp (typed member (listed key member held).1)⟩

theorem produced_invariant {room : PrivateRoom} (produced : Produced room) : RoomInvariant room := by
  cases produced with
  | create catalogId ownerPrincipalId => exact create_invariant catalogId ownerPrincipalId
  | createByAgent catalogId ownerPrincipalId agentId =>
    obtain ⟨owned, keyed, coherent⟩ := create_invariant catalogId ownerPrincipalId
    exact ⟨owned, keyed, coherent⟩
  | restore catalogId ownerPrincipalId status rows version createdByAgent _ typed restored =>
    exact restored_invariant typed restored

theorem row_step_invariant {actor target : PrincipalId} {row : PrivateRoomMember}
    (next : AggregateVersion) (inv : RoomInvariant room) (change : RowChange room actor target row) :
    RoomInvariant { room with members := room.members.insert target row, version := next } := by
  have named : row.principalId = target := by
    rw [change.keyed]
    cases present : room.members[target]? with
    | none => rfl
    | some member => exact inv.keyed target member present
  obtain ⟨owner, present, joined, full⟩ := inv.owned
  refine ⟨⟨owner, ?_, joined, full⟩, ?_, ?_⟩
  · have elsewhere : room.ownerPrincipalId ≠ target := by
      intro same
      have away := change.spared same.symm
      rw [← same, present] at away
      simp [PrivateRoomMember.hasJoined, joined] at away
    simp only [read_insert, if_neg elsewhere]
    exact present
  · intro key member held
    simp only [read_insert] at held
    by_cases same : key = target
    · rw [if_pos same] at held
      cases held
      exact named.trans same.symm
    · rw [if_neg same] at held
      exact inv.keyed key member held
  · intro key member held
    simp only [read_insert] at held
    by_cases same : key = target
    · rw [if_pos same] at held
      cases held
      exact change.coherent fun old => inv.coherent target old
    · rw [if_neg same] at held
      exact inv.coherent key member held

theorem transferred_reads (target key : PrincipalId) (former successor : PrivateRoomMember) :
    (((members.erase target).insert actor former).insert target successor)[key]? =
      if key = target then some successor else if key = actor then some former else members[key]? := by
  rw [read_insert, read_insert, read_erase]
  by_cases same : key = target
  · simp [same]
  · simp [same]

theorem step_invariant (room next : PrivateRoom) (inv : RoomInvariant room)
    (step : RoomStep actor room next) : RoomInvariant next := by
  cases step with
  | row target row version _ change => exact row_step_invariant version inv change
  | transfer target successor former permissions version _ owner other joined hasJoined present assignable =>
    have formerJoined : former.status = .joined := by
      obtain ⟨owning, held, status, _⟩ := inv.owned
      rw [← owner, present] at held
      exact Option.some.inj held ▸ status
    have successorJoined : successor.status = .joined := by
      simpa [PrivateRoomMember.hasJoined] using hasJoined
    refine ⟨⟨{ successor with permissions := .all }, ?_, successorJoined, rfl⟩, ?_, ?_⟩
    · simp
    · intro key member held
      simp only [transferred_reads] at held
      by_cases first : key = target
      · rw [if_pos first] at held
        cases held
        exact first ▸ inv.keyed target successor joined
      · rw [if_neg first] at held
        by_cases second : key = actor
        · rw [if_pos second] at held
          cases held
          exact second ▸ inv.keyed actor former present
        · rw [if_neg second] at held
          exact inv.keyed key member held
    · intro key member held
      simp only [transferred_reads] at held
      by_cases first : key = target
      · rw [if_pos first] at held
        cases held
        simp [PrivateRoomMember.Coherent, successorJoined, PrivateRoomMembershipStatus.carriesPermissions]
      · rw [if_neg first] at held
        by_cases second : key = actor
        · rw [if_pos second] at held
          cases held
          simp [PrivateRoomMember.Coherent, formerJoined, assignable, PrivateRoomMembershipStatus.carriesPermissions]
        · rw [if_neg second] at held
          exact inv.coherent key member held
  | archive version _ _ => exact ⟨inv.owned, inv.keyed, inv.coherent⟩

theorem step_version (step : RoomStep actor room next) : next.version.value = room.version.value + 1 := by
  cases step with
  | row _ _ version advanced _ => exact AggregateVersion.next_value advanced
  | transfer _ _ _ _ version advanced => exact AggregateVersion.next_value advanced
  | archive version advanced _ => exact AggregateVersion.next_value advanced

theorem answered_cases (answered : Answered actor room changed next) :
    (changed = false ∧ next = room) ∨ (changed = true ∧ RoomStep actor room next) := by
  cases changed with
  | false => exact .inl ⟨rfl, answered⟩
  | true => exact .inr ⟨rfl, answered⟩

theorem perform_invariant (room : PrivateRoom) (op : RoomOp) (inv : RoomInvariant room) :
    RoomInvariant (after op.perform room) := by
  refine after_of_yields (perform_yields room op) inv ?_
  intro changed next answered
  rcases answered_cases op.actor answered with ⟨_, same⟩ | ⟨_, step⟩
  · exact same ▸ inv
  · exact step_invariant op.actor room next inv step

theorem run_invariant (inv : RoomInvariant start) : RoomInvariant (runAll RoomOp.perform start ops) :=
  run_all_invariant RoomOp.perform RoomInvariant (fun room op => perform_invariant room op) ops start inv

def CallContract (room : PrivateRoom) : EStateM.Result DomainError PrivateRoom Bool → Prop
  | .error _ next => next = room
  | .ok false next => next = room
  | .ok true next => next.version.value = room.version.value + 1

theorem perform_contract (room : PrivateRoom) (op : RoomOp) : CallContract room (op.perform.run room) := by
  cases run : op.perform.run room with
  | error failure next => exact yields_error (perform_yields room op) run
  | ok changed next =>
    have answered := yields_ok (perform_yields room op) run
    rcases answered_cases op.actor answered with ⟨no, same⟩ | ⟨yes, step⟩
    · subst no
      exact same
    · subst yes
      exact step_version op.actor step

theorem reached_rooms_are_whole_and_calls_are_atomic (start : PrivateRoom) (produced : Produced start) (ops : List RoomOp) :
    let room := runAll RoomOp.perform start ops
    (∃ owner, room.members[room.ownerPrincipalId]? = some owner ∧ owner.status = .joined ∧ owner.permissions = .all) ∧
      (∀ (key : PrincipalId) (member : PrivateRoomMember), room.members[key]? = some member → member.principalId = key ∧
        (member.permissions.view = true ↔ member.status = .invited ∨ member.status = .joined) ∧
        (¬ (member.status = .invited ∨ member.status = .joined) → member.permissions = .none)) ∧
      restore room.catalogId room.ownerPrincipalId room.status room.memberRows room.version room.createdByAgent = .ok room ∧
      ∀ op : RoomOp, CallContract room (op.perform.run room) := by
  intro room
  have inv : RoomInvariant room := run_invariant (produced_invariant produced)
  refine ⟨inv.owned, ?_, restore_member_rows inv, perform_contract room⟩
  intro key member present
  have coherent := inv.coherent key member present
  exact ⟨inv.keyed key member present, coherent_view member coherent, coherent_empty member coherent⟩

theorem reached_rooms_after_reentry :
    let room := runAll RoomOp.perform (create ⟨1⟩ ⟨10⟩)
      [.invite ⟨10⟩ ⟨11⟩ .all, .accept ⟨11⟩, .ban ⟨10⟩ ⟨11⟩, .accept ⟨11⟩, .unban ⟨10⟩ ⟨11⟩,
        .invite ⟨10⟩ ⟨11⟩ .invitedByAgent, .accept ⟨11⟩, .transferOwnership ⟨10⟩ ⟨11⟩ .invitedByAgent]
    room.ownerPrincipalId = ⟨11⟩ ∧ room.version.value = 7 ∧
      restore room.catalogId room.ownerPrincipalId room.status room.memberRows room.version room.createdByAgent =
        .ok room :=
  ⟨by decide, by decide,
    (reached_rooms_are_whole_and_calls_are_atomic (create ⟨1⟩ ⟨10⟩) (.create ⟨1⟩ ⟨10⟩) _).2.2.1⟩

end PrivateRoom

open Library

namespace PrivateRoom

def Reachable (room : PrivateRoom) : Prop :=
  ∃ start ops, Produced start ∧ room = runAll RoomOp.perform start ops

-- Whoever acts, it is never the owner of the room as it stands at that moment.
def NoOwnerActs (room : PrivateRoom) : List RoomOp → Prop
  | [] => True
  | op :: rest => op.actor ≠ room.ownerPrincipalId ∧ NoOwnerActs (after op.perform room) rest

def nonOwnerRows (room : PrivateRoom) : List PrivateRoomMember :=
  room.memberRows.filter fun member => member.principalId != room.ownerPrincipalId

-- The union of the bits in all rows but the owner's.
def nonOwnerBits (room : PrivateRoom) : BitVec 8 :=
  room.nonOwnerRows.foldl (fun bits member => bits ||| member.permissions.bits) 0#8

theorem union_bits (rows : List PrivateRoomMember) (bits : BitVec 8) (i : Nat) :
    (rows.foldl (fun bits member => bits ||| member.permissions.bits) bits).getLsbD i = true ↔
      bits.getLsbD i = true ∨ ∃ member ∈ rows, member.permissions.bits.getLsbD i = true := by
  induction rows generalizing bits with
  | nil => simp
  | cons row rest ih =>
    rw [List.foldl_cons, ih, BitVec.getLsbD_or, Bool.or_eq_true]
    simp only [List.mem_cons, exists_eq_or_imp]
    exact or_assoc

variable {room : PrivateRoom}

theorem non_owner_bit_iff (inv : RoomInvariant room) (i : Nat) : room.nonOwnerBits.getLsbD i = true ↔
      ∃ key, key ≠ room.ownerPrincipalId ∧ room.holdsBit key i := by
  unfold nonOwnerBits nonOwnerRows
  rw [union_bits]
  simp only [List.mem_filter, bne_iff_ne]
  constructor
  · rintro (empty | ⟨member, ⟨listed, other⟩, held⟩)
    · simp at empty
    · have present := (member_rows_iff inv member).mp listed
      refine ⟨member.principalId, other, ?_⟩
      rw [holdsBit, permissions_of_row room present]
      exact held
  · rintro ⟨key, other, held⟩
    unfold holdsBit permissionsOf at held
    cases present : room.members[key]? with
    | none =>
      rw [present] at held
      exact (no_bit_none i held).elim
    | some member =>
      rw [present] at held
      have named := inv.keyed key member present
      exact .inr ⟨member, ⟨(member_rows_iff inv member).mpr (named ▸ present), named ▸ other⟩, held⟩

structure NoGain (before next : PrivateRoom) : Prop where
  owner : next.ownerPrincipalId = before.ownerPrincipalId
  ownerRow : next.members[next.ownerPrincipalId]? = before.members[before.ownerPrincipalId]?
  bits : ∀ i, next.nonOwnerBits.getLsbD i = true → before.nonOwnerBits.getLsbD i = true

theorem no_gain_refl (room : PrivateRoom) : NoGain room room := ⟨rfl, rfl, fun _ held => held⟩

theorem no_gain_trans (earlier : NoGain first second) (later : NoGain second third) : NoGain first third :=
  ⟨later.owner.trans earlier.owner, later.ownerRow.trans earlier.ownerRow, fun i held => earlier.bits i (later.bits i held)⟩

theorem row_step_no_gain (actor : PrincipalId) {row : PrivateRoomMember}
    (inv : RoomInvariant room) (stranger : actor ≠ room.ownerPrincipalId) (change : RowChange room actor target row) :
    NoGain room { room with members := room.members.insert target row, version := next } := by
  have inv' := row_step_invariant next inv change
  have elsewhere : room.ownerPrincipalId ≠ target := by
    intro same
    obtain ⟨owner, present, joined, _⟩ := inv.owned
    have away := change.spared same.symm
    rw [← same, present] at away
    simp [PrivateRoomMember.hasJoined, joined] at away
  refine ⟨rfl, by simp [read_insert, if_neg elsewhere], ?_⟩
  intro i held
  rw [non_owner_bit_iff inv'] at held
  rw [non_owner_bit_iff inv]
  obtain ⟨key, other, bit⟩ := held
  by_cases same : key = target
  · have granted : row.permissions.bits.getLsbD i = true := by
      simpa [holdsBit, permissionsOf, same] using bit
    -- The bit was the target's own or the actor's, and neither is the owner.
    rcases change.granted i granted with own | given
    · exact ⟨target, elsewhere.symm, own⟩
    · exact ⟨actor, stranger, given⟩
  · have kept : room.holdsBit key i := by
      simpa [holdsBit, permissionsOf, read_insert, same] using bit
    exact ⟨key, other, kept⟩

theorem step_no_gain {actor : PrincipalId} (inv : RoomInvariant room)
    (stranger : actor ≠ room.ownerPrincipalId) (step : RoomStep actor room next) : NoGain room next := by
  cases step with
  | row target row version _ change => exact row_step_no_gain actor inv stranger change
  | transfer _ _ _ _ _ _ owner => exact (stranger owner).elim
  | archive _ _ owner => exact (stranger owner).elim

theorem perform_no_gain (room : PrivateRoom) (op : RoomOp) (inv : RoomInvariant room)
    (stranger : op.actor ≠ room.ownerPrincipalId) : NoGain room (after op.perform room) := by
  refine after_of_yields (perform_yields room op) (no_gain_refl room) ?_
  intro changed next answered
  rcases answered_cases op.actor answered with ⟨_, same⟩ | ⟨_, step⟩
  · exact same ▸ no_gain_refl room
  · exact step_no_gain inv stranger step

theorem run_no_gain (ops : List RoomOp) (room : PrivateRoom) (inv : RoomInvariant room)
    (strangers : NoOwnerActs room ops) : NoGain room (runAll RoomOp.perform room ops) := by
  induction ops generalizing room with
  | nil => exact no_gain_refl room
  | cons op rest ih =>
    obtain ⟨stranger, later⟩ := strangers
    exact no_gain_trans (perform_no_gain room op inv stranger)
      (ih _ (perform_invariant room op inv) later)

theorem reachable_invariant (room : PrivateRoom) (reached : Reachable room) : RoomInvariant room := by
  obtain ⟨start, ops, produced, rfl⟩ := reached
  exact run_invariant (produced_invariant produced)

theorem no_escalation_without_the_owner (room : PrivateRoom) (reached : Reachable room) (ops : List RoomOp)
    (strangers : NoOwnerActs room ops) : let final := runAll RoomOp.perform room ops
    (∀ i, final.nonOwnerBits.getLsbD i = true → room.nonOwnerBits.getLsbD i = true) ∧
      final.ownerPrincipalId = room.ownerPrincipalId ∧
      final.permissionsOf final.ownerPrincipalId = room.permissionsOf room.ownerPrincipalId := by
  intro final
  have gained := run_no_gain ops room (reachable_invariant room reached) strangers
  refine ⟨gained.bits, gained.owner, ?_⟩
  unfold permissionsOf
  rw [gained.ownerRow]

def delegated : PrivateRoom :=
  runAll RoomOp.perform (create ⟨1⟩ ⟨10⟩) [.invite ⟨10⟩ ⟨11⟩ ⟨0b1111#8, by decide⟩, .accept ⟨11⟩]

theorem no_escalation_along_a_delegation :
    (runAll RoomOp.perform delegated [.invite ⟨11⟩ ⟨12⟩ .all, .invite ⟨11⟩ ⟨12⟩ ⟨0b111#8, by decide⟩, .accept ⟨12⟩,
      .invite ⟨12⟩ ⟨13⟩ ⟨0b111#8, by decide⟩, .leave ⟨11⟩]).nonOwnerBits = 0b111#8 ∧
      ∀ i, (runAll RoomOp.perform delegated [.invite ⟨11⟩ ⟨12⟩ .all, .invite ⟨11⟩ ⟨12⟩ ⟨0b111#8, by decide⟩,
        .accept ⟨12⟩, .invite ⟨12⟩ ⟨13⟩ ⟨0b111#8, by decide⟩, .leave ⟨11⟩]).nonOwnerBits.getLsbD i = true →
          delegated.nonOwnerBits.getLsbD i = true :=
  ⟨by decide, (no_escalation_without_the_owner delegated ⟨_, _, .create ⟨1⟩ ⟨10⟩, rfl⟩ _
    (by refine ⟨?_, ?_, ?_, ?_, ?_, trivial⟩ <;> decide)).1⟩

end PrivateRoom

end AgentRoom
