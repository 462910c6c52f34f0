import AgentRoom.Domain.Basics
import AgentRoom.Library.Method

namespace AgentRoom

inductive PrivateRoomCapability where
  | view
  | speak
  | invite
  | manage
  | automate
deriving DecidableEq

namespace PrivateRoomPermissions

def viewBit : BitVec 8 := 1#8
def speakBit : BitVec 8 := 1#8 <<< 1
def inviteBit : BitVec 8 := 1#8 <<< 2
def manageBit : BitVec 8 := 1#8 <<< 3
def automateBit : BitVec 8 := 1#8 <<< 4
def knownBits : BitVec 8 := viewBit ||| speakBit ||| inviteBit ||| manageBit ||| automateBit

-- What from_bits accepts: no unknown bit, view under every other bit, and
-- speak under automate.
def Consistent (bits : BitVec 8) : Prop :=
  bits &&& ~~~knownBits = 0#8 ∧ (bits ≠ 0#8 → bits &&& viewBit ≠ 0#8) ∧ (bits &&& automateBit ≠ 0#8 → bits &&& speakBit ≠ 0#8)

instance (bits : BitVec 8) : Decidable (Consistent bits) :=
  inferInstanceAs (Decidable (_ ∧ _ ∧ _))

end PrivateRoomPermissions

structure PrivateRoomPermissions where
  bits : BitVec 8
  consistent : PrivateRoomPermissions.Consistent bits
deriving DecidableEq

namespace PrivateRoomPermissions

def none : PrivateRoomPermissions := ⟨0#8, by decide⟩
def all : PrivateRoomPermissions := ⟨knownBits, by decide⟩
def invitedByAgent : PrivateRoomPermissions := ⟨viewBit ||| speakBit ||| automateBit, by decide⟩

def capabilityBit : PrivateRoomCapability → BitVec 8
  | .view => viewBit
  | .speak => speakBit
  | .invite => inviteBit
  | .manage => manageBit
  | .automate => automateBit

section

variable (permissions : PrivateRoomPermissions)

def view : Bool := permissions.bits &&& viewBit != 0#8

def allows (capability : PrivateRoomCapability) : Bool :=
  permissions.bits &&& capabilityBit capability != 0#8

def canBeAssignedToMember : Bool := permissions.view

-- The bits `next` has over `previous`. They need not be consistent on their
-- own: the source only ever compares them with what the granter holds.
def addedSince (next previous : PrivateRoomPermissions) : BitVec 8 := next.bits &&& ~~~previous.bits

def contains (bits : BitVec 8) : Bool :=
  bits &&& ~~~permissions.bits == 0#8

end

theorem consistent_bits (bits : BitVec 8) : Consistent bits ↔
    bits.getLsbD 5 = false ∧ bits.getLsbD 6 = false ∧ bits.getLsbD 7 = false ∧
      (bits.getLsbD 1 ∨ bits.getLsbD 2 ∨ bits.getLsbD 3 ∨ bits.getLsbD 4 → bits.getLsbD 0) ∧
      (bits.getLsbD 4 → bits.getLsbD 1) := by
  revert bits
  decide

theorem consistent_and (left : Consistent a) (right : Consistent b) : Consistent (a &&& b) := by
  rw [consistent_bits] at left right ⊢
  simp only [BitVec.getLsbD_and, Bool.and_eq_true]
  obtain ⟨five, six, seven, viewUnder, speakUnder⟩ := left
  obtain ⟨_, _, _, viewUnder', speakUnder'⟩ := right
  refine ⟨by rw [five, Bool.false_and], by rw [six, Bool.false_and], by rw [seven, Bool.false_and],
    fun held => ⟨viewUnder ?_, viewUnder' ?_⟩,
    fun automates => ⟨speakUnder automates.1, speakUnder' automates.2⟩⟩
  · exact held.imp And.left (Or.imp And.left (Or.imp And.left And.left))
  · exact held.imp And.right (Or.imp And.right (Or.imp And.right And.right))

def intersection (first second : PrivateRoomPermissions) : PrivateRoomPermissions :=
  ⟨first.bits &&& second.bits, consistent_and first.consistent second.consistent⟩

variable (permissions : PrivateRoomPermissions)

@[simp] theorem view_all : all.view = true := rfl
@[simp] theorem view_none : none.view = false := rfl

-- Without view nothing else is left, so the empty set is the only blind one.
theorem blind_is_none (blind : permissions.view = false) : permissions = none := by
  obtain ⟨bits, known, viewUnder, speakUnder⟩ := permissions
  have empty : bits = 0#8 := by
    by_contra some
    have seen : bits &&& viewBit ≠ 0#8 := viewUnder some
    simp [view, seen] at blind
  subst empty
  rfl

theorem contains_iff {bits : BitVec 8} :
    permissions.contains bits = true ↔ ∀ i, bits.getLsbD i = true → permissions.bits.getLsbD i = true := by
  simp only [contains, beq_iff_eq]
  constructor
  · intro empty i held
    have inside : i < 8 := BitVec.lt_of_getLsbD held
    have cleared := congrArg (fun word : BitVec 8 => word.getLsbD i) empty
    simpa [held, inside] using cleared
  · intro covered
    apply BitVec.eq_of_getLsbD_eq
    intro i inside
    cases held : bits.getLsbD i with
    | false => simp [held]
    | true => simp [covered i held, inside]

theorem added_since_bit {next previous : PrivateRoomPermissions} : (next.addedSince previous).getLsbD i = true ↔
      next.bits.getLsbD i = true ∧ previous.bits.getLsbD i = false := by
  simp only [addedSince, BitVec.getLsbD_and, BitVec.getLsbD_not, Bool.and_eq_true, Bool.not_eq_true', decide_eq_true_eq]
  constructor
  · rintro ⟨held, _, absent⟩
    exact ⟨held, absent⟩
  · rintro ⟨held, absent⟩
    exact ⟨held, BitVec.lt_of_getLsbD held, absent⟩

end PrivateRoomPermissions

open Library

inductive PrivateRoomLifecycleStatus where
  | active
  | archived
deriving DecidableEq

def PrivateRoomLifecycleStatus.asStr : PrivateRoomLifecycleStatus → String
  | .active => "active"
  | .archived => "archived"

inductive PrivateRoomMembershipStatus where
  | invited
  | joined
  | declined
  | removed
  | banned
deriving DecidableEq

namespace PrivateRoomMembershipStatus

def asStr : PrivateRoomMembershipStatus → String
  | .invited => "invited"
  | .joined => "joined"
  | .declined => "declined"
  | .removed => "removed"
  | .banned => "banned"

def carriesPermissions : PrivateRoomMembershipStatus → Bool
  | .invited | .joined => true
  | .declined | .removed | .banned => false

end PrivateRoomMembershipStatus

def privateRoomInvariant (entity rule : String) : DomainError := .invariantViolation entity rule

def invalidMemberTransition (source target : String) : DomainError :=
  .invalidTransition "private_room_member" source target

structure PrivateRoomMember where
  principalId : PrincipalId
  status : PrivateRoomMembershipStatus
  permissions : PrivateRoomPermissions
deriving DecidableEq

namespace PrivateRoomMember

def restore (principalId : PrincipalId) (status : PrivateRoomMembershipStatus)
    (permissions : PrivateRoomPermissions) : DomainResult PrivateRoomMember :=
  if status.carriesPermissions ≠ permissions.canBeAssignedToMember then
    .error (privateRoomInvariant "private_room_member" "邀请和已加入成员必须有权限，终态成员不得保留权限")
  else .ok ⟨principalId, status, permissions⟩

def hasJoined (member : PrivateRoomMember) : Bool := member.status == .joined

def allows (member : PrivateRoomMember) (capability : PrivateRoomCapability) : Bool :=
  member.hasJoined && member.permissions.allows capability

def replace (member : PrivateRoomMember) (status : PrivateRoomMembershipStatus)
    (permissions : PrivateRoomPermissions) : PrivateRoomMember :=
  { member with status, permissions }

end PrivateRoomMember

abbrev MemberMap := Std.ExtTreeMap PrincipalId PrivateRoomMember

structure PrivateRoom where
  catalogId : RoomCatalogId
  ownerPrincipalId : PrincipalId
  status : PrivateRoomLifecycleStatus
  members : MemberMap
  version : AggregateVersion
  createdByAgent : Option AgentId

namespace PrivateRoom

def create (catalogId : RoomCatalogId) (ownerPrincipalId : PrincipalId) : PrivateRoom where
  catalogId
  ownerPrincipalId
  status := .active
  members := (∅ : MemberMap).insert ownerPrincipalId ⟨ownerPrincipalId, .joined, .all⟩
  version := .initial
  createdByAgent := none

def createByAgent (catalogId : RoomCatalogId) (ownerPrincipalId : PrincipalId) (agentId : AgentId) : PrivateRoom :=
  { create catalogId ownerPrincipalId with createdByAgent := some agentId }

def indexMembers (indexed : MemberMap) : List PrivateRoomMember → DomainResult MemberMap
  | [] => .ok indexed
  | member :: rest =>
    if indexed[member.principalId]?.isSome then
      .error (privateRoomInvariant "private_room" "同一主体不能重复出现在成员集合中")
    else indexMembers (indexed.insert member.principalId member) rest

def restore (catalogId : RoomCatalogId) (ownerPrincipalId : PrincipalId) (status : PrivateRoomLifecycleStatus)
    (members : List PrivateRoomMember) (version : AggregateVersion) (createdByAgent : Option AgentId) :
    DomainResult PrivateRoom := do
  let indexed ← indexMembers ∅ members
  match indexed[ownerPrincipalId]? with
  | none => throw (privateRoomInvariant "private_room" "房主必须存在于成员集合中")
  | some owner =>
    if ¬ owner.hasJoined ∨ owner.permissions ≠ .all then
      throw (privateRoomInvariant "private_room" "房主必须是具备完整权限的已加入成员")
    else return { catalogId, ownerPrincipalId, status, members := indexed, version, createdByAgent }

section

variable (room : PrivateRoom)

def memberRows : List PrivateRoomMember := room.members.toList.map Prod.snd

def allows (principalId : PrincipalId) (capability : PrivateRoomCapability) : Bool :=
  if room.status = .archived ∧ capability ≠ .view then false
  else room.members[principalId]?.any (·.allows capability)

def ensureActive (transition : String) : DomainResult Unit :=
  if room.status ≠ .active then .error (.invalidTransition "private_room" room.status.asStr transition)
  else .ok ()

def require (actor : PrincipalId) (capability : PrivateRoomCapability) (action : String) : DomainResult Unit :=
  if room.allows actor capability then .ok () else .error (.forbidden action)

def permissionsOf (principalId : PrincipalId) : PrivateRoomPermissions :=
  (room.members[principalId]?).elim .none PrivateRoomMember.permissions

def requireGrantable (actor : PrincipalId) (previous next : PrivateRoomPermissions) : DomainResult Unit :=
  if (room.permissionsOf actor).contains (next.addedSince previous) then .ok ()
  else .error (.forbidden "给出自己没有的私人房间权限")

def requireNonOwnerTarget (target : PrincipalId) (action : String) : DomainResult Unit :=
  if target = room.ownerPrincipalId then .error (.forbidden action) else .ok ()

def requireAssignablePermissions (permissions : PrivateRoomPermissions) : DomainResult Unit :=
  if permissions.canBeAssignedToMember then .ok ()
  else .error (.validation "private_room_permissions" "活跃成员必须至少具备查看权限")

def ensureBuiltByAgent (action : String) : DomainResult Unit :=
  if room.createdByAgent.isSome then .ok () else .error (.forbidden action)

def defaultInvitationFor (inviter : PrincipalId) : PrivateRoomPermissions :=
  PrivateRoomPermissions.invitedByAgent.intersection (room.permissionsOf inviter)

end

abbrev RoomMethod := Method DomainError PrivateRoom Bool

variable (principalId : PrincipalId)

def writeMember (rule : String) (change : PrivateRoomMember → PrivateRoomMember) : Method DomainError PrivateRoom Unit := do
  let room ← get
  match room.members[principalId]? with
  | none => throw (privateRoomInvariant "private_room" rule)
  | some member => set { room with members := room.members.insert principalId (change member) }

def putMember (status : PrivateRoomMembershipStatus)
    (permissions : PrivateRoomPermissions) : Method DomainError PrivateRoom Unit := do
  let room ← get
  match room.members[principalId]? with
  | none => set { room with members := room.members.insert principalId ⟨principalId, status, permissions⟩ }
  | some member =>
    set { room with members := room.members.insert principalId (member.replace status permissions) }

def commitVersion (version : AggregateVersion) : RoomMethod := do
  modify fun room => { room with version }
  return true

def invite (actor target : PrincipalId) (permissions : PrivateRoomPermissions) : RoomMethod := do
  let room ← get
  lift (room.ensureActive "invited")
  lift (room.require actor .invite "邀请私人房间成员")
  lift (requireAssignablePermissions permissions)
  lift (room.requireGrantable actor .none permissions)
  let settled : Option (DomainResult Bool) :=
    match room.members[target]? with
    | none => none
    | some member =>
      if member.status = .invited then
        if member.permissions = permissions then some (.ok false)
        else some (.error (invalidMemberTransition "invited" "invited_with_new_permissions"))
      else if member.status ≠ .declined ∧ member.status ≠ .removed then
        some (.error (invalidMemberTransition member.status.asStr "invited"))
      else none
  match settled with
  | some answer => lift answer
  | none =>
    let nextVersion ← lift room.version.next
    putMember target .invited permissions
    commitVersion nextVersion

def inviteByAgent (actor target : PrincipalId) : RoomMethod := do
  let room ← get
  lift (room.ensureBuiltByAgent "Agent 只在 Agent 建的房间里邀请人")
  if room.members[target]?.any PrivateRoomMember.hasJoined then
    lift (room.ensureActive "invited")
    lift (room.require actor .invite "邀请私人房间成员")
    return false
  else invite actor target (room.defaultInvitationFor actor)

def acceptInvitation : RoomMethod := do
  let room ← get
  lift (room.ensureActive "joined")
  match room.members[principalId]? with
  | none => throw (invalidMemberTransition "absent" "joined")
  | some member =>
    match member.status with
    | .invited =>
      let nextVersion ← lift room.version.next
      writeMember principalId "已验证的邀请成员必须存在" fun member => { member with status := .joined }
      commitVersion nextVersion
    | .joined => return false
    | status => throw (invalidMemberTransition status.asStr "joined")

def declineInvitation : RoomMethod := do
  let room ← get
  lift (room.ensureActive "declined")
  match room.members[principalId]? with
  | none => throw (invalidMemberTransition "absent" "declined")
  | some member =>
    match member.status with
    | .invited =>
      let nextVersion ← lift room.version.next
      writeMember principalId "已验证的邀请成员必须存在" fun member => member.replace .declined .none
      commitVersion nextVersion
    | .declined => return false
    | status => throw (invalidMemberTransition status.asStr "declined")

def terminateMembership (terminalStatus : PrivateRoomMembershipStatus) (transition : String) : RoomMethod := do
  let room ← get
  match room.members[principalId]? with
  | none => throw (invalidMemberTransition "absent" transition)
  | some member =>
    if member.status = terminalStatus then return false
    else if ¬ member.status.carriesPermissions then
      throw (invalidMemberTransition member.status.asStr transition)
    else
      let nextVersion ← lift room.version.next
      writeMember principalId "已验证的成员必须存在" fun member => member.replace terminalStatus .none
      commitVersion nextVersion

def leave : RoomMethod := do
  let room ← get
  lift (room.ensureActive "removed")
  if principalId = room.ownerPrincipalId then
    throw (.forbidden "房主必须先转移所有权才能离开私人房间")
  else terminateMembership principalId .removed "removed"

def removeMember (actor target : PrincipalId) : RoomMethod := do
  let room ← get
  lift (room.ensureActive "removed")
  lift (room.require actor .manage "移除私人房间成员")
  lift (room.requireNonOwnerTarget target "移除私人房间房主")
  terminateMembership target .removed "removed"

def banMember (actor target : PrincipalId) : RoomMethod := do
  let room ← get
  lift (room.ensureActive "banned")
  lift (room.require actor .manage "封禁私人房间成员")
  lift (room.requireNonOwnerTarget target "封禁私人房间房主")
  if room.members[target]?.any (·.status == .banned) then return false
  else
    let nextVersion ← lift room.version.next
    putMember target .banned .none
    commitVersion nextVersion

def unbanMember (actor target : PrincipalId) : RoomMethod := do
  let room ← get
  lift (room.ensureActive "removed")
  lift (room.require actor .manage "解封私人房间成员")
  if ¬ room.members[target]?.any (·.status == .banned) then return false
  else
    let nextVersion ← lift room.version.next
    writeMember target "已验证的封禁成员必须存在" fun member => member.replace .removed .none
    commitVersion nextVersion

def updatePermissions (actor target : PrincipalId) (permissions : PrivateRoomPermissions) : RoomMethod := do
  let room ← get
  lift (room.ensureActive "permissions_updated")
  lift (room.require actor .manage "修改私人房间权限")
  lift (room.requireNonOwnerTarget target "削弱私人房间房主权限")
  lift (requireAssignablePermissions permissions)
  match room.members[target]? with
  | none => throw (invalidMemberTransition "absent" "permissions_updated")
  | some member =>
    if ¬ member.status.carriesPermissions then
      throw (invalidMemberTransition member.status.asStr "permissions_updated")
    else if member.permissions = permissions then return false
    else
      lift (room.requireGrantable actor member.permissions permissions)
      let nextVersion ← lift room.version.next
      writeMember target "已验证的成员必须存在" fun member => { member with permissions }
      commitVersion nextVersion

def transferOwnership (actor target : PrincipalId) (formerOwnerPermissions : PrivateRoomPermissions) : RoomMethod := do
  let room ← get
  lift (room.ensureActive "ownership_transferred")
  if actor ≠ room.ownerPrincipalId then throw (.forbidden "转移私人房间所有权")
  else if target = room.ownerPrincipalId then return false
  else
    lift (requireAssignablePermissions formerOwnerPermissions)
    if ¬ room.members[target]?.any PrivateRoomMember.hasJoined then
      throw (invalidMemberTransition ((room.members[target]?).elim "absent" (·.status.asStr)) "owner")
    else if ¬ room.members[actor]?.isSome then throw (privateRoomInvariant "private_room" "房主成员事实缺失")
    else
      let nextVersion ← lift room.version.next
      match room.members[target]? with
      | none => throw (privateRoomInvariant "private_room" "已验证的新房主成员必须存在")
      | some targetMember =>
        -- The new owner's row is taken out before the old owner's is looked up.
        modify fun room => { room with members := room.members.erase target }
        let taken ← get
        match taken.members[actor]? with
        | none =>
          set { taken with members := taken.members.insert target targetMember }
          throw (privateRoomInvariant "private_room" "房主成员事实缺失")
        | some formerOwner =>
          set { taken with
            members := (taken.members.insert actor { formerOwner with permissions := formerOwnerPermissions }).insert
              target { targetMember with permissions := .all },
            ownerPrincipalId := target }
          commitVersion nextVersion

def archive (actor : PrincipalId) : RoomMethod := do
  let room ← get
  if actor ≠ room.ownerPrincipalId then throw (.forbidden "归档私人房间")
  else if room.status = .archived then return false
  else
    let nextVersion ← lift room.version.next
    set { room with status := .archived }
    commitVersion nextVersion

end PrivateRoom

end AgentRoom
