import AgentRoom.Domain.Basics
import AgentRoom.Library.Method

namespace AgentRoom

open Library

inductive AgentRole where
  | owner
  | operator
  | viewer
deriving DecidableEq

namespace AgentRole

def canManageMembers (role : AgentRole) : Bool := role = .owner

end AgentRole

structure AgentMember where
  agentId : AgentId
  principalId : PrincipalId
  role : AgentRole
  grantedBy : PrincipalId
  grantedAt : UtcMillis
  revokedAt : Option UtcMillis

def AgentMember.isActive (member : AgentMember) : Bool := member.revokedAt.isNone

structure AgentMemberships where
  agentId : AgentId
  members : List AgentMember

def lastOwnerError : DomainError := .invariantViolation "agent_memberships" "活跃 Agent 必须保留至少一个 Owner"

-- Writes the first row that is found, as a search through a mutable iterator does.
def changeFirst (principalId : PrincipalId) (change : AgentMember → AgentMember) : List AgentMember → List AgentMember
  | [] => []
  | member :: rest =>
    if member.principalId = principalId then change member :: rest
    else member :: changeFirst principalId change rest

namespace AgentMemberships

def withInitialOwner (agentId : AgentId) (ownerId : PrincipalId) (grantedAt : UtcMillis) : AgentMemberships where
  agentId
  members := [{ agentId, principalId := ownerId, role := .owner, grantedBy := ownerId, grantedAt, revokedAt := none }]

def isActiveOwner (member : AgentMember) : Bool := member.isActive && member.role = .owner

section

variable (memberships : AgentMemberships)

def activeOwnerCount : Nat := memberships.members.countP isActiveOwner

def ensureHasOwner : DomainResult Unit :=
  if memberships.activeOwnerCount = 0 then .error lastOwnerError else .ok ()

def restore (agentId : AgentId) (members : List AgentMember) : DomainResult AgentMemberships :=
  if members.any fun member => member.agentId ≠ agentId || member.revokedAt.any (· < member.grantedAt) then
    .error (.invariantViolation "agent_memberships" "成员归属和时间顺序必须一致")
  else do
    (⟨agentId, members⟩ : AgentMemberships).ensureHasOwner
    return ⟨agentId, members⟩

def roleOf (principalId : PrincipalId) : Option AgentRole :=
  (memberships.members.find? fun member => member.principalId = principalId && member.isActive).map (·.role)

def ensureMemberManager (principalId : PrincipalId) : DomainResult Unit :=
  if (memberships.roleOf principalId).any AgentRole.canManageMembers then .ok ()
  else .error (.forbidden "manage_agent_members")

def rowOf (principalId : PrincipalId) : Option AgentMember :=
  memberships.members.find? fun member => member.principalId = principalId

end

def granted (actorId : PrincipalId) (role : AgentRole) (grantedAt : UtcMillis) (member : AgentMember) : AgentMember :=
  { member with role, grantedBy := actorId, grantedAt, revokedAt := none }

abbrev MembershipsMethod := Method DomainError AgentMemberships Unit

def grantRole (actorId principalId : PrincipalId) (role : AgentRole) (grantedAt : UtcMillis) : MembershipsMethod := do
  let memberships ← get
  lift (memberships.ensureMemberManager actorId)
  match memberships.rowOf principalId with
  | some member =>
    if member.isActive ∧ member.role = .owner ∧ role ≠ .owner ∧ memberships.activeOwnerCount = 1 then
      throw lastOwnerError
    else if member.isActive ∧ member.role = role then return ()
    else set { memberships with
      members := changeFirst principalId (granted actorId role grantedAt) memberships.members }
  | none =>
    let added : AgentMember :=
      { agentId := memberships.agentId, principalId, role, grantedBy := actorId, grantedAt, revokedAt := none }
    set { memberships with members := memberships.members ++ [added] }

def revoked (revokedAt : UtcMillis) (member : AgentMember) : AgentMember :=
  { member with revokedAt := some revokedAt }

def revoke (actorId principalId : PrincipalId) (revokedAt : UtcMillis) : MembershipsMethod := do
  let memberships ← get
  lift (memberships.ensureMemberManager actorId)
  match memberships.rowOf principalId with
  | none => throw (.forbidden "revoke_unknown_agent_member")
  | some member =>
    if ¬ member.isActive then return ()
    else if revokedAt < member.grantedAt then throw (.validation "agent_member_revoked_at" "不能早于授权时间")
    else if member.role = .owner ∧ memberships.activeOwnerCount = 1 then throw lastOwnerError
    else set { memberships with members := changeFirst principalId (revoked revokedAt) memberships.members }

inductive Call where
  | grantRole (actorId principalId : PrincipalId) (role : AgentRole) (grantedAt : UtcMillis)
  | revoke (actorId principalId : PrincipalId) (revokedAt : UtcMillis)

def perform : Call → MembershipsMethod
  | .grantRole actorId principalId role grantedAt => grantRole actorId principalId role grantedAt
  | .revoke actorId principalId revokedAt => revoke actorId principalId revokedAt

inductive Made : AgentMemberships → Prop where
  | initial (agentId : AgentId) (ownerId : PrincipalId) (grantedAt : UtcMillis) :
      Made (withInitialOwner agentId ownerId grantedAt)
  | restored (agentId : AgentId) (members : List AgentMember) (memberships : AgentMemberships)
      (made : restore agentId members = .ok memberships) : Made memberships

-- A row of the principal that stands behind its first one and still counts.
def shadowed (memberships : AgentMemberships) (principalId : PrincipalId) : Bool :=
  ((memberships.members.filter fun member => member.principalId = principalId).tail).any (·.isActive)

def distinctMembers (memberships : AgentMemberships) : Prop := (memberships.members.map (·.principalId)).Nodup

section

variable (agentId : AgentId) {members : List AgentMember} (before rest : List AgentMember) {principalId : PrincipalId}
  {member : AgentMember}

theorem row_split (found : (⟨agentId, members⟩ : AgentMemberships).rowOf principalId = some member) :
    ∃ before rest, members = before ++ member :: rest ∧ member.principalId = principalId ∧
      ∀ other ∈ before, other.principalId ≠ principalId := by
  obtain ⟨hit, before, rest, shape, others⟩ := List.find?_eq_some_iff_append.mp found
  exact ⟨before, rest, shape, by simpa using hit, fun other listed => by simpa using others other listed⟩

variable {change : AgentMember → AgentMember}

theorem change_first_split (same : member.principalId = principalId) (others : ∀ other ∈ before, other.principalId ≠ principalId) :
    changeFirst principalId change (before ++ member :: rest) = before ++ change member :: rest := by
  induction before with
  | nil => simp [changeFirst, same]
  | cons first later ih =>
    have apart := others first List.mem_cons_self
    simp [changeFirst, apart, ih fun other listed => others other (List.mem_cons_of_mem _ listed)]

theorem role_of_split (same : member.principalId = principalId) (others : ∀ other ∈ before, other.principalId ≠ principalId) :
    (⟨agentId, before ++ member :: rest⟩ : AgentMemberships).roleOf principalId =
      if member.isActive then some member.role else (⟨agentId, rest⟩ : AgentMemberships).roleOf principalId := by
  have passed : before.find? (fun member => member.principalId = principalId && member.isActive) = none :=
    List.find?_eq_none.mpr fun other listed => by simp [others other listed]
  cases active : member.isActive with
  | true => simp [roleOf, List.find?_append, passed, same, active]
  | false => simp [roleOf, List.find?_append, passed, same, active]

theorem shadowed_split (same : member.principalId = principalId) (others : ∀ other ∈ before, other.principalId ≠ principalId) :
    (⟨agentId, before ++ member :: rest⟩ : AgentMemberships).shadowed principalId =
      ((⟨agentId, rest⟩ : AgentMemberships).roleOf principalId).isSome := by
  have passed : before.filter (fun member => member.principalId = principalId) = [] :=
    List.filter_eq_nil_iff.mpr fun other listed => by simp [others other listed]
  simp only [shadowed, roleOf, List.filter_append, passed, List.nil_append, List.filter_cons, same, decide_true,
    if_true, List.tail_cons, Option.isSome_map, List.any_filter]
  exact List.isSome_find?.symm

theorem owners_split (member : AgentMember) : (⟨agentId, before ++ member :: rest⟩ : AgentMemberships).activeOwnerCount =
      before.countP isActiveOwner + (if isActiveOwner member then 1 else 0) + rest.countP isActiveOwner := by
  simp only [activeOwnerCount, List.countP_append, List.countP_cons]
  omega

theorem distinct_split (same : (change member).principalId = member.principalId) :
    (⟨agentId, before ++ change member :: rest⟩ : AgentMemberships).distinctMembers ↔
      (⟨agentId, before ++ member :: rest⟩ : AgentMemberships).distinctMembers := by
  simp [distinctMembers, same]

theorem distinct_unshadowed {memberships : AgentMemberships} (distinct : memberships.distinctMembers)
    (principalId : PrincipalId) : memberships.shadowed principalId = false := by
  cases found : memberships.rowOf principalId with
  | none =>
    have nothing : memberships.members.filter (fun member => member.principalId = principalId) = [] :=
      List.filter_eq_nil_iff.mpr fun member listed => by simpa using List.find?_eq_none.mp found member listed
    simp [shadowed, nothing]
  | some member =>
    obtain ⟨before, rest, shape, same, others⟩ := row_split memberships.agentId found
    have split := shadowed_split memberships.agentId before rest same others
    rw [← shape] at split
    have once := distinct
    rw [distinctMembers, shape, List.map_append, List.map_cons] at once
    have apart := (List.nodup_cons.mp (List.nodup_append.mp once).2.1).1
    rw [split]
    refine Option.isSome_eq_false_iff.mpr (Option.isNone_iff_eq_none.mpr ?_)
    simp only [roleOf, Option.map_eq_none_iff]
    refine List.find?_eq_none.mpr fun other listed => ?_
    have differs : other.principalId ≠ principalId := fun equal =>
      apart (same ▸ equal ▸ List.mem_map_of_mem listed)
    simp [differs]

end

section

variable (memberships : AgentMemberships) (actorId principalId : PrincipalId)

structure Changed (memberships next : AgentMemberships) : Prop where
  owned : 0 < memberships.activeOwnerCount → 0 < next.activeOwnerCount
  distinct : memberships.distinctMembers → next.distinctMembers

theorem changed_refl : Changed memberships memberships := ⟨fun owned => owned, fun distinct => distinct⟩

variable {member : AgentMember}

theorem role_of_row (found : memberships.rowOf principalId = some member)
    (active : member.isActive = true) : memberships.roleOf principalId = some member.role := by
  obtain ⟨before, rest, shape, same, others⟩ := row_split memberships.agentId found
  have role := role_of_split memberships.agentId before rest same others
  rw [← shape, if_pos active] at role
  exact role

theorem rewritten_changed
    (found : memberships.rowOf principalId = some member) (keeps : (change member).principalId = member.principalId)
    (demotes : isActiveOwner member = true → isActiveOwner (change member) = false → memberships.activeOwnerCount ≠ 1) :
    Changed memberships { memberships with members := changeFirst principalId change memberships.members } := by
  obtain ⟨before, rest, shape, same, others⟩ := row_split memberships.agentId found
  have changed : changeFirst principalId change memberships.members = before ++ change member :: rest := by
    rw [shape]
    exact change_first_split before rest same others
  have counted := owners_split memberships.agentId before rest member
  rw [← shape] at counted
  change memberships.activeOwnerCount = _ at counted
  rw [changed]
  refine ⟨fun owned => ?_, fun distinct => ?_⟩
  · rw [owners_split]
    by_cases owns : isActiveOwner (change member) = true
    · rw [if_pos owns]
      omega
    · by_cases was : isActiveOwner member = true
      · have more := demotes was (Bool.not_eq_true _ ▸ owns)
        rw [if_pos was] at counted
        omega
      · rw [if_neg was] at counted
        omega
  · refine (distinct_split _ _ _ keeps).mpr ?_
    rw [← shape]
    exact distinct

theorem grant_yields : Yields (grantRole actorId principalId role grantedAt) memberships fun _ next =>
      Changed memberships next ∧ next.roleOf principalId = some role := by
  apply yields_get
  apply yields_lift
  intro _ _
  cases found : memberships.rowOf principalId with
  | none =>
    have missing := List.find?_eq_none.mp found
    refine ⟨⟨fun owned => ?_, fun distinct => ?_⟩, ?_⟩
    · simp only [activeOwnerCount, List.countP_append] at owned ⊢
      omega
    · have apart : principalId ∉ memberships.members.map (·.principalId) := by
        intro listed
        obtain ⟨other, member, equal⟩ := List.mem_map.mp listed
        exact missing other member (by simpa using equal)
      simp only [distinctMembers, List.map_append, List.map_cons, List.map_nil]
      refine List.nodup_append.mpr ⟨distinct, by simp, ?_⟩
      intro one listed two added equal
      obtain rfl : two = principalId := by simpa using added
      exact apart (equal ▸ listed)
    · have passed : memberships.members.find? (fun member => member.principalId = principalId && member.isActive) =
          none := List.find?_eq_none.mpr fun other listed => by
        have apart := missing other listed
        simp only [decide_eq_true_eq] at apart
        simp [apart]
      simp only [roleOf, List.find?_append, passed]
      simp [AgentMember.isActive]
  | some member =>
    obtain ⟨before, rest, shape, same, others⟩ := row_split memberships.agentId found
    dsimp only
    apply yields_ite
    · intro _
      exact yields_throw
    · intro lastOwner
      apply yields_ite
      · intro already
        refine yields_pure ⟨changed_refl memberships, ?_⟩
        rw [role_of_row memberships principalId found already.1, already.2]
      · intro _
        have changed : changeFirst principalId (granted actorId role grantedAt) memberships.members =
            before ++ granted actorId role grantedAt member :: rest := by
          rw [shape]
          exact change_first_split before rest same others
        refine ⟨rewritten_changed memberships principalId found rfl fun was demoted only => ?_, ?_⟩
        · have both : member.isActive = true ∧ member.role = .owner := by simpa [isActiveOwner] using was
          have other : role ≠ .owner := fun owner => by
            simp [isActiveOwner, granted, AgentMember.isActive, owner] at demoted
          exact lastOwner ⟨both.1, both.2, other, only⟩
        · rw [changed, role_of_split _ _ _ (by exact same) others]
          simp [AgentMember.isActive, granted]

theorem revoke_yields (revokedAt : UtcMillis) : Yields (revoke actorId principalId revokedAt) memberships fun _ next =>
      Changed memberships next ∧ (next.roleOf principalId = none ↔ memberships.shadowed principalId = false) := by
  apply yields_get
  apply yields_lift
  intro _ _
  cases found : memberships.rowOf principalId with
  | none => exact yields_throw
  | some member =>
    obtain ⟨before, rest, shape, same, others⟩ := row_split memberships.agentId found
    have hidden := shadowed_split memberships.agentId before rest same others
    rw [← shape] at hidden
    change memberships.shadowed principalId = _ at hidden
    dsimp only
    apply yields_ite
    · intro inactive
      refine yields_pure ⟨changed_refl memberships, ?_⟩
      have role := role_of_split memberships.agentId before rest same others
      rw [← shape, if_neg inactive] at role
      change memberships.roleOf principalId = _ at role
      rw [hidden, role]
      simp
    · intro _
      apply yields_ite
      · intro _
        exact yields_throw
      · intro _
        apply yields_ite
        · intro _
          exact yields_throw
        · intro lastOwner
          have changed : changeFirst principalId (revoked revokedAt) memberships.members =
              before ++ revoked revokedAt member :: rest := by
            rw [shape]
            exact change_first_split before rest same others
          refine ⟨rewritten_changed memberships principalId found rfl fun was _ only => ?_, ?_⟩
          · have both : member.isActive = true ∧ member.role = .owner := by simpa [isActiveOwner] using was
            exact lastOwner ⟨both.2, only⟩
          · rw [changed, role_of_split _ _ _ (by exact same) others, hidden]
            simp [AgentMember.isActive, revoked]

theorem made_owned (made : Made memberships) : 0 < memberships.activeOwnerCount := by
  cases made with
  | initial agentId ownerId grantedAt => simp [activeOwnerCount, withInitialOwner, isActiveOwner, AgentMember.isActive]
  | restored agentId members _ made =>
    simp only [restore, ensureHasOwner] at made
    split at made
    · cases made
    · split at made
      · cases made
      · rename_i owned
        cases made
        exact Nat.pos_of_ne_zero owned

theorem call_yields (call : Call) : Yields (perform call) memberships fun _ next => Changed memberships next := by
  cases call with
  | grantRole actorId principalId role grantedAt =>
    exact yields_mono (fun _ _ done => done.1) (grant_yields memberships actorId principalId)
  | revoke actorId principalId revokedAt =>
    exact yields_mono (fun _ _ done => done.1) (revoke_yields memberships actorId principalId revokedAt)

theorem run_changed (calls : List Call) : Changed memberships (runAll perform memberships calls) := by
  refine run_all_related perform (fun _ => True) Changed changed_refl ?_ (fun _ _ _ => trivial) ?_ calls memberships
    trivial
  · intro first second third before after
    exact ⟨fun owned => after.owned (before.owned owned), fun distinct => after.distinct (before.distinct distinct)⟩
  · intro state call _
    exact after_of_yields (call_yields state call) (changed_refl state) fun _ _ changed => changed

end

-- An owner remains in every reached state, and each answer is what it says; a
-- revoked principal keeps a role only through a second row of its own.
theorem memberships_keep_an_owner (memberships : AgentMemberships) (made : Made memberships) (calls : List Call) :
    let reached := runAll perform memberships calls
    0 < reached.activeOwnerCount ∧ (∀ actorId principalId role grantedAt next,
        (grantRole actorId principalId role grantedAt).run reached = .ok () next → next.roleOf principalId = some role) ∧
      (∀ actorId principalId revokedAt next, (revoke actorId principalId revokedAt).run reached = .ok () next →
        (next.roleOf principalId = none ↔ reached.shadowed principalId = false)) ∧
      (memberships.distinctMembers → reached.distinctMembers ∧ ∀ principalId, reached.shadowed principalId = false) ∧
      (∀ call failure next, (perform call).run reached = .error failure next → next = reached) := by
  intro reached
  have changed := run_changed memberships calls
  refine ⟨changed.owned (made_owned memberships made), ?_, ?_, ?_, ?_⟩
  · intro actorId principalId role grantedAt next run
    exact (yields_ok (grant_yields reached actorId principalId) run).2
  · intro actorId principalId revokedAt next run
    exact (yields_ok (revoke_yields reached actorId principalId revokedAt) run).2
  · intro distinct
    exact ⟨changed.distinct distinct, distinct_unshadowed (changed.distinct distinct)⟩
  · intro call failure next run
    exact yields_error (call_yields reached call) run

theorem initial_memberships_keep_an_owner : 0 < (runAll perform (withInitialOwner ⟨1⟩ ⟨2⟩ ⟨0, by decide⟩)
      [.revoke ⟨2⟩ ⟨2⟩ ⟨5, by decide⟩]).activeOwnerCount :=
  (memberships_keep_an_owner _ (.initial ⟨1⟩ ⟨2⟩ ⟨0, by decide⟩) [.revoke ⟨2⟩ ⟨2⟩ ⟨5, by decide⟩]).1

def memberRow (principalId : PrincipalId) (role : AgentRole) (revokedAt : Option UtcMillis) : AgentMember :=
  { agentId := ⟨1⟩, principalId, role, grantedBy := ⟨2⟩, grantedAt := 0, revokedAt }

def twiceListed : AgentMemberships :=
  ⟨⟨1⟩, [memberRow ⟨2⟩ .owner none, memberRow ⟨3⟩ .viewer (some ⟨1, by decide⟩), memberRow ⟨3⟩ .operator none]⟩

-- With an old row in front of a living one, revoking the principal leaves it its role.
theorem second_row_survives_its_revocation :
    Made twiceListed ∧ ∃ next, (revoke ⟨2⟩ ⟨3⟩ ⟨5, by decide⟩).run twiceListed = .ok () next ∧
      next.roleOf ⟨3⟩ = some .operator :=
  ⟨.restored ⟨1⟩ twiceListed.members twiceListed rfl, twiceListed, rfl, rfl⟩

end AgentMemberships

end AgentRoom
