import AgentRoom.PrivateRoom.Effects
import AgentRoom.PrivateRoom.World

namespace AgentRoom.PrivateRooms

open Library

namespace RoomWorld

variable (world : RoomWorld) (agent : AgentId)

def hasAgent : Bool := isInRoom (world.matrix.members (.agent agent))

def agentSpeaks : Bool := world.matrix.speaks (.agent agent)

end RoomWorld

def Directory.OnlyOwner (directory : Directory) (principal : PrincipalId) (agent : AgentId) : Prop :=
  agent ∈ directory.agents principal ∧ ∀ other, agent ∈ directory.agents other → other = principal

structure Follows (directory : Directory) (world : RoomWorld) (principal : PrincipalId) : Prop where
  speaks : ∀ member, world.room.members[principal]? = some member → member.hasJoined = true → ∀ agent,
    directory.OnlyOwner principal agent → world.hasAgent agent = true → world.agentSpeaks agent = member.permissions.allows .speak
  gone : ∀ member, world.room.members[principal]? = some member → member.status = .removed ∨ member.status = .banned →
    ∀ agent ∈ directory.agents principal, world.hasAgent agent = false

def AgentsFollow (directory : Directory) (world : RoomWorld) : Prop := ∀ principal, Follows directory world principal

structure Touched (directory : Directory) (who : PrincipalId → Prop) (world final : RoomWorld) : Prop where
  rows : ∀ principal, ¬ who principal → final.room.members[principal]? = world.room.members[principal]?
  levels : ∀ agent, (∀ principal, agent ∈ directory.agents principal → ¬ who principal) → final.agentSpeaks agent = world.agentSpeaks agent
  nobodyIn : ∀ agent, final.hasAgent agent = true → world.hasAgent agent = true

theorem follows_untouched (touched : Touched directory who world final) {principal : PrincipalId} (apart : ¬ who principal)
    (follows : Follows directory world principal) : Follows directory final principal := by
  constructor
  · intro member present joined agent owned here
    rw [touched.rows principal apart] at present
    rw [touched.levels agent fun other owns => owned.2 other owns ▸ apart]
    exact follows.speaks member present joined agent owned (touched.nobodyIn agent here)
  · intro member present gone agent owned
    rw [touched.rows principal apart] at present
    have away := follows.gone member present gone agent owned
    by_contra here
    rw [touched.nobodyIn agent (by simpa using here)] at away
    cases away

theorem follow_touched (touched : Touched directory who world final) (follow : AgentsFollow directory world)
    (own : ∀ principal, who principal → Follows directory final principal) : AgentsFollow directory final := by
  intro principal
  by_cases apart : who principal
  · exact own principal apart
  · exact follows_untouched touched apart (follow principal)

theorem touched_trans (first : Touched directory who world middle) (second : Touched directory who middle final) :
    Touched directory who world final where
  rows principal apart := (second.rows principal apart).trans (first.rows principal apart)
  levels agent apart := (second.levels agent apart).trans (first.levels agent apart)
  nobodyIn agent here := first.nobodyIn agent (second.nobodyIn agent here)

section

variable {directory : Directory} {operation : String}

structure Governed (change : MemberAgentChange) (users : List RoomUser) (world final : RoomWorld) : Prop where
  room : final.room = world.room
  others : ∀ user, user ∉ users → final.matrix.members user = world.matrix.members user ∧
    final.matrix.speaks user = world.matrix.speaks user
  nobodyIn : ∀ user, isInRoom (final.matrix.members user) = true → isInRoom (world.matrix.members user) = true
  carried : ∀ user ∈ users, isInRoom (final.matrix.members user) = true → ∃ allowed, change = .speak allowed ∧
    final.matrix.speaks user = allowed

variable {change : MemberAgentChange} {user : RoomUser}

theorem governed_nil (world : RoomWorld) : Governed change [] world world where
  room := rfl
  others _ _ := ⟨rfl, rfl⟩
  nobodyIn _ here := here
  carried _ listed := absurd listed List.not_mem_nil

theorem governed_cons (world : RoomWorld) {middle final : RoomWorld}
    (first : Governed change [user] world middle) (rest : Governed change users middle final) :
    Governed change (user :: users) world final where
  room := rest.room.trans first.room
  others other apart := by
    have later := rest.others other fun listed => apart (List.mem_cons_of_mem user listed)
    have earlier := first.others other fun listed => apart (List.mem_singleton.mp listed ▸ List.mem_cons_self)
    exact ⟨later.1.trans earlier.1, later.2.trans earlier.2⟩
  nobodyIn other here := first.nobodyIn other (rest.nobodyIn other here)
  carried other listed here := by
    by_cases again : other ∈ users
    · exact rest.carried other again here
    · -- The later ones leave it as the first left it.
      have same : other = user := (List.mem_cons.mp listed).resolve_right again
      obtain ⟨members, speaks⟩ := rest.others other again
      obtain ⟨allowed, chosen, level⟩ := first.carried other (same ▸ List.mem_cons_self) (rest.nobodyIn other here)
      exact ⟨allowed, chosen, speaks.trans level⟩

theorem governed_allow (allowed : Bool) (world : RoomWorld) :
    Governed (.speak allowed) [user] world (onMatrix world (·.allow user allowed)) where
  room := rfl
  others other apart := ⟨rfl, Function.update_of_ne (fun same => apart (List.mem_singleton.mpr same)) _ _⟩
  nobodyIn _ here := here
  carried other listed _ := by
    cases List.mem_singleton.mp listed
    exact ⟨allowed, rfl, Function.update_self _ _ _⟩

theorem kicked_away (matrix : MatrixRoom) (user : RoomUser) : isInRoom ((matrix.kick user).members user) = false := by
  cases found : matrix.members user with
  | none => simp [MatrixRoom.kick, found, isInRoom]
  | some membership => cases membership <;> simp [MatrixRoom.kick, MatrixRoom.put, found, isInRoom]

theorem kick_others (matrix : MatrixRoom) {user other : RoomUser} (apart : other ≠ user) :
    (matrix.kick user).members other = matrix.members other := by
  cases found : matrix.members user with
  | none => simp [MatrixRoom.kick, found]
  | some membership => cases membership <;> simp [MatrixRoom.kick, MatrixRoom.put, found, apart]

theorem kick_speaks {matrix : MatrixRoom} {user : RoomUser} : (matrix.kick user).speaks = matrix.speaks := by
  unfold MatrixRoom.kick
  split <;> rfl

theorem governed_kick (world : RoomWorld) : Governed .evict [user] world (onMatrix world (·.kick user)) where
  room := rfl
  others other apart :=
    ⟨kick_others world.matrix fun same => apart (List.mem_singleton.mpr same), congrFun (kick_speaks) other⟩
  nobodyIn other here := by
    by_cases same : other = user
    · rw [same] at here
      exact absurd here (by simp [onMatrix, kicked_away])
    · rw [← kick_others world.matrix same]
      exact here
  carried other listed here := by
    cases List.mem_singleton.mp listed
    exact absurd here (by simp [onMatrix, kicked_away])

theorem governed_absent (world : RoomWorld)
    (absent : isInRoom (world.matrix.members user) = false) : Governed change [user] world world where
  room := rfl
  others _ _ := ⟨rfl, rfl⟩
  nobodyIn _ here := here
  carried other listed here := by
    cases List.mem_singleton.mp listed
    exact absurd (here.symm.trans absent) (by decide)

theorem alone_govern_agents (users : List RoomUser) (world final : RoomWorld)
    (run : Served directory (governAgents operation change users) world () final) :
    Governed change users world final := by
  induction users generalizing world with
  | nil =>
    obtain ⟨_, rfl⟩ := (alone_pure ..).mp run
    exact governed_nil world
  | cons user users ih =>
    obtain ⟨membership, middle, read, acts⟩ := (alone_then ..).mp run
    obtain ⟨rfl, rfl⟩ := alone_membership directory operation world middle read
    obtain ⟨_, between, governed, rest⟩ := (alone_then ..).mp acts
    refine governed_cons world ?_ (ih between rest)
    refine alone_only_if directory world between (Governed change [user] world) ?_
      (governed_absent world) governed
    intro _ acted
    cases change with
    | speak allowed => exact alone_set_speaking directory operation world between acted ▸ governed_allow allowed world
    | evict => exact alone_kick directory operation world between acted ▸ governed_kick world

theorem alone_govern_member_agents {principal : PrincipalId} {change : MemberAgentChange} {world final : RoomWorld}
    (run : Served directory (governMemberAgents operation principal change) world () final) :
    Governed change ((directory.agents principal).map .agent) world final := by
  obtain ⟨users, middle, consulted, governs⟩ := (alone_then ..).mp run
  obtain ⟨answer, ⟨rfl, reads⟩, ok⟩ := (alone_consult ..).mp consulted
  cases reads users (map_error_read ok)
  exact alone_govern_agents _ middle final governs

end

theorem settles_others (settles : PrivateRoom.Settles target already becomes room changed next) (other : PrincipalId)
    (apart : other ≠ target) : next.members[other]? = room.members[other]? := by
  cases changed with
  | false => rw [settles.1]
  | true =>
    obtain ⟨row, _, written⟩ := settles
    rw [written.members, Std.ExtTreeMap.getElem?_insert, if_neg (by simpa using apart.symm)]

theorem settles_row (settles : PrivateRoom.Settles target already becomes room true next) :
    ∃ row, becomes room.members[target]? row ∧ next.members[target]? = some row := by
  obtain ⟨row, fits, written⟩ := settles
  exact ⟨row, fits, by rw [written.members, Std.ExtTreeMap.getElem?_insert_self]⟩

theorem settles_fits {fits : Option PrivateRoomMember → Prop} (found : ∀ old, already old → fits old)
    (written : ∀ old row, becomes old row → fits (some row)) (settles : PrivateRoom.Settles target already becomes room changed next) :
    fits next.members[target]? := by
  cases changed with
  | false => exact settles.1 ▸ found _ settles.2
  | true =>
    obtain ⟨row, becoming, present⟩ := settles_row settles
    exact present ▸ written _ row becoming

theorem settles_same (settles : PrivateRoom.Settles target already becomes room changed next) (unchanged : changed = false) :
    next = room := by
  rw [unchanged] at settles
  exact settles.1

theorem attempt_ok (operation : String) (op : RoomOp) (post : Bool → PrivateRoom → Prop)
    (yields : Yields op.perform room post) (ok : attempt operation room op = .ok (changed, next)) : post changed next := by
  unfold Yields at yields
  unfold attempt at ok
  cases run : op.perform.run room with
  | ok value reached =>
    rw [run] at yields ok
    cases ok
    exact yields
  | error failure reached =>
    rw [run] at ok
    cases ok

section

variable (directory : Directory) {operation : String} (who : PrincipalId → Prop) (world final : RoomWorld)

structure AgentsKept (matrix next : MatrixRoom) : Prop where
  members : ∀ agent, next.members (.agent agent) = matrix.members (.agent agent)
  speaks : ∀ agent, next.speaks (.agent agent) = matrix.speaks (.agent agent)

theorem kept_touched (kept : AgentsKept world.matrix final.matrix)
    (rows : ∀ principal, ¬ who principal → final.room.members[principal]? = world.room.members[principal]?) :
    Touched directory who world final where
  rows := rows
  levels agent _ := kept.speaks agent
  nobodyIn agent here := by
    rw [RoomWorld.hasAgent, kept.members] at here
    exact here

theorem recorded_touched (room : PrivateRoom)
    (rows : ∀ principal, ¬ who principal → room.members[principal]? = world.room.members[principal]?) :
    Touched directory who world { world with room } :=
  kept_touched directory who world { world with room } ⟨fun _ => rfl, fun _ => rfl⟩ rows

theorem follow_kept (kept : AgentsKept world.matrix final.matrix) (same : final.room = world.room)
    (follow : AgentsFollow directory world) : AgentsFollow directory final :=
  follow_touched (kept_touched directory (fun _ => False) world final kept fun _ _ => by rw [same]) follow
    fun _ impossible => impossible.elim

theorem governed_touched {change : MemberAgentChange}
    (governed : Governed change ((directory.agents target).map .agent) world final) : Touched directory (· = target) world final where
  rows principal _ := by rw [governed.room]
  levels agent apart := by
    have unlisted : RoomUser.agent agent ∉ (directory.agents target).map RoomUser.agent := by
      intro listed
      obtain ⟨other, owned, same⟩ := List.mem_map.mp listed
      cases same
      exact apart target owned rfl
    exact (governed.others (.agent agent) unlisted).2
  nobodyIn agent here := governed.nobodyIn (.agent agent) here

theorem governed_gone (governed : Governed .evict ((directory.agents target).map .agent) world final) :
    ∀ agent ∈ directory.agents target, final.hasAgent agent = false := by
  intro agent owned
  by_contra here
  obtain ⟨allowed, chosen, _⟩ := governed.carried (.agent agent) (List.mem_map_of_mem owned) (by simpa [RoomWorld.hasAgent] using here)
  cases chosen

theorem governed_speaks (governed : Governed (.speak allowed) ((directory.agents target).map .agent) world final)
    (agent : AgentId) (owned : agent ∈ directory.agents target) (here : final.hasAgent agent = true) :
    final.agentSpeaks agent = allowed := by
  obtain ⟨level, chosen, spoken⟩ := governed.carried (.agent agent) (List.mem_map_of_mem owned) here
  cases chosen
  exact spoken

section

variable (matrix : MatrixRoom) (principal : PrincipalId)

theorem person_invite_kept : AgentsKept matrix (matrix.invite (.person principal)) := by
  constructor <;> intro agent <;> by_cases here : isInRoom (matrix.members (.person principal)) = true <;>
    simp [MatrixRoom.invite, MatrixRoom.put, here]

theorem person_allow_kept (allowed : Bool) : AgentsKept matrix (matrix.allow (.person principal) allowed) := by
  constructor <;> intro agent <;> simp [MatrixRoom.allow]

theorem person_kick_kept : AgentsKept matrix (matrix.kick (.person principal)) := by
  constructor <;> intro agent
  · exact kick_others matrix (by simp)
  · exact congrFun (kick_speaks) (.agent agent)

theorem person_ban_kept : AgentsKept matrix (matrix.ban (.person principal)) := by
  constructor <;> intro agent <;> simp [MatrixRoom.ban, MatrixRoom.put]

theorem person_unban_kept : AgentsKept matrix (matrix.unban (.person principal)) := by
  constructor <;> intro agent <;> by_cases banned : matrix.members (.person principal) = some .banned <;>
    simp [MatrixRoom.unban, MatrixRoom.put, banned]

theorem kept_trans (first : AgentsKept matrix middle) (second : AgentsKept middle next) : AgentsKept matrix next where
  members agent := (second.members agent).trans (first.members agent)
  speaks agent := (second.speaks agent).trans (first.speaks agent)

end

theorem follows_of_status (open' : status = .invited ∨ status = .declined)
    (holds : PrivateRoom.HasStatus status final.room.members[target]?) : Follows directory final target := by
  obtain ⟨row, present, fits⟩ := holds
  constructor
  · intro member found joined
    cases present.symm.trans found
    rcases open' with rfl | rfl <;> simp [PrivateRoomMember.hasJoined, fits] at joined
  · intro member found gone
    cases present.symm.trans found
    rcases open' with rfl | rfl <;> simp [fits] at gone

theorem follows_of_gone (status : PrivateRoomMembershipStatus) (ended : status = .removed ∨ status = .banned)
    (holds : PrivateRoom.HasStatus status final.room.members[target]?)
    (away : ∀ agent ∈ directory.agents target, final.hasAgent agent = false) : Follows directory final target := by
  obtain ⟨row, present, fits⟩ := holds
  constructor
  · intro member found joined
    cases present.symm.trans found
    rcases ended with rfl | rfl <;> simp [PrivateRoomMember.hasJoined, fits] at joined
  · exact fun _ _ _ => away

end

end AgentRoom.PrivateRooms
