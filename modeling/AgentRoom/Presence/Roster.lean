import AgentRoom.Presence.Projection

namespace AgentRoom.Presence

open Library

def presencePageSize : Nat := 100

inductive PresenceQueryError where
  | tooManyTargets
  | invalidPageSize

structure PresenceRosterPage where
  entries : List PresenceObservation
  nextCursor : Option AgentId

def agentOf (entry : PresenceObservation) : AgentId := entry.presence.identity.agentId

def listedAfter (includeArchived : Bool) (after : Option AgentId) (entry : PresenceObservation) : Bool :=
  (includeArchived || entry.lifecycle.archiveReason = none) && after.all fun id => id.uuid < (agentOf entry).uuid

def paginateRoster (entries : List PresenceObservation) (includeArchived : Bool) (after : Option AgentId) (limit : UInt16) :
    Except PresenceQueryError PresenceRosterPage :=
  if limit = 0 ∨ presencePageSize < limit.toNat then .error .invalidPageSize
  else
    let listed := (entries.filter (listedAfter includeArchived after)).insertionSort fun first second =>
      (agentOf first).uuid ≤ (agentOf second).uuid
    let shown := listed.take limit.toNat
    .ok { entries := shown, nextCursor := if limit.toNat < listed.length then shown.getLast?.map agentOf else none }

inductive Pages (entries : List PresenceObservation) (includeArchived : Bool) (limit : UInt16) :
    Option AgentId → List PresenceRosterPage → Prop
  | last {after page} (given : paginateRoster entries includeArchived after limit = .ok page) (done : page.nextCursor = none) :
      Pages entries includeArchived limit after [page]
  | more {after page cursor rest} (given : paginateRoster entries includeArchived after limit = .ok page)
      (goes : page.nextCursor = some cursor) (later : Pages entries includeArchived limit (some cursor) rest) :
      Pages entries includeArchived limit after (page :: rest)

theorem uuid_injective : Function.Injective fun id : AgentId => id.uuid := fun ⟨_⟩ ⟨_⟩ same => congrArg Id.mk same

section

variable {entries : List PresenceObservation} {includeArchived : Bool} {limit : UInt16} {after : Option AgentId}
  (rising : Rising (fun entry => (agentOf entry).uuid) entries)

theorem pages_once (followed : Pages entries includeArchived limit after pages)
    (followed' : Pages entries includeArchived limit after others) : pages = others := by
  induction followed generalizing others with
  | last given done =>
    cases followed' with
    | last given' _ => rw [Except.ok.inj (given.symm.trans given')]
    | more given' goes _ =>
      rw [← Except.ok.inj (given.symm.trans given'), done] at goes
      cases goes
  | more given goes _ ih =>
    cases followed' with
    | last given' done =>
      rw [← Except.ok.inj (given.symm.trans given'), goes] at done
      cases done
    | more given' goes' later =>
      have same := Except.ok.inj (given.symm.trans given')
      subst same
      rw [Option.some.inj (goes.symm.trans goes')] at ih
      rw [ih later]

include rising

theorem paginate_rising (positive : limit ≠ 0) (bounded : limit.toNat ≤ presencePageSize) :
    paginateRoster entries includeArchived after limit = .ok
      { entries := (entries.filter (listedAfter includeArchived after)).take limit.toNat
        nextCursor := if limit.toNat < (entries.filter (listedAfter includeArchived after)).length then
          ((entries.filter (listedAfter includeArchived after)).take limit.toNat).getLast?.map agentOf else none } := by
  have shown : Rising _ (entries.filter (listedAfter includeArchived after)) := rising.sublist List.filter_sublist
  have sorted := (shown.imp le_of_lt).insertionSort_eq
  rw [paginateRoster, if_neg (by simp [positive, bounded])]
  simp [sorted]

theorem listed_past (shown : ((entries.filter (listedAfter includeArchived after)).take limit.toNat).getLast? = some last) :
    entries.filter (listedAfter includeArchived (some (agentOf last))) =
      (entries.filter (listedAfter includeArchived after)).drop limit.toNat := by
  have among := List.mem_of_mem_take (List.mem_of_getLast? shown)
  rw [← rising_past (rising.sublist List.filter_sublist) shown, List.filter_filter]
  refine List.filter_congr fun entry _ => ?_
  have passed := (Bool.and_eq_true_iff.mp (List.mem_filter.mp among).2).2
  cases after with
  | none => simp [listedAfter, Bool.and_comm]
  | some cursor =>
    have beyond : cursor.uuid < (agentOf last).uuid := by simpa using passed
    simp only [listedAfter, Option.all_some]
    by_cases past : (agentOf last).uuid < (agentOf entry).uuid
    · simp [past, beyond.trans past]
    · simp [past]

theorem pages_cover (positive : limit ≠ 0) (bounded : limit.toNat ≤ presencePageSize) :
    ∃ pages, Pages entries includeArchived limit after pages ∧
      pages.flatMap (·.entries) = entries.filter (listedAfter includeArchived after) := by
  induction left : (entries.filter (listedAfter includeArchived after)).length using Nat.strong_induction_on generalizing after with
  | _ count ih =>
    have given : paginateRoster entries includeArchived after limit = _ := paginate_rising rising positive bounded
    have some_shown : 0 < limit.toNat := Nat.pos_of_ne_zero fun zero => positive (UInt16.toNat_inj.mp zero)
    by_cases more : limit.toNat < (entries.filter (listedAfter includeArchived after)).length
    · rw [if_pos more] at given
      cases shown : ((entries.filter (listedAfter includeArchived after)).take limit.toNat).getLast? with
      | none =>
        have empty := congrArg List.length (List.getLast?_eq_none_iff.mp shown)
        rw [List.length_take, List.length_nil] at empty
        omega
      | some last =>
        have rest := listed_past rising shown
        have fewer : (entries.filter (listedAfter includeArchived (some (agentOf last)))).length < count := by
          rw [rest, List.length_drop]
          omega
        obtain ⟨pages, followed, covered⟩ := ih _ fewer rfl
        refine ⟨_, .more given (by rw [shown]; rfl) followed, ?_⟩
        rw [List.flatMap_cons, covered, rest, List.take_append_drop]
    · rw [if_neg more] at given
      refine ⟨_, .last given rfl, ?_⟩
      rw [List.flatMap_singleton, List.take_of_length_le (not_lt.mp more)]

end

theorem archived_offline {evidence : AgentPresenceEvidence} {days : Nat}
    (reason : (evidence.lifecycle moment days).archiveReason ≠ none) :
    (evidence.lifecycle moment days).archiveReason = some .expired ∧ (evidence.lifecycle moment days).connection = .offline := by
  obtain ⟨_, given⟩ := Option.ne_none_iff_exists'.mp reason
  obtain ⟨since, kept, rfl⟩ := Option.map_eq_some_iff.mp given
  refine ⟨given, ?_⟩
  have known := (Option.filter_eq_some_iff.mp kept).1
  simp only [AgentPresenceEvidence.lifecycle] at known ⊢
  cases lives : evidence.liveness with
  | lease =>
    simp only [lives, AgentPresenceEvidence.leaseState, Option.ite_none_right_eq_some] at known ⊢
    exact known.1
  | presence observation =>
    simp only [lives, AgentPresenceEvidence.presenceState] at known ⊢
    split at known <;> simp_all

section

variable {presences shuffled : List ProjectedAgentPresence} {now : UtcMillis} {policy : AgentRosterPolicy}
  {matrixPresence : MatrixUserId → Option MatrixPresenceObservation} {agentId : AgentId}

theorem listed_agents_mem : agentId ∈ listedAgents presences ↔ ∃ presence ∈ presences, presence.identity.agentId = agentId :=
  (mem_collect_members uuid_injective).trans List.mem_map

theorem max_shuffled {values others : List Int} (same : values.Perm others) : others.max? = values.max? :=
  Option.ext fun top => by simp [List.max?_eq_some_iff, same.mem_iff]

instance (now : UtcMillis) : Std.Total fun first second : ObservedInstance => priority second now ≤ priority first now :=
  ⟨fun _ _ => le_total _ _⟩

instance (now : UtcMillis) : IsTrans ObservedInstance fun first second => priority second now ≤ priority first now :=
  ⟨fun _ _ _ above beyond => le_trans beyond above⟩

theorem project_agent_shuffled (same : instances.Perm others) (distinct : (instances.map fun entry => instanceKey entry.presence).Nodup) :
    projectAgent others now policy = projectAgent instances now policy := by
  have sorted : byPriority now others = byPriority now instances := by
    refine sort_shuffled same fun first listed second listed' below above => ?_
    have level := congrArg ofLex (le_antisymm below above)
    have key : instanceKey second.presence = instanceKey first.presence :=
      congrArg (fun rank => (ofLex (ofLex (ofLex rank.2).2).2)) level
    exact List.inj_on_of_nodup_map distinct listed listed' key.symm
  have kept := same.filter (·.online now policy.archiveAfterDays)
  simp [projectAgent, sorted, projectPrimary, max_shuffled (same.map _), max_shuffled (kept.filterMap _), kept.any_eq]

theorem roster_shuffled (distinct : (presences.map instanceKey).Nodup) (same : presences.Perm shuffled) :
    projectRosterWithPresence shuffled now policy matrixPresence = projectRosterWithPresence presences now policy matrixPresence := by
  have listed : listedAgents shuffled = listedAgents presences :=
    rising_ext (collect_members_rising ..) (collect_members_rising ..) fun _ => by simp [listed_agents_mem, same.mem_iff]
  rw [projectRosterWithPresence, projectRosterWithPresence, listed]
  refine congrArg archiveBeyondCapacity (List.filterMap_congr fun agentId _ => project_agent_shuffled ((same.filter _).map _) ?_)
  rw [observedInstances, List.map_map]
  exact distinct.sublist (List.filter_sublist.map _)

variable (now policy matrixPresence) in
theorem projected_agent (listed : agentId ∈ listedAgents presences) :
    ∃ entry, projectAgent (observedInstances presences matrixPresence agentId) now policy = some entry ∧ agentOf entry = agentId ∧
      (entry.lifecycle.archiveReason ≠ none → entry.lifecycle.archiveReason = some .expired ∧ entry.lifecycle.connection = .offline) := by
  obtain ⟨presence, among, same⟩ := listed_agents_mem.mp listed
  cases projected : projectAgent (observedInstances presences matrixPresence agentId) now policy with
  | none =>
    have nothing := List.head?_eq_none_iff.mp (Option.map_eq_none_iff.mp projected)
    have there : presence ∈ presences.filter (·.identity.agentId = agentId) := List.mem_filter.mpr ⟨among, decide_eq_true same⟩
    have sorted := (List.perm_insertionSort _ _).symm.trans (List.Perm.of_eq nothing)
    rw [observedInstances, List.perm_nil, List.map_eq_nil_iff] at sorted
    exact absurd (sorted ▸ there) List.not_mem_nil
  | some entry =>
    obtain ⟨primary, member, shown⟩ := project_agent_primary now policy projected
    obtain ⟨other, kept, built⟩ := List.mem_map.mp member
    refine ⟨entry, rfl, ?_, ?_⟩
    · rw [agentOf, shown, ← built]
      exact of_decide_eq_true (List.mem_filter.mp kept).2
    · obtain ⟨primary, _, rfl⟩ := Option.map_eq_some_iff.mp projected
      exact archived_offline

def unarchived (presences : List ProjectedAgentPresence) (now : UtcMillis) (policy : AgentRosterPolicy)
    (matrixPresence : MatrixUserId → Option MatrixPresenceObservation) : List PresenceObservation :=
  (listedAgents presences).filterMap fun agentId => projectAgent (observedInstances presences matrixPresence agentId) now policy

variable (now policy matrixPresence) in
theorem unarchived_agents : (unarchived presences now policy matrixPresence).map agentOf = listedAgents presences := by
  have each : ∀ agents : List AgentId, (∀ agentId ∈ agents, agentId ∈ listedAgents presences) →
      (agents.filterMap fun agentId => projectAgent (observedInstances presences matrixPresence agentId) now policy).map agentOf =
        agents := by
    intro agents within
    induction agents with
    | nil => rfl
    | cons agentId rest ih =>
      obtain ⟨entry, projected, same, _⟩ := projected_agent now policy matrixPresence (within agentId List.mem_cons_self)
      simp only [List.filterMap_cons, projected, List.map_cons, same, ih fun other later => within other (List.mem_cons_of_mem _ later)]
  exact each _ fun _ listed => listed

theorem unarchived_entry (listed : entry ∈ unarchived presences now policy matrixPresence)
    (reason : entry.lifecycle.archiveReason ≠ none) :
    entry.lifecycle.archiveReason = some .expired ∧ entry.lifecycle.connection = .offline := by
  obtain ⟨agentId, among, projected⟩ := List.mem_filterMap.mp listed
  obtain ⟨other, projected', _, archived⟩ := projected_agent now policy matrixPresence among
  cases projected.symm.trans projected'
  exact archived reason

end

def keptOffline (entry : PresenceObservation) : Bool := entry.lifecycle.connection = .offline ∧ entry.lifecycle.archiveReason = none

section

variable {entries : List PresenceObservation} {first second : PresenceObservation}

instance : Std.Total fun first second : PresenceObservation => lastSeen second < lastSeen first ∨
    (lastSeen first = lastSeen second ∧ first.presence.identity.agentId.uuid ≤ second.presence.identity.agentId.uuid) :=
  ⟨fun _ _ => by omega⟩

instance : IsTrans PresenceObservation fun first second => lastSeen second < lastSeen first ∨
    (lastSeen first = lastSeen second ∧ first.presence.identity.agentId.uuid ≤ second.presence.identity.agentId.uuid) :=
  ⟨fun _ _ _ before beyond => by omega⟩

theorem archived_last_seen (entry : PresenceObservation) :
    lastSeen (archiveWhere archived entry) = lastSeen entry ∧ agentOf (archiveWhere archived entry) = agentOf entry := by
  rw [archiveWhere]
  split <;> exact ⟨rfl, rfl⟩

theorem recent_listed : first ∈ recentFirst (entries.filter keptOffline) ↔ first ∈ entries ∧ keptOffline first = true :=
  (List.mem_insertionSort _).trans List.mem_filter

theorem kept_recent (listed : first ∈ archiveBeyondCapacity entries) (kept : keptOffline first = true) :
    first ∈ (recentFirst (entries.filter keptOffline)).take recentOfflineLimit := by
  obtain ⟨before, among, rfl⟩ := List.mem_map.mp listed
  simp only [archiveWhere] at kept ⊢
  split at kept
  · simp [keptOffline] at kept
  · next spared =>
      rw [if_neg spared]
      have sorted := recent_listed.mpr ⟨among, kept⟩
      rw [← List.take_append_drop recentOfflineLimit (recentFirst _)] at sorted
      refine (List.mem_append.mp sorted).resolve_right fun dropped => spared (decide_eq_true ?_)
      exact List.mem_map.mpr ⟨before, dropped, rfl⟩

theorem beyond_recent (distinct : (entries.map agentOf).Nodup) (among : first ∈ entries) (archived : agentOf first ∈ beyondCapacity entries) :
    first ∈ (recentFirst (entries.filter keptOffline)).drop recentOfflineLimit := by
  obtain ⟨other, dropped, same⟩ := List.mem_map.mp archived
  rwa [← List.inj_on_of_nodup_map distinct (recent_listed.mp (List.mem_of_mem_drop dropped)).1 among same]

end

section

variable (presences : List ProjectedAgentPresence) (now : UtcMillis) (policy : AgentRosterPolicy)
  (matrixPresence : MatrixUserId → Option MatrixPresenceObservation)

theorem roster_agents : (projectRosterWithPresence presences now policy matrixPresence).map agentOf = listedAgents presences := by
  rw [← unarchived_agents now policy matrixPresence, projectRosterWithPresence, archiveBeyondCapacity, List.map_map]
  exact List.map_congr_left fun entry _ => (archived_last_seen entry).2

theorem roster_is_well_defined (presences : List ProjectedAgentPresence) (now : UtcMillis) (policy : AgentRosterPolicy)
    (matrixPresence : MatrixUserId → Option MatrixPresenceObservation) :
    let roster := projectRosterWithPresence presences now policy matrixPresence
    ((presences.map instanceKey).Nodup → ∀ shuffled, presences.Perm shuffled →
      projectRosterWithPresence shuffled now policy matrixPresence = roster) ∧
    ((roster.map agentOf).Nodup ∧
      ∀ agentId, agentId ∈ roster.map agentOf ↔ ∃ presence ∈ presences, presence.identity.agentId = agentId) ∧
    (∀ entry ∈ roster, entry.lifecycle.connection ≠ .offline → entry.lifecycle.archiveReason = none) ∧
    (roster.filter keptOffline).length ≤ 100 ∧
    ∀ kept ∈ roster, keptOffline kept = true → ∀ archived ∈ roster, archived.lifecycle.archiveReason = some .capacity →
      lastSeen archived ≤ lastSeen kept := by
  intro roster
  have agents : roster.map agentOf = _ := roster_agents presences now policy matrixPresence
  have rising : Rising _ (listedAgents presences) := collect_members_rising ..
  have distinct : (listedAgents presences).Nodup := List.Nodup.of_map _ (List.pairwise_map.mpr (rising.imp ne_of_lt))
  have distinct' : ((unarchived presences now policy matrixPresence).map agentOf).Nodup := unarchived_agents now policy matrixPresence ▸ distinct
  refine ⟨fun apart shuffled same => roster_shuffled apart same, ⟨agents ▸ distinct, fun agentId => agents ▸ listed_agents_mem⟩, ?_, ?_, ?_⟩
  · intro entry listed online
    obtain ⟨before, among, rfl⟩ := List.mem_map.mp listed
    simp only [archiveWhere] at online ⊢
    split at online
    · next archived =>
        have offline := recent_listed.mp (List.mem_of_mem_drop (beyond_recent distinct' among (of_decide_eq_true archived)))
        exact absurd (of_decide_eq_true offline.2).1 online
    · next spared =>
        rw [if_neg spared]
        by_contra reason
        exact online (unarchived_entry among reason).2
  · have nodup : (roster.filter keptOffline).Nodup := ((agents ▸ distinct : (List.map agentOf _).Nodup).of_map).filter _
    have recent := nodup.subperm fun entry listed => kept_recent (List.mem_of_mem_filter listed) (List.mem_filter.mp listed).2
    exact recent.length_le.trans (List.length_take_le recentOfflineLimit _)
  · intro kept listed spared archived listed' reason
    have recent := kept_recent listed spared
    obtain ⟨before, among, rfl⟩ := List.mem_map.mp listed'
    rw [(archived_last_seen before).1]
    simp only [archiveWhere] at reason
    split at reason
    · next beyond =>
        have sorted := List.pairwise_insertionSort (fun first second => lastSeen second < lastSeen first ∨
          (lastSeen first = lastSeen second ∧ first.presence.identity.agentId.uuid ≤ second.presence.identity.agentId.uuid))
          ((unarchived presences now policy matrixPresence).filter keptOffline)
        rw [← List.take_append_drop recentOfflineLimit (List.insertionSort _ _), List.pairwise_append] at sorted
        rcases sorted.2.2 kept recent before (beyond_recent distinct' among (of_decide_eq_true beyond)) with later | level
        · exact later.le
        · exact level.1.ge
    · have expired := (unarchived_entry among (reason ▸ Option.some_ne_none _)).1
      rw [reason] at expired
      cases expired

theorem roster_pages_are_exact (includeArchived : Bool) (limit : UInt16) :
    let roster := projectRosterWithPresence presences now policy matrixPresence
    (limit = 0 ∨ 100 < limit.toNat → ∀ after, paginateRoster roster includeArchived after limit = .error .invalidPageSize) ∧
    (1 ≤ limit.toNat → limit.toNat ≤ 100 → ∃ pages, Pages roster includeArchived limit none pages ∧
        (∀ others, Pages roster includeArchived limit none others → others = pages) ∧
        pages.flatMap (·.entries) = roster.filter (fun entry => includeArchived || entry.lifecycle.archiveReason = none) ∧
        ((pages.flatMap (·.entries)).map agentOf).Pairwise fun first second => first.uuid < second.uuid) := by
  intro roster
  refine ⟨fun wrong after => if_pos wrong, fun positive bounded => ?_⟩
  have listed : (listedAgents presences).Pairwise fun first second => first.uuid < second.uuid := collect_members_rising ..
  rw [← roster_agents presences now policy matrixPresence, List.pairwise_map] at listed
  have rising : Rising (fun entry => (agentOf entry).uuid) roster := listed
  have there : limit ≠ 0 := by
    rintro rfl
    exact absurd positive (by decide)
  obtain ⟨pages, followed, covered⟩ := pages_cover rising there bounded
  refine ⟨pages, followed, fun others followed' => pages_once followed' followed, ?_, ?_⟩
  · rw [covered]
    exact List.filter_congr fun entry _ => Bool.and_true _
  · rw [covered, List.pairwise_map]
    exact rising.sublist List.filter_sublist

end

end AgentRoom.Presence
