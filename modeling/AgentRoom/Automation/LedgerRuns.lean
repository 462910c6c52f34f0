import AgentRoom.Automation.LedgerSteps
import AgentRoom.Library.Runs

namespace AgentRoom.Automation

open Library

def AutomationStep (tables : AutomationTables) (call : AutomationCall) (next : AutomationTables) : Prop :=
  next = (perform tables call).1

def AutomationRun (calls : List AutomationCall) (tables : AutomationTables) : Prop := Runs AutomationStep .empty calls tables

structure Bounded (tables : AutomationTables) : Prop where
  ids : (tables.grants.map (·.id)).Nodup
  submissions : (tables.consumptions.map (·.submissionId)).Nodup
  known : ∀ row ∈ tables.consumptions, ∃ grant ∈ tables.grants, grant.id = row.grantId
  windows : ∀ row ∈ tables.consumptions, row.minuteWindowStart = minuteWindowStart row.consumedAt
  within : ∀ grant ∈ tables.grants, ∀ row ∈ tables.ofGrant grant.id,
    grant.limits.startsAt ≤ row.consumedAt ∧ row.consumedAt < grant.limits.expiresAt
  total : ∀ grant ∈ tables.grants, ∀ maximum, grant.limits.maxTotalMessages = some maximum →
    (tables.ofGrant grant.id).length ≤ maximum
  minute : ∀ grant ∈ tables.grants, ∀ start,
    (tables.ofGrant grant.id).countP (·.minuteWindowStart = start) ≤ grant.limits.maxMessagesPerMinute

section

variable {tables next : AutomationTables}

theorem of_grant_same (same : next.consumptions = tables.consumptions) (grantId : AutomationGrantId) :
    next.ofGrant grantId = tables.ofGrant grantId := by
  rw [AutomationTables.ofGrant, AutomationTables.ofGrant, same]

theorem of_grant_appended (appended : next.consumptions = tables.consumptions ++ [row]) (grantId : AutomationGrantId) :
    next.ofGrant grantId = if row.grantId = grantId then tables.ofGrant grantId ++ [row] else tables.ofGrant grantId := by
  rw [AutomationTables.ofGrant, AutomationTables.ofGrant, appended, List.filter_append]
  by_cases own : row.grantId = grantId
  · simp [own]
  · simp [own]

section

variable (bounded : Bounded tables)
include bounded

theorem kept_bounded (grants : GrantsLater tables.grants next.grants)
    (same : next.consumptions = tables.consumptions) : Bounded next where
  ids := by
    rw [related_column (·.id) (fun _ _ later => later.id) grants]
    exact bounded.ids
  submissions := same ▸ bounded.submissions
  known := by
    intro row listed
    obtain ⟨grant, there, own⟩ := bounded.known row (same ▸ listed)
    obtain ⟨after, among, later⟩ := related_to grants there
    exact ⟨after, among, later.id.trans own⟩
  windows := fun row listed => bounded.windows row (same ▸ listed)
  within := by
    intro after among row listed
    obtain ⟨grant, there, later⟩ := related_from grants among
    rw [of_grant_same same, later.id] at listed
    exact later.limits ▸ bounded.within grant there row listed
  total := by
    intro after among maximum limit
    obtain ⟨grant, there, later⟩ := related_from grants among
    rw [of_grant_same same, later.id]
    exact bounded.total grant there maximum (later.limits ▸ limit)
  minute := by
    intro after among start
    obtain ⟨grant, there, later⟩ := related_from grants among
    rw [of_grant_same same, later.id, later.limits]
    exact bounded.minute grant there start

theorem created_bounded (fresh : ∀ other ∈ tables.grants, other.id ≠ grant.id)
    (grants : next.grants = tables.grants ++ [grant]) (same : next.consumptions = tables.consumptions) : Bounded next := by
  have unused : tables.ofGrant grant.id = [] := by
    rw [AutomationTables.ofGrant, List.filter_eq_nil_iff]
    intro row listed own
    obtain ⟨other, there, named⟩ := bounded.known row listed
    exact fresh other there (named.trans (of_decide_eq_true own))
  have either : ∀ other ∈ next.grants, other ∈ tables.grants ∨ other = grant := by
    intro other listed
    rw [grants] at listed
    exact (List.mem_append.mp listed).imp_right List.mem_singleton.mp
  refine ⟨?_, same ▸ bounded.submissions, ?_, fun row listed => bounded.windows row (same ▸ listed), ?_, ?_, ?_⟩
  · rw [grants]
    exact keys_append bounded.ids fresh
  · intro row listed
    obtain ⟨other, there, own⟩ := bounded.known row (same ▸ listed)
    exact ⟨other, by rw [grants]; exact List.mem_append_left _ there, own⟩
  · intro other among row listed
    rw [of_grant_same same] at listed
    rcases either other among with old | new
    · exact bounded.within other old row listed
    · rw [new, unused] at listed
      cases listed
  · intro other among maximum limit
    rw [of_grant_same same]
    rcases either other among with old | new
    · exact bounded.total other old maximum limit
    · rw [new, unused]
      exact Nat.zero_le maximum
  · intro other among start
    rw [of_grant_same same]
    rcases either other among with old | new
    · exact bounded.minute other old start
    · rw [new, unused]
      exact Nat.zero_le _

theorem consumed_bounded (listed : grant ∈ tables.grants) (own : grant.id = row.grantId)
    (window : row.minuteWindowStart = minuteWindowStart row.consumedAt)
    (within : grant.limits.startsAt ≤ row.consumedAt ∧ row.consumedAt < grant.limits.expiresAt)
    (fresh : ∀ other ∈ tables.consumptions, other.submissionId ≠ row.submissionId)
    (total : ∀ maximum, grant.limits.maxTotalMessages = some maximum → (tables.ofGrant row.grantId).length < maximum)
    (minute : (tables.ofGrant row.grantId).countP (·.minuteWindowStart = row.minuteWindowStart) <
      grant.limits.maxMessagesPerMinute) (grants : GrantsLater tables.grants next.grants)
    (appended : next.consumptions = tables.consumptions ++ [row]) : Bounded next := by
  -- The grant of the new row is the only one whose rows change.
  have source : ∀ after ∈ next.grants, ∃ before ∈ tables.grants, Later before after ∧
      (row.grantId = after.id → before = grant) := by
    intro after among
    obtain ⟨before, there, later⟩ := related_from grants among
    refine ⟨before, there, later, fun same => ?_⟩
    exact key_unique _ _ bounded.ids before grant there listed (by rw [← later.id, ← same, own])
  refine ⟨?_, ?_, ?_, ?_, ?_, ?_, ?_⟩
  · rw [related_column (·.id) (fun _ _ later => later.id) grants]
    exact bounded.ids
  · rw [appended]
    exact keys_append bounded.submissions fresh
  · intro other among
    rw [appended] at among
    rcases List.mem_append.mp among with old | new
    · obtain ⟨before, there, named⟩ := bounded.known other old
      obtain ⟨after, here, later⟩ := related_to grants there
      exact ⟨after, here, later.id.trans named⟩
    · obtain ⟨after, here, later⟩ := related_to grants listed
      rw [List.mem_singleton.mp new]
      exact ⟨after, here, later.id.trans own⟩
  · intro other among
    rw [appended] at among
    rcases List.mem_append.mp among with old | new
    · exact bounded.windows other old
    · rw [List.mem_singleton.mp new]
      exact window
  · intro after among other there
    obtain ⟨before, was, later, only⟩ := source after among
    rw [of_grant_appended appended] at there
    by_cases same : row.grantId = after.id
    · rw [if_pos same] at there
      rcases List.mem_append.mp there with old | new
      · rw [later.id] at old
        exact later.limits ▸ bounded.within before was other old
      · rw [List.mem_singleton.mp new, later.limits, only same]
        exact within
    · rw [if_neg same, later.id] at there
      exact later.limits ▸ bounded.within before was other there
  · intro after among maximum limit
    obtain ⟨before, was, later, only⟩ := source after among
    rw [of_grant_appended appended]
    rw [later.limits] at limit
    by_cases same : row.grantId = after.id
    · rw [if_pos same, List.length_append, ← same]
      exact total maximum (only same ▸ limit)
    · rw [if_neg same, later.id]
      exact bounded.total before was maximum limit
  · intro after among start
    obtain ⟨before, was, later, only⟩ := source after among
    rw [of_grant_appended appended, later.limits]
    by_cases same : row.grantId = after.id
    · rw [if_pos same, List.countP_append]
      by_cases here : row.minuteWindowStart = start
      · subst here
        rw [only same, ← same]
        simpa using minute
      · have kept := bounded.minute before was start
        rw [← later.id] at kept
        simpa [here] using kept
    · rw [if_neg same, later.id]
      exact bounded.minute before was start

theorem moves_bounded (moves : Moves tables next) : Bounded next := by
  cases moves with
  | created grant fresh grants same => exact created_bounded bounded fresh grants same
  | counts counts =>
    cases counts with
    | kept grants same => exact kept_bounded bounded grants same
    | consumed row grant listed own active window within fresh total minute grants appended =>
      exact consumed_bounded bounded listed own window within fresh total minute grants appended

theorem moves_inactive (moves : Moves tables next) (grantId : AutomationGrantId)
    (closed : ∃ grant ∈ tables.grants, grant.id = grantId ∧ grant.state ≠ .active) :
    (∃ grant ∈ next.grants, grant.id = grantId ∧ grant.state ≠ .active) ∧ next.ofGrant grantId = tables.ofGrant grantId := by
  obtain ⟨grant, listed, own, inactive⟩ := closed
  have stays : GrantsLater tables.grants next.grants → ∃ after ∈ next.grants, after.id = grantId ∧ after.state ≠ .active := by
    intro grants
    obtain ⟨after, there, later⟩ := related_to grants listed
    exact ⟨after, there, later.id.trans own, by rw [later.inactive inactive]; exact inactive⟩
  cases moves with
  | created new fresh grants same =>
    exact ⟨⟨grant, by rw [grants]; exact List.mem_append_left _ listed, own, inactive⟩, of_grant_same same grantId⟩
  | counts counts =>
    cases counts with
    | kept grants same => exact ⟨stays grants, of_grant_same same grantId⟩
    | consumed row other there named active window within fresh total minute grants appended =>
      have apart : row.grantId ≠ grantId := by
        intro same
        have equal := key_unique _ _ bounded.ids other grant there listed (by rw [named, same, own])
        exact inactive (equal ▸ active)
      refine ⟨stays grants, ?_⟩
      rw [of_grant_appended appended, if_neg apart]

end

end

section

variable {tables : AutomationTables}

theorem empty_bounded : Bounded .empty where
  ids := List.nodup_nil
  submissions := List.nodup_nil
  known := fun row listed => by cases listed
  windows := fun row listed => by cases listed
  within := fun grant listed => by cases listed
  total := fun grant listed => by cases listed
  minute := fun grant listed => by cases listed

theorem step_bounded (bounded : Bounded tables) (step : AutomationStep tables call next) : Bounded next := by
  rw [AutomationStep] at step
  exact step ▸ moves_bounded bounded (perform_moves bounded.ids call)

theorem automation_run_bounded (run : AutomationRun calls tables) : Bounded tables :=
  runs_invariant Bounded (fun _ _ _ bounded step => step_bounded bounded step)
    empty_bounded run

theorem inactive_run (bounded : Bounded tables) (run : Runs AutomationStep tables later final) (listed : grant ∈ tables.grants)
    (inactive : grant.state ≠ .active) : final.ofGrant grant.id = tables.ofGrant grant.id := by
  have kept := runs_invariant
    (fun state => Bounded state ∧ (∃ other ∈ state.grants, other.id = grant.id ∧ other.state ≠ .active) ∧
      state.ofGrant grant.id = tables.ofGrant grant.id)
    (fun state call next held step => by
      obtain ⟨bounded, closed, same⟩ := held
      have moves := perform_moves bounded.ids call
      rw [← step] at moves
      obtain ⟨closed', same'⟩ := moves_inactive bounded moves grant.id closed
      exact ⟨moves_bounded bounded moves, closed', same'.trans same⟩) ⟨bounded, ⟨grant, listed, rfl, inactive⟩, rfl⟩ run
  exact kept.2.2

theorem automation_ledger_bounds (calls : List AutomationCall) (tables : AutomationTables) (run : AutomationRun calls tables) :
    (∀ grant ∈ tables.grants,
      (∀ maximum, grant.limits.maxTotalMessages = some maximum → (tables.ofGrant grant.id).length ≤ maximum) ∧
      (∀ time, (tables.ofGrant grant.id).countP (fun row => minuteWindowStart row.consumedAt = minuteWindowStart time) ≤
        grant.limits.maxMessagesPerMinute) ∧
      ∀ row ∈ tables.ofGrant grant.id, grant.limits.startsAt ≤ row.consumedAt ∧ row.consumedAt < grant.limits.expiresAt) ∧
    (tables.consumptions.map (·.submissionId)).Nodup ∧
    (∀ call record, (perform tables call).2 = .consumed (.ok (.consumed record true)) →
      (perform tables call).1.consumptions = tables.consumptions ∧
        ∀ grantId now, (perform tables call).1.usage grantId now = tables.usage grantId now) ∧
    ∀ later final, Runs AutomationStep tables later final → ∀ grant ∈ tables.grants, grant.state ≠ .active →
      final.ofGrant grant.id = tables.ofGrant grant.id := by
  have bounded := automation_run_bounded run
  refine ⟨fun grant listed => ⟨bounded.total grant listed, fun time => ?_, bounded.within grant listed⟩,
    bounded.submissions, fun call record answer => ?_, fun later final more grant listed inactive => ?_⟩
  · have counted : ∀ row ∈ tables.ofGrant grant.id, decide (minuteWindowStart row.consumedAt = minuteWindowStart time) =
          decide (row.minuteWindowStart = minuteWindowStart time) := by
      intro row among
      rw [bounded.windows row (List.mem_filter.mp among).1]
    have same := List.countP_congr fun row among => Bool.eq_iff_iff.mp (counted row among)
    rw [same]
    exact bounded.minute grant listed (minuteWindowStart time)
  · have same := reused_kept answer
    refine ⟨same, fun grantId now => ?_⟩
    rw [AutomationTables.usage, AutomationTables.usage, of_grant_same same]
  · exact inactive_run bounded more listed inactive

end

def sampleGrant : AutomationGrant where
  id := ⟨0x019b76daa80070008000000000000008⟩
  grantorId := ⟨0x019b76daa80070008000000000000001⟩
  scope :=
    { agentId := ⟨0x019b76daa80070008000000000000002⟩
      agentInstanceId := none
      roomCatalogId := ⟨0x019b76daa80070008000000000000003⟩
      messageKinds := ⟨[.roomMessage], List.pairwise_singleton .., by decide⟩
      audience := .knownRoomMembers
      requiresRiskScan := false
      scanned := by decide }
  limits :=
    { maxMessagesPerMinute := 2
      maxTotalMessages := some 1
      startsAt := 1000
      expiresAt := 90000
      frequency := by decide
      total := by decide
      lifetime := by decide }
  state := .active
  createdAt := 1000
  revokedAt := none
  version := .initial

def sampleConsumption (submissionId : MessageSubmissionId) (now : UtcMillis) : AutomationConsumptionRequest where
  receptionRunId := none
  grantId := sampleGrant.id
  submissionId
  matrixRoomId := ⟨"!lobby:example.org"⟩
  attempt :=
    { agentId := sampleGrant.scope.agentId
      agentInstanceId := some ⟨0x019b76daa80070008000000000000004⟩
      roomCatalogId := sampleGrant.scope.roomCatalogId
      messageKind := .roomMessage
      containsUnknownRecipients := false
      endToEndEncrypted := false
      riskScan := .passed
      now }

def sampleLedger : List AutomationCall := [
  .create sampleGrant true,
  .consume (fun _ => none) (sampleConsumption ⟨0x019b76daa80070008000000000000005⟩ 61000) true,
  .consume (fun _ => none) (sampleConsumption ⟨0x019b76daa80070008000000000000006⟩ 2000) true]

theorem second_message_refused : ∃ tables, AutomationRun sampleLedger tables ∧ tables.consumptions.length = 1 ∧
    (tables.consumptions.map (·.submissionId)).Nodup := by
  have run : AutomationRun sampleLedger _ := (foldl_runs (fun tables call => (perform tables call).1) ..).mpr rfl
  exact ⟨_, run, by decide, (automation_ledger_bounds sampleLedger _ run).2.1⟩

def GrantsStand (tables next : AutomationTables) : Prop :=
  (∀ grant ∈ tables.grants, ∃ after ∈ next.grants, Later grant after) ∧ tables.consumptions <+: next.consumptions

theorem moves_stand (moves : Moves tables next) : GrantsStand tables next := by
  obtain (⟨grants, same⟩ | ⟨row, _, _, _, _, _, _, _, _, _, grants, same⟩) | ⟨grant, _, grants, same⟩ := moves
  · exact ⟨fun _ => related_to grants, same ▸ List.prefix_rfl⟩
  · exact ⟨fun _ => related_to grants, row :: [], same.symm⟩
  · exact ⟨fun old listed => ⟨old, grants ▸ List.mem_append_left _ listed, later_refl old⟩, same ▸ List.prefix_rfl⟩

-- A grant that has ended never opens again, and no use of it is forgotten.
theorem grants_never_reopen (calls later : List AutomationCall) (tables final : AutomationTables) (run : AutomationRun calls tables)
    (onward : Runs AutomationStep tables later final) : GrantsStand tables final := by
  refine (runs_invariant (fun state => Bounded state ∧ GrantsStand tables state) ?_
    ⟨automation_run_bounded run, fun old listed => ⟨old, listed, later_refl old⟩, List.prefix_rfl⟩ onward).2
  intro state call next ⟨bounded, stood, grew⟩ step
  obtain ⟨stand, grows⟩ := moves_stand (step ▸ perform_moves bounded.ids call)
  refine ⟨step_bounded bounded step, fun old listed => ?_, grew.trans grows⟩
  obtain ⟨middle, among, early⟩ := stood old listed
  obtain ⟨last, there, late⟩ := stand middle among
  exact ⟨last, there, later_trans _ _ _ early late⟩

theorem first_grant_stands : ∃ tables final, tables.grants = [sampleGrant] ∧ GrantsStand tables final := by
  have run : AutomationRun (sampleLedger.take 1) (perform .empty (.create sampleGrant true)).1 := ⟨_, rfl, rfl⟩
  exact ⟨_, _, rfl, grants_never_reopen _ (sampleLedger.drop 1) _ _ run ⟨_, rfl, _, rfl, rfl⟩⟩

end AgentRoom.Automation
