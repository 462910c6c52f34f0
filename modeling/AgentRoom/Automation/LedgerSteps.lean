import AgentRoom.Automation.Ledger

namespace AgentRoom.Automation

open Library

-- A grant never comes back to the active state, and its limits are fixed.
structure Later (grant after : AutomationGrant) : Prop where
  id : after.id = grant.id
  limits : after.limits = grant.limits
  inactive : grant.state ≠ .active → after.state = grant.state

theorem later_refl (grant : AutomationGrant) : Later grant grant := ⟨rfl, rfl, fun _ => rfl⟩

theorem later_trans (first second third : AutomationGrant) (earlier : Later first second) (later : Later second third) :
    Later first third where
  id := later.id.trans earlier.id
  limits := later.limits.trans earlier.limits
  inactive := by
    intro inactive
    have same := earlier.inactive inactive
    exact (later.inactive (same ▸ inactive)).trans same

def GrantsLater (grants next : List AutomationGrant) : Prop := List.Forall₂ Later grants next

theorem grants_later_refl : GrantsLater grants grants :=
  List.forall₂_same.mpr fun grant _ => later_refl grant

theorem grants_later_trans (earlier : GrantsLater first second) (later : GrantsLater second third) : GrantsLater first third :=
  related_trans earlier later fun one _ two three => later_trans one two three

-- All that a call does to the consumption rows: none is added, or one of a grant that is
-- active and has room for it.
inductive Counts (tables next : AutomationTables) : Prop where
  | kept (grants : GrantsLater tables.grants next.grants) (consumptions : next.consumptions = tables.consumptions)
  | consumed (row : AutomationConsumption) (grant : AutomationGrant) (listed : grant ∈ tables.grants)
      (own : grant.id = row.grantId) (active : grant.state = .active)
      (window : row.minuteWindowStart = minuteWindowStart row.consumedAt)
      (within : grant.limits.startsAt ≤ row.consumedAt ∧ row.consumedAt < grant.limits.expiresAt)
      (fresh : ∀ other ∈ tables.consumptions, other.submissionId ≠ row.submissionId)
      (total : ∀ maximum, grant.limits.maxTotalMessages = some maximum → (tables.ofGrant row.grantId).length < maximum)
      (minute : (tables.ofGrant row.grantId).countP (·.minuteWindowStart = row.minuteWindowStart) <
        grant.limits.maxMessagesPerMinute)
      (grants : GrantsLater tables.grants next.grants) (consumptions : next.consumptions = tables.consumptions ++ [row])

inductive Moves (tables next : AutomationTables) : Prop where
  | counts (moves : Counts tables next)
  | created (grant : AutomationGrant) (fresh : ∀ other ∈ tables.grants, other.id ≠ grant.id)
      (grants : next.grants = tables.grants ++ [grant]) (consumptions : next.consumptions = tables.consumptions)

theorem counts_refl : Counts tables tables := .kept (grants_later_refl) rfl

theorem moves_refl (tables : AutomationTables) : Moves tables tables := .counts (counts_refl)

theorem advance_ok (state : AutomationGrantStatus) (row after : AutomationGrant) (advanced : advance state row = .ok after) :
    after.id = row.id ∧ after.limits = row.limits := by
  obtain ⟨version, _, built⟩ := unbind advanced
  cases built
  exact ⟨rfl, rfl⟩

theorem advanced_later {hit : AutomationGrant → Bool} {rows after : List AutomationGrant}
    (active : ∀ row, hit row = true → row.state = .active) (updated : updateWhere hit (advance state) rows = .ok after) :
    GrantsLater rows after := by
  apply (update_where_ok hit (advance state) rows after updated).imp
  rintro row new (⟨hits, advanced⟩ | ⟨_, same⟩)
  · obtain ⟨id, limits⟩ := advance_ok state row new advanced
    exact ⟨id, limits, fun inactive => absurd (active row hits) inactive⟩
  · exact same ▸ later_refl row

theorem expire_grants_later {grantId : Option AutomationGrantId}
    (expires : expireGrants tables principalId grantId now = .ok next) :
    GrantsLater tables.grants next.grants ∧ next.consumptions = tables.consumptions := by
  obtain ⟨grants, updated, built⟩ := unbind expires
  cases built
  exact ⟨advanced_later (fun row hits => (of_decide_eq_true hits).1) updated, rfl⟩

theorem exhaust_grant_later (exhausts : exhaustGrant tables record grantId = .ok next) :
    GrantsLater tables.grants next.grants ∧ next.consumptions = tables.consumptions := by
  rw [exhaustGrant] at exhausts
  split at exhausts
  · obtain ⟨grants, updated, built⟩ := unbind exhausts
    cases built
    exact ⟨advanced_later (fun row hits => (of_decide_eq_true hits).2) updated, rfl⟩
  · cases exhausts
    exact ⟨grants_later_refl, rfl⟩

theorem find_grant_ok (found : findGrant tables grantId now = .ok (some record)) :
    record.grant ∈ tables.grants ∧ record.grant.id = grantId ∧ record.usage = tables.usage grantId now := by
  rw [findGrant] at found
  cases stored : tables.grants.find? (·.id = grantId) with
  | none =>
    rw [stored] at found
    cases found
  | some row =>
    rw [stored] at found
    have own : row.id = grantId := by simpa using List.find?_some stored
    obtain ⟨decoded, decodes, same⟩ := (map_ok _ _ _).mp found
    cases same
    obtain ⟨grant, restored, rest⟩ := unbind decodes
    obtain ⟨_, _, built⟩ := unbind rest
    cases built
    have same : grant = row := by
      cases whole : row.restore with
      | error failure =>
        rw [whole] at restored
        cases restored
      | ok value =>
        rw [whole] at restored
        cases restored
        obtain ⟨_, _, rest⟩ := unbind whole
        obtain ⟨_, _, kept⟩ := unbind rest
        cases kept
        rfl
    subst same
    exact ⟨List.mem_of_find?_eq_some stored, own, by rw [own]⟩

theorem insert_denial_kept {record : AutomationDecisionRecord} (inserts : insertDenial tables record references = .ok next) :
    next.grants = tables.grants ∧ next.consumptions = tables.consumptions := by
  obtain ⟨_, _, rest⟩ := unbind inserts
  split at rest
  · cases rest
    exact ⟨rfl, rfl⟩
  · obtain ⟨_, _, built⟩ := unbind rest
    cases built
    exact ⟨rfl, rfl⟩

theorem insert_consumption_denial_kept {request : AutomationConsumptionRequest}
    (inserts : insertConsumptionDenial tables request record decisionCode references = .ok next) :
    next.grants = tables.grants ∧ next.consumptions = tables.consumptions := by
  rw [insertConsumptionDenial] at inserts
  split at inserts
  · cases inserts
  · exact insert_denial_kept inserts

theorem insert_grant_moves (inserts : insertGrant tables grant references = .ok next) : Moves tables next := by
  obtain ⟨_, _, rest⟩ := unbind inserts
  by_cases stored : tables.grants.any (·.id = grant.id) = true
  · rw [if_pos stored] at rest
    cases rest
    exact moves_refl tables
  · rw [if_neg stored] at rest
    obtain ⟨_, _, built⟩ := unbind rest
    cases built
    exact .created _ (by simpa using stored) rfl rfl

theorem create_moves : Moves tables (createAutomationGrant tables grant references).1 := by
  rw [createAutomationGrant]
  cases inserts : insertGrant tables grant references with
  | error kind => exact moves_refl tables
  | ok next => exact insert_grant_moves inserts

theorem expired_first_counts {α : Type} {grantId : Option AutomationGrantId} {now : UtcMillis}
    {read : AutomationTables → Result α} :
    Counts tables (expiredFirst tables (expireGrants tables principalId grantId now) read).1 := by
  cases expires : expireGrants tables principalId grantId now with
  | error kind => exact counts_refl
  | ok next =>
    obtain ⟨grants, consumptions⟩ := expire_grants_later expires
    exact .kept grants consumptions

theorem revoked_later [DecidablePred hit] (grant : AutomationGrant) (revokedAt : UtcMillis)
    (rows : List AutomationGrant) (active : ∀ row ∈ rows, hit row → row.state = .active) : GrantsLater rows (rows.map fun row =>
      if hit row then { row with state := .revoked, revokedAt := some revokedAt, version := grant.version } else row) := by
  rw [GrantsLater, List.forall₂_map_right_iff, List.forall₂_same]
  intro row listed
  by_cases hits : hit row
  · rw [if_pos hits]
    exact ⟨rfl, rfl, fun inactive => absurd (active row listed hits) inactive⟩
  · rw [if_neg hits]
    exact later_refl row

theorem revoke_counts (distinct : (tables.grants.map (·.id)).Nodup) {principalId : PrincipalId}
    {revokedAt : UtcMillis} {outcome : AutomationGrantRevocationOutcome}
    (revokes : revokeAutomationGrant tables principalId grantId revokedAt = .ok (next, outcome)) : Counts tables next := by
  obtain ⟨expired, expires, rest⟩ := unbind revokes
  obtain ⟨grants, consumptions⟩ := expire_grants_later expires
  have ids : (expired.grants.map (·.id)).Nodup := by
    rw [related_column (·.id) (fun _ _ later => later.id) grants]
    exact distinct
  obtain ⟨found, finds, rest⟩ := unbind rest
  cases found with
  | none =>
    cases rest
    exact .kept grants consumptions
  | some record =>
    obtain ⟨listed, own, _⟩ := find_grant_ok finds
    by_cases stranger : record.grant.grantorId ≠ principalId
    · simp only [if_pos stranger] at rest
      cases rest
      exact .kept grants consumptions
    · simp only [if_neg stranger] at rest
      cases state : record.grant.state with
      | revoked =>
        simp only [state] at rest
        cases rest
        exact .kept grants consumptions
      | exhausted =>
        simp only [state] at rest
        cases rest
        exact .kept grants consumptions
      | expired =>
        simp only [state] at rest
        cases rest
        exact .kept grants consumptions
      | active =>
        simp only [state] at rest
        obtain ⟨grant, _, rest⟩ := unbind rest
        obtain ⟨_, _, rest⟩ := unbind rest
        obtain ⟨again, _, rest⟩ := unbind rest
        have active : ∀ row ∈ expired.grants, (row.id = grantId ∧ row.grantorId = principalId ∧
            row.version = record.grant.version) → row.state = .active := by
          intro row among hits
          have same := key_unique _ _ ids row record.grant among listed (hits.1.trans own.symm)
          exact same ▸ state
        have written := revoked_later grant revokedAt expired.grants active
        cases again with
        | none => cases rest
        | some last =>
          cases rest
          exact .kept (grants_later_trans grants written) consumptions

theorem consume_new_counts (listed : record.grant ∈ tables.grants) (own : record.grant.id = request.grantId)
    (used : record.usage = tables.usage request.grantId request.attempt.now)
    (consumes : consumeNewSubmission tables request record references = .ok (next, outcome)) :
    Counts tables next ∧ ∀ record, outcome ≠ .consumed record true := by
  rw [consumeNewSubmission] at consumes
  cases decision : record.grant.evaluate request.attempt record.usage with
  | denied reason =>
    simp only [decision] at consumes
    obtain ⟨_, denies, built⟩ := unbind consumes
    cases built
    obtain ⟨grants, consumptions⟩ := insert_consumption_denial_kept denies
    exact ⟨.kept (by rw [grants]; exact grants_later_refl) consumptions, fun _ wrong => by cases wrong⟩
  | allowed =>
    simp only [decision] at consumes
    obtain ⟨active, started, unexpired, total, minute⟩ := record.grant.evaluate_allowed request.attempt record.usage decision
    rw [used] at total minute
    obtain ⟨agentInstanceId, _, rest⟩ := unbind consumes
    obtain ⟨inserted, inserts, rest⟩ := unbind rest
    obtain ⟨_, _, inserts⟩ := unbind inserts
    obtain ⟨_, fresh, inserts⟩ := unbind inserts
    obtain ⟨_, _, built⟩ := unbind inserts
    cases built
    rw [ensure_ok] at fresh
    obtain ⟨exhausted, exhausts, rest⟩ := unbind rest
    obtain ⟨grants, consumptions⟩ := exhaust_grant_later exhausts
    obtain ⟨again, _, rest⟩ := unbind rest
    cases again with
    | none => cases rest
    | some last =>
      cases rest
      refine ⟨.consumed _ record.grant listed own active rfl ⟨started, unexpired⟩ ?_ ?_ ?_ grants consumptions, fun _ wrong => by cases wrong⟩
      · simpa using fresh
      · exact total
      · exact minute

theorem reuse_kept (reuses : reuseSubmission tables request record existing references = .ok (next, outcome)) :
    next.grants = tables.grants ∧ next.consumptions = tables.consumptions := by
  obtain ⟨_, _, rest⟩ := unbind reuses
  obtain ⟨_, _, rest⟩ := unbind rest
  split at rest
  · obtain ⟨_, denies, built⟩ := unbind rest
    cases built
    exact insert_consumption_denial_kept denies
  · cases rest
    exact ⟨rfl, rfl⟩

theorem after_expiry (grants : GrantsLater tables.grants expired.grants)
    (consumptions : expired.consumptions = tables.consumptions) (counts : Counts expired next) : Counts tables next := by
  cases counts with
  | kept later same => exact .kept (grants_later_trans grants later) (same.trans consumptions)
  | consumed row grant listed own active window within fresh total minute later appended =>
    obtain ⟨before, among, was⟩ := related_from grants listed
    have active' : before.state = .active := by
      by_cases same : before.state = .active
      · exact same
      · exact absurd ((was.inactive same).symm.trans active) same
    have rows : expired.ofGrant row.grantId = tables.ofGrant row.grantId := by
      rw [AutomationTables.ofGrant, AutomationTables.ofGrant, consumptions]
    rw [rows, was.limits] at total minute
    rw [was.limits] at within
    rw [consumptions] at fresh appended
    exact .consumed row before among (was.id ▸ own) active' window within fresh total minute
      (grants_later_trans grants later) appended

theorem consume_counts (consumes : consumeInTransaction executions tables request references = .ok (next, outcome)) :
    Counts tables next ∧ ∀ record, outcome = .consumed record true → next.consumptions = tables.consumptions := by
  obtain ⟨_, _, rest⟩ := unbind consumes
  obtain ⟨expired, expires, rest⟩ := unbind rest
  obtain ⟨grants, consumptions⟩ := expire_grants_later expires
  obtain ⟨found, finds, rest⟩ := unbind rest
  cases found with
  | none =>
    cases rest
    exact ⟨.kept grants consumptions, fun _ _ => consumptions⟩
  | some record =>
    obtain ⟨listed, own, used⟩ := find_grant_ok finds
    cases stored : expired.consumptions.find? (·.submissionId = request.submissionId) with
    | some existing =>
      simp only [stored] at rest
      obtain ⟨same, kept⟩ := reuse_kept rest
      exact ⟨.kept (same ▸ grants) (kept.trans consumptions), fun _ _ => kept.trans consumptions⟩
    | none =>
      simp only [stored] at rest
      obtain ⟨counts, unused⟩ := consume_new_counts listed own used rest
      exact ⟨after_expiry grants consumptions counts, fun record reused => absurd reused (unused record)⟩

theorem perform_moves (distinct : (tables.grants.map (·.id)).Nodup) (call : AutomationCall) :
    Moves tables (perform tables call).1 := by
  cases call with
  | create grant references => exact create_moves
  | listForPrincipal principalId now => exact .counts (expired_first_counts)
  | find grantId now => exact .counts (expired_first_counts)
  | revoke principalId grantId revokedAt =>
    rw [perform]
    cases revokes : revokeAutomationGrant tables principalId grantId revokedAt with
    | error kind => exact moves_refl tables
    | ok done => exact .counts (revoke_counts distinct revokes)
  | consume executions request references =>
    rw [perform]
    cases consumes : consumeInTransaction executions tables request references with
    | error kind => exact moves_refl tables
    | ok done => exact .counts (consume_counts consumes).1
  | recordDecision record references =>
    rw [perform]
    cases records : recordDenial tables record references with
    | error kind => exact moves_refl tables
    | ok next =>
      obtain ⟨inserted, inserts, rest⟩ := unbind records
      obtain ⟨_, _, built⟩ := unbind rest
      cases built
      obtain ⟨grants, consumptions⟩ := insert_denial_kept inserts
      exact .counts (.kept (by rw [← grants]; exact grants_later_refl) consumptions)

theorem reused_kept (answer : (perform tables call).2 = .consumed (.ok (.consumed record true))) :
    (perform tables call).1.consumptions = tables.consumptions := by
  cases call with
  | consume executions request references =>
    rw [perform] at answer ⊢
    cases consumes : consumeInTransaction executions tables request references with
    | error kind =>
      rw [consumes] at answer
      cases answer
    | ok done =>
      rw [consumes] at answer
      injection answer with same
      injection same with same
      exact (consume_counts consumes).2 record same
  | create grant references => cases answer
  | listForPrincipal principalId now => cases answer
  | find grantId now => cases answer
  | revoke principalId grantId revokedAt => cases answer
  | recordDecision decided references => cases answer

end AgentRoom.Automation
