import AgentRoom.Account.Records
import AgentRoom.Library.Log
import Mathlib.Data.List.Nodup

namespace AgentRoom.Account

open Library AccountStore

namespace Commit

def opened (commit : Commit) : List WebSessionRow := openedRows commit.op commit.answer

def issued (commit : Commit) : List DesktopCodeRow := issuedRows commit.op commit.answer

def accepted (commit : Commit) : Option StoredWebSession :=
  match commit.op, commit.answer with
  | .findActive _ _, answer => answer
  | .authorizeDesktopSession _ _ _, answer => answer
  | _, _ => none

def presented (commit : Commit) : Option (SecretDigest × UtcMillis) :=
  match commit.op with
  | .findActive secretDigest now => some (secretDigest, now)
  | .authorizeDesktopSession secretDigest _ now => some (secretDigest, now)
  | _ => none

end Commit

structure Changed (store : AccountStore) (commit : Commit) (next : AccountStore) : Prop where
  sessions : next.sessions = store.sessions.map (rewritten commit.op) ++ commit.opened
  codes : next.codes = store.codes.map (spent commit.op) ++ commit.issued
  attempts : next.attempts = store.attempts.map (used commit.op) ++ begunRows commit.op
  principals : ∃ more, next.principals = store.principals.map (barred commit.op) ++ more ∧
    (more.map fun row => row.principal.id).Nodup ∧ ∀ row ∈ more, ∀ other ∈ store.principals, other.principal.id ≠ row.principal.id
  freshSessions : ∀ row ∈ commit.opened, ∀ other ∈ store.sessions, other.id ≠ row.id ∧ other.secretDigest ≠ row.secretDigest := by nofun
  freshCodes : ∀ row ∈ commit.issued, ∀ other ∈ store.codes, other.codeDigest ≠ row.codeDigest := by nofun
  freshAttempts : ∀ row ∈ begunRows commit.op, ∀ other ∈ store.attempts, other.attempt.id ≠ row.attempt.id := by nofun
  checked : ∀ row ∈ commit.opened, row.checks = true := by nofun
  owned : ∀ row ∈ commit.opened, ∃ there ∈ next.principals, there.principal.id = row.principalId ∧ there.principal.allowsAuthentication = true := by nofun
  accepts : ∀ session, commit.accepted = some session → ∃ secretDigest now row, commit.presented = some (secretDigest, now) ∧
    Finds store secretDigest now session row := by nofun

section

variable {store known : AccountStore} {registration : PrincipalRegistration}

theorem inserts_principals (inserts : Inserts store registration known) : ∃ more,
    known.principals = store.principals.map (fun row => row) ++ more ∧
      (more.map fun row => row.principal.id).Nodup ∧ ∀ row ∈ more, ∀ other ∈ store.principals, other.principal.id ≠ row.principal.id := by
  rw [List.map_id']
  rcases inserts.principals with same | ⟨added, fresh⟩
  · exact ⟨[], by rw [same, List.append_nil], List.nodup_nil, nofun⟩
  · refine ⟨_, added, List.nodup_singleton _, ?_⟩
    intro row listed other there
    cases List.mem_singleton.mp listed
    exact fresh other there

end

section

variable {α : Type} {rows more : List α} {change : α → α}

theorem kept_rows (same : ∀ row ∈ rows, change row = row) : rows ++ more = rows.map change ++ more := by
  rw [List.map_congr_left same, List.map_id']

theorem kept_all (same : ∀ row ∈ rows, change row = row) : rows = rows.map change ++ [] :=
  (List.append_nil rows).symm.trans (kept_rows same)

end

theorem kept_principals {principals next : List PrincipalRow} {change : PrincipalRow → PrincipalRow}
    (same : next = principals.map change) : ∃ more, next = principals.map change ++ more ∧
      (more.map fun row => row.principal.id).Nodup ∧ ∀ row ∈ more, ∀ other ∈ principals, other.principal.id ≠ row.principal.id :=
  ⟨[], by rw [same, List.append_nil], List.nodup_nil, nofun⟩

theorem rewrote (store next : AccountStore) (commit : Commit) (nothingOpened : commit.opened = []) (nothingIssued : commit.issued = [])
    (begun : begunRows commit.op = []) (sessions : next.sessions = store.sessions.map (rewritten commit.op))
    (codes : next.codes = store.codes.map (spent commit.op)) (attempts : next.attempts = store.attempts.map (used commit.op))
    (principals : next.principals = store.principals.map (barred commit.op))
    (accepts : ∀ session, commit.accepted = some session → ∃ secretDigest now row, commit.presented = some (secretDigest, now) ∧
      Finds store secretDigest now session row) : Changed store commit next where
  sessions := by rw [sessions, nothingOpened, List.append_nil]
  codes := by rw [codes, nothingIssued, List.append_nil]
  attempts := by rw [attempts, begun, List.append_nil]
  principals := kept_principals principals
  freshSessions := by rw [nothingOpened]; exact nofun
  freshCodes := by rw [nothingIssued]; exact nofun
  freshAttempts := by rw [begun]; exact nofun
  checked := by rw [nothingOpened]; exact nofun
  owned := by rw [nothingOpened]; exact nofun
  accepts := accepts

theorem mapped_same {rows : List α} {change : α → α} (same : ∀ row ∈ rows, change row = row) : rows = rows.map change := by
  rw [List.map_congr_left same, List.map_id']

variable {commit : Commit} {next : AccountStore}

theorem performs_changed {store : AccountStore} (performs : Performs store commit next) : Changed store commit next := by
  obtain ⟨before, op, answer, after⟩ := commit
  obtain ⟨_, performed, _⟩ := performs
  cases op with
  | create attempt =>
    obtain ⟨rfl, fresh⟩ := create_ok store performed
    exact {
      sessions := kept_all fun _ _ => rfl
      codes := kept_all fun _ _ => rfl
      attempts := kept_rows fun _ _ => rfl
      principals := kept_principals (mapped_same fun _ _ => rfl)
      freshAttempts := List.forall_mem_singleton.mpr fresh }
  | consume browserSecretDigest stateDigest now =>
    obtain ⟨rfl, _⟩ := consume_ok store performed
    exact rewrote store _ _ rfl rfl rfl (mapped_same fun _ _ => rfl) (mapped_same fun _ _ => rfl) rfl
      (mapped_same fun _ _ => rfl) nofun
  | complete registration session =>
    obtain ⟨known, principal, inserts, ⟨there, inside, rfl⟩, active, rfl, rfl, checked, fresh⟩ :=
      complete_ok store performed
    have principals := inserts_principals inserts
    exact {
      sessions := kept_rows fun _ _ => rfl
      codes := inserts.codes.trans (kept_all fun _ _ => rfl)
      attempts := inserts.attempts.trans (kept_all fun _ _ => rfl)
      principals := principals
      freshSessions := List.forall_mem_singleton.mpr fresh
      checked := List.forall_mem_singleton.mpr checked
      owned := List.forall_mem_singleton.mpr ⟨there, inside, rfl, active⟩ }
  | completeDesktop registration authorization =>
    obtain ⟨known, inserts, _, _, rfl, fresh⟩ := complete_desktop_ok store performed
    have principals := inserts_principals inserts
    exact {
      sessions := inserts.sessions.trans (kept_all fun _ _ => rfl)
      codes := kept_rows fun _ _ => rfl
      attempts := inserts.attempts.trans (kept_all fun _ _ => rfl)
      principals := principals
      freshCodes := List.forall_mem_singleton.mpr fresh }
  | authorizeDesktopSession secretDigest grant now =>
    rcases authorize_ok store performed with ⟨rfl, rfl⟩ | ⟨session, row, rfl, finds, _, rfl, fresh⟩
    · exact rewrote next _ _ rfl rfl rfl (mapped_same fun _ _ => rfl) (mapped_same fun _ _ => rfl)
        (mapped_same fun _ _ => rfl) (mapped_same fun _ _ => rfl) nofun
    · exact {
        sessions := kept_all fun _ _ => rfl
        codes := kept_rows fun _ _ => rfl
        attempts := kept_all fun _ _ => rfl
        principals := kept_principals (mapped_same fun _ _ => rfl)
        freshCodes := List.forall_mem_singleton.mpr fresh
        accepts := by
          intro taken same
          cases same
          exact ⟨secretDigest, now, row, rfl, finds⟩ }
  | exchangeDesktop codeDigest codeChallenge session now =>
    rcases exchange_ok store performed with
      ⟨rfl, rfl, none'⟩ | ⟨stored, code, rfl, takes, rfl, checked, fresh⟩
    · refine rewrote next _ _ rfl rfl rfl (mapped_same fun _ _ => rfl) (mapped_same fun row listed => ?_)
        (mapped_same fun _ _ => rfl) (mapped_same fun _ _ => rfl) nofun
      simp [spent, none' row listed]
    · obtain ⟨there, inside, same⟩ := takes.known
      exact {
        sessions := kept_rows fun _ _ => rfl
        codes := (List.append_nil _).symm
        attempts := kept_all fun _ _ => rfl
        principals := kept_principals (mapped_same fun _ _ => rfl)
        freshSessions := List.forall_mem_singleton.mpr fresh
        checked := List.forall_mem_singleton.mpr checked
        owned := List.forall_mem_singleton.mpr ⟨there, inside, congrArg Principal.id same, same ▸ takes.active⟩ }
  | findActive secretDigest now =>
    obtain ⟨rfl, finds⟩ := find_active_ok store performed
    refine rewrote next _ _ rfl rfl rfl (mapped_same fun _ _ => rfl) (mapped_same fun _ _ => rfl)
      (mapped_same fun _ _ => rfl) (mapped_same fun _ _ => rfl) ?_
    intro session same
    obtain ⟨row, found⟩ := finds session same
    exact ⟨secretDigest, now, row, rfl, found⟩
  | revoke secretDigest now =>
    cases revoke_ok store performed
    exact rewrote store _ _ rfl rfl rfl rfl (mapped_same fun _ _ => rfl) (mapped_same fun _ _ => rfl)
      (mapped_same fun _ _ => rfl) nofun
  | revokeOthers principalId keep now issued =>
    cases revoke_others_ok store issued performed
    exact rewrote store _ _ rfl rfl rfl rfl (mapped_same fun _ _ => rfl) (mapped_same fun _ _ => rfl)
      (mapped_same fun _ _ => rfl) nofun
  | extend sessionId expiresAt =>
    cases extend_ok store performed
    exact rewrote store _ _ rfl rfl rfl rfl (mapped_same fun _ _ => rfl) (mapped_same fun _ _ => rfl)
      (mapped_same fun _ _ => rfl) nofun
  | suspend principalId now =>
    cases suspend_ok store performed
    exact rewrote store _ _ rfl rfl rfl rfl (mapped_same fun _ _ => rfl) (mapped_same fun _ _ => rfl) rfl nofun

section

structure Later (row later : WebSessionRow) : Prop where
  id : later.id = row.id
  digest : later.secretDigest = row.secretDigest
  owner : later.principalId = row.principalId
  authenticatedAt : later.authenticatedAt = row.authenticatedAt
  createdAt : later.createdAt = row.createdAt
  expires : row.expiresAt ≤ later.expiresAt
  revoked : row.revokedAt ≠ none → later = row

variable (op : StoreOp) (row : WebSessionRow)

theorem later_refl : Later row row :=
  ⟨rfl, rfl, rfl, rfl, rfl, UtcMillis.le_refl _, fun _ => rfl⟩

theorem later_trans (first second third : WebSessionRow) (early : Later first second) (late : Later second third) : Later first third where
  id := late.id.trans early.id
  digest := late.digest.trans early.digest
  owner := late.owner.trans early.owner
  authenticatedAt := late.authenticatedAt.trans early.authenticatedAt
  createdAt := late.createdAt.trans early.createdAt
  expires := UtcMillis.le_trans _ _ _ early.expires late.expires
  revoked := by
    intro revoked
    have same := early.revoked revoked
    subst same
    exact late.revoked revoked

theorem revoking_later (standing : row.revokedAt = none) : Later row { row with revokedAt := some now } :=
  ⟨rfl, rfl, rfl, rfl, rfl, UtcMillis.le_refl _, fun revoked => absurd standing revoked⟩

theorem rewritten_later : Later row (rewritten op row) := by
  cases op with
  | revoke secretDigest now =>
    by_cases selected : standing secretDigest row = true
    · simp only [rewritten, selected, if_true]
      exact revoking_later row (of_decide_eq_true selected).2
    · simp only [rewritten, selected, Bool.false_eq_true, if_false]
      exact later_refl row
  | revokeOthers principalId keep now issued =>
    by_cases selected : other principalId keep now row = true
    · simp only [rewritten, selected, if_true]
      exact revoking_later row (of_decide_eq_true selected).2.1
    · simp only [rewritten, selected, Bool.false_eq_true, if_false]
      exact later_refl row
  | extend sessionId expiresAt =>
    by_cases selected : shorter sessionId expiresAt row = true
    · simp only [rewritten, selected, if_true]
      obtain ⟨_, standing, less⟩ := of_decide_eq_true selected
      exact ⟨rfl, rfl, rfl, rfl, rfl, Nat.le_of_lt less, fun revoked => absurd standing revoked⟩
    · simp only [rewritten, selected, Bool.false_eq_true, if_false]
      exact later_refl row
  | suspend principalId now =>
    by_cases selected : unrevoked principalId row = true
    · simp only [rewritten, selected, if_true]
      exact revoking_later row (of_decide_eq_true selected).2
    · simp only [rewritten, selected, Bool.false_eq_true, if_false]
      exact later_refl row
  | _ => exact later_refl row

theorem rewritten_expiry : (rewritten op row).expiresAt = row.expiresAt ∨
    ∃ expiresAt, op = .extend row.id expiresAt ∧ (rewritten op row).expiresAt = expiresAt := by
  cases op with
  | extend sessionId expiresAt =>
    by_cases selected : shorter sessionId expiresAt row = true
    · obtain ⟨mine, _⟩ := of_decide_eq_true selected
      simp only [rewritten, selected, if_true]
      exact .inr ⟨expiresAt, by rw [mine], rfl⟩
    · simp [rewritten, selected]
  | revoke secretDigest now =>
    by_cases selected : standing secretDigest row = true <;> simp [rewritten, selected]
  | revokeOthers principalId keep now issued =>
    by_cases selected : other principalId keep now row = true <;> simp [rewritten, selected]
  | suspend principalId now =>
    by_cases selected : unrevoked principalId row = true <;> simp [rewritten, selected]
  | _ => exact .inl rfl

theorem spent_same (row : DesktopCodeRow) :
    (spent op row).toDesktopAuthorizationCodeRegistration = row.toDesktopAuthorizationCodeRegistration ∧
      (spent op row).principalId = row.principalId ∧ (row.consumedAt ≠ none → spent op row = row) := by
  cases op with
  | exchangeDesktop codeDigest codeChallenge session now =>
    by_cases selected : outstanding codeDigest codeChallenge now row = true
    · have taken : spent (.exchangeDesktop codeDigest codeChallenge session now) row = { row with consumedAt := some now } :=
        if_pos selected
      rw [taken]
      exact ⟨rfl, rfl, fun used => absurd (of_decide_eq_true selected).2.2.1 used⟩
    · have left : spent (.exchangeDesktop codeDigest codeChallenge session now) row = row := if_neg selected
      rw [left]
      exact ⟨rfl, rfl, fun _ => rfl⟩
  | _ => exact ⟨rfl, rfl, fun _ => rfl⟩

theorem used_same (row : AttemptRow) : (used op row).attempt = row.attempt ∧ (row.consumedAt ≠ none → used op row = row) := by
  cases op with
  | consume browserSecretDigest stateDigest now =>
    by_cases selected : awaits browserSecretDigest stateDigest now row = true
    · have spoken : used (.consume browserSecretDigest stateDigest now) row = { row with consumedAt := some now } := if_pos selected
      rw [spoken]
      exact ⟨rfl, fun taken => absurd (of_decide_eq_true selected).2.2.1 taken⟩
    · have left : used (.consume browserSecretDigest stateDigest now) row = row := if_neg selected
      rw [left]
      exact ⟨rfl, fun _ => rfl⟩
  | _ => exact ⟨rfl, fun _ => rfl⟩

theorem barred_id (row : PrincipalRow) : (barred op row).principal.id = row.principal.id := by
  cases op with
  | suspend principalId now =>
    by_cases mine : row.principal.id = principalId
    · simp [barred, mine]
    · simp [barred, mine]
  | _ => rfl

end

structure Distinct (store : AccountStore) : Prop where
  sessionIds : (store.sessions.map fun row => row.id).Nodup
  sessionDigests : (store.sessions.map fun row => row.secretDigest).Nodup
  codes : (store.codes.map fun row => row.codeDigest).Nodup
  attempts : (store.attempts.map fun row => row.attempt.id).Nodup
  principals : (store.principals.map fun row => row.principal.id).Nodup

theorem nodup_rewritten {rows more : List α} {change : α → α} {key : α → κ} (same : ∀ row, key (change row) = key row)
    (nodup : (rows.map key).Nodup) (new : (more.map key).Nodup) (fresh : ∀ row ∈ more, ∀ other ∈ rows, key other ≠ key row) :
    ((rows.map change ++ more).map key).Nodup := by
  have kept : (rows.map change).map key = rows.map key := by
    rw [List.map_map]
    exact List.map_congr_left fun row _ => same row
  rw [List.map_append, kept, List.nodup_append]
  refine ⟨nodup, new, ?_⟩
  intro value old value' added equal
  obtain ⟨other, there, rfl⟩ := List.mem_map.mp old
  obtain ⟨row, listed, rfl⟩ := List.mem_map.mp added
  exact fresh row listed other there equal

theorem opened_one : commit.opened = [] ∨ ∃ row, commit.opened = [row] := by
  obtain ⟨before, op, answer, after⟩ := commit
  cases op with
  | complete registration session => exact .inr ⟨_, rfl⟩
  | exchangeDesktop codeDigest codeChallenge session now =>
    cases answer with
    | none => exact .inl rfl
    | some stored => exact .inr ⟨_, rfl⟩
  | _ => exact .inl rfl

theorem issued_one (commit : Commit) : commit.issued = [] ∨ ∃ row, commit.issued = [row] := by
  obtain ⟨before, op, answer, after⟩ := commit
  cases op with
  | completeDesktop registration authorization => exact .inr ⟨_, rfl⟩
  | authorizeDesktopSession secretDigest grant now =>
    cases answer with
    | none => exact .inl rfl
    | some stored => exact .inr ⟨_, rfl⟩
  | _ => exact .inl rfl

theorem nodup_one {rows : List α} {key : α → κ} (one : rows = [] ∨ ∃ row, rows = [row]) : (rows.map key).Nodup := by
  rcases one with none' | ⟨row, single⟩
  · rw [none']
    exact List.nodup_nil
  · rw [single]
    exact List.nodup_singleton _

theorem begun_one {op : StoreOp} : begunRows op = [] ∨ ∃ row, begunRows op = [row] := by
  cases op <;> first | exact .inl rfl | exact .inr ⟨_, rfl⟩

theorem changed_distinct (changed : Changed store commit next) (distinct : Distinct store) : Distinct next where
  sessionIds := by
    rw [changed.sessions]
    exact nodup_rewritten (fun row => (rewritten_later commit.op row).id) distinct.sessionIds (nodup_one (opened_one))
      fun row listed other there => (changed.freshSessions row listed other there).1
  sessionDigests := by
    rw [changed.sessions]
    exact nodup_rewritten (fun row => (rewritten_later commit.op row).digest) distinct.sessionDigests
      (nodup_one (opened_one)) fun row listed other there => (changed.freshSessions row listed other there).2
  codes := by
    rw [changed.codes]
    exact nodup_rewritten (fun row => congrArg _ (spent_same commit.op row).1) distinct.codes
      (nodup_one (issued_one commit)) changed.freshCodes
  attempts := by
    rw [changed.attempts]
    exact nodup_rewritten (fun row => congrArg _ (used_same commit.op row).1) distinct.attempts
      (nodup_one (begun_one)) changed.freshAttempts
  principals := by
    obtain ⟨more, same, new, fresh⟩ := changed.principals
    rw [same]
    exact nodup_rewritten (barred_id commit.op) distinct.principals new fresh

section

theorem run_distinct (distinct : Distinct start) (run : Runs Performs start journal final) : Distinct final :=
  runs_invariant Distinct (fun _ _ _ before performs =>
    changed_distinct (performs_changed performs) before) distinct run

theorem session_persists {row : WebSessionRow} (listed : row ∈ start.sessions) (run : Runs Performs start journal final) :
    ∃ later ∈ final.sessions, Later row later := by
  refine runs_invariant (fun store => ∃ later ∈ store.sessions, Later row later) ?_
    ⟨row, listed, later_refl row⟩ run
  rintro store commit next ⟨now, there, since⟩ performs
  have changed := performs_changed performs
  refine ⟨rewritten commit.op now, ?_, later_trans _ _ _ since (rewritten_later commit.op now)⟩
  rw [changed.sessions]
  exact List.mem_append_left _ (List.mem_map_of_mem there)

theorem code_persists {row : DesktopCodeRow} (listed : row ∈ start.codes) (run : Runs Performs start journal final) :
    ∃ later ∈ final.codes, later.toDesktopAuthorizationCodeRegistration = row.toDesktopAuthorizationCodeRegistration ∧
      later.principalId = row.principalId ∧ (row.consumedAt ≠ none → later = row) := by
  refine runs_invariant (fun store => ∃ later ∈ store.codes, later.toDesktopAuthorizationCodeRegistration =
    row.toDesktopAuthorizationCodeRegistration ∧ later.principalId = row.principalId ∧ (row.consumedAt ≠ none → later = row)) ?_ ⟨row, listed, rfl, rfl, fun _ => rfl⟩ run
  rintro store commit next ⟨now, there, same, owner, since⟩ performs
  have changed := performs_changed performs
  obtain ⟨registration, mine, used⟩ := spent_same commit.op now
  refine ⟨spent commit.op now, ?_, registration.trans same, mine.trans owner, fun consumed => ?_⟩
  · rw [changed.codes]
    exact List.mem_append_left _ (List.mem_map_of_mem there)
  · have still := since consumed
    subst still
    exact used consumed

theorem attempt_persists {row : AttemptRow} (listed : row ∈ start.attempts) (run : Runs Performs start journal final) :
    ∃ later ∈ final.attempts, later.attempt = row.attempt ∧ (row.consumedAt ≠ none → later = row) := by
  refine runs_invariant (fun store => ∃ later ∈ store.attempts, later.attempt = row.attempt ∧
    (row.consumedAt ≠ none → later = row)) ?_ ⟨row, listed, rfl, fun _ => rfl⟩ run
  rintro store commit next ⟨now, there, same, since⟩ performs
  have changed := performs_changed performs
  obtain ⟨attempt, taken⟩ := used_same commit.op now
  refine ⟨used commit.op now, ?_, attempt.trans same, fun consumed => ?_⟩
  · rw [changed.attempts]
    exact List.mem_append_left _ (List.mem_map_of_mem there)
  · have still := since consumed
    subst still
    exact taken consumed

theorem run_split {commit : Commit} {after : List Commit} (split : journal = before ++ commit :: after)
    (run : Runs Performs start journal final) : Runs Performs start before commit.before ∧
      Performs commit.before commit commit.after ∧ Runs Performs commit.after after final := by
  rw [split] at run
  obtain ⟨middle, early, next, performs, late⟩ := (runs_append ..).mp run
  obtain ⟨found, performed, left⟩ := performs
  rw [found, left]
  exact ⟨early, ⟨found, performed, left⟩, late⟩

variable {store : AccountStore}

theorem same_session (distinct : Distinct store) (mine : first ∈ store.sessions)
    (yours : second ∈ store.sessions) (same : first.id = second.id) : first = second :=
  List.inj_on_of_nodup_map distinct.sessionIds mine yours same

theorem same_secret (distinct : Distinct store) (mine : first ∈ store.sessions)
    (yours : second ∈ store.sessions) (same : first.secretDigest = second.secretDigest) : first = second :=
  List.inj_on_of_nodup_map distinct.sessionDigests mine yours same

theorem same_code (distinct : Distinct store) {first second : DesktopCodeRow} (mine : first ∈ store.codes)
    (yours : second ∈ store.codes) (same : first.codeDigest = second.codeDigest) : first = second :=
  List.inj_on_of_nodup_map distinct.codes mine yours same

end

theorem empty_distinct : Distinct .empty :=
  ⟨List.nodup_nil, List.nodup_nil, List.nodup_nil, List.nodup_nil, List.nodup_nil⟩

end AgentRoom.Account
