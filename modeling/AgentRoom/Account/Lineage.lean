import AgentRoom.Account.Bearers

namespace AgentRoom.Account

open Library AccountStore

def StemsFrom (journal : List Commit) (bearer : Bearer) (authenticatedAt : UtcMillis) : Prop :=
  Comes journal (fun bearer => ∃ commit ∈ journal, Brings commit bearer authenticatedAt) bearer

def consumedOf (commit : Commit) : Option LoginAttemptId :=
  match commit.op, commit.answer with
  | .consume _ _ _, answer => Option.map LoginAttempt.id answer
  | _, _ => none

def exchangedOf (commit : Commit) : Option SecretDigest :=
  match commit.op with
  | .exchangeDesktop codeDigest _ _ _ => if commit.opened = [] then none else some codeDigest
  | _ => none

section

variable {journal : List Commit}

structure Carried (store : AccountStore) (journal : List Commit) : Prop where
  sessions : ∀ row ∈ store.sessions, StemsFrom journal (.session row.id) row.authenticatedAt
  codes : ∀ row ∈ store.codes, StemsFrom journal (.code row.codeDigest) row.authenticatedAt

variable {authenticatedAt : UtcMillis} {store next : AccountStore}

theorem stems_snoc (stems : StemsFrom journal bearer authenticatedAt) : StemsFrom (journal ++ [last]) bearer authenticatedAt :=
  comes_more (fun _ listed => List.mem_append_left _ listed)
    (fun _ ⟨commit, made, brings⟩ => ⟨commit, List.mem_append_left _ made, brings⟩) stems

theorem carried_step (carried : Carried store journal) (performs : Performs store commit next) :
    Carried next (journal ++ [commit]) := by
  have changed := performs_changed performs
  have last : commit ∈ journal ++ [commit] := List.mem_concat_self
  refine ⟨fun row listed => ?_, fun row listed => ?_⟩
  · rw [changed.sessions] at listed
    rcases List.mem_append.mp listed with rewrote | opened
    · obtain ⟨old, there, rfl⟩ := List.mem_map.mp rewrote
      have later := rewritten_later commit.op old
      rw [later.id, later.authenticatedAt]
      exact stems_snoc (carried.sessions old there)
    · rcases opened_from performs opened with ⟨brings, _⟩ | ⟨code, there, begets, same, _⟩
      · exact .first _ ⟨commit, last, brings⟩
      · exact .next commit last _ _ begets (same ▸ stems_snoc (carried.codes code there))
  · rw [changed.codes] at listed
    rcases List.mem_append.mp listed with rewrote | issued
    · obtain ⟨old, there, rfl⟩ := List.mem_map.mp rewrote
      rw [(spent_same commit.op old).1]
      exact stems_snoc (carried.codes old there)
    · rcases issued_from performs issued with ⟨brings, _⟩ | ⟨session, there, _, begets, same, _⟩
      · exact .first _ ⟨commit, last, brings⟩
      · exact .next commit last _ _ begets (same ▸ stems_snoc (carried.sessions session there))

theorem carried_run (earlier : List Commit) (carried : Carried start earlier) (run : Runs Performs start journal final) :
    Carried final (earlier ++ journal) := by
  induction journal generalizing start earlier with
  | nil =>
    cases run
    rw [List.append_nil]
    exact carried
  | cons commit rest ih =>
    obtain ⟨next, performs, onward⟩ := run
    have ended := ih (earlier ++ [commit]) (carried_step carried performs) onward
    rw [List.append_assoc] at ended
    exact ended

theorem empty_carried : Carried .empty [] := ⟨nofun, nofun⟩

theorem opened_listed (run : Runs Performs start journal final) (made : commit ∈ journal)
    (opened : row ∈ commit.opened) : ∃ later ∈ final.sessions, Later row later := by
  obtain ⟨before, after, split⟩ := List.append_of_mem made
  obtain ⟨_, performs, late⟩ := run_split split run
  exact session_persists (by rw [(performs_changed performs).sessions]; exact List.mem_append_right _ opened) late

theorem issued_listed (run : Runs Performs start journal final) (made : commit ∈ journal)
    (issued : row ∈ commit.issued) : ∃ later ∈ final.codes,
      later.toDesktopAuthorizationCodeRegistration = row.toDesktopAuthorizationCodeRegistration := by
  obtain ⟨before, after, split⟩ := List.append_of_mem made
  obtain ⟨_, performs, late⟩ := run_split split run
  obtain ⟨later, there, same, _⟩ :=
    code_persists (by rw [(performs_changed performs).codes]; exact List.mem_append_right _ issued) late
  exact ⟨later, there, same⟩

def Dated (store : AccountStore) (authenticatedAt : UtcMillis) : Bearer → Prop
  | .session id => ∃ row ∈ store.sessions, row.id = id ∧ row.authenticatedAt = authenticatedAt
  | .code codeDigest => ∃ row ∈ store.codes, row.codeDigest = codeDigest ∧ row.authenticatedAt = authenticatedAt

theorem stems_listed (run : Runs Performs .empty journal final)
    (stems : StemsFrom journal bearer authenticatedAt) : Dated final authenticatedAt bearer := by
  have distinct := run_distinct empty_distinct run
  induction stems with
  | first bearer begun =>
    obtain ⟨⟨_, _, _, _⟩, made, brings⟩ := begun
    cases brings with
    | login registration session op =>
      cases op
      obtain ⟨later, there, since⟩ := opened_listed run made (List.mem_singleton_self _)
      exact ⟨later, there, since.id, since.authenticatedAt⟩
    | desktopLogin registration authorization op =>
      cases op
      obtain ⟨later, there, same⟩ := issued_listed run made (List.mem_singleton_self _)
      exact ⟨later, there, by rw [same], by rw [same]⟩
  | next commit made earlier bearer begets _ ih =>
    obtain ⟨before, after, split⟩ := List.append_of_mem made
    obtain ⟨_, performs, late⟩ := run_split split run
    have onward : Runs Performs commit.before (commit :: after) final := ⟨_, performs, late⟩
    cases begets with
    | authorized secretDigest grant now op session accepted =>
      obtain ⟨row, listed, id, time⟩ := ih
      obtain ⟨_, _, found, _, finds⟩ := (performs_changed performs).accepts session accepted
      obtain ⟨still, there, since⟩ := session_persists finds.listed onward
      have answered : session.id = found.id ∧ session.authenticatedAt = found.authenticatedAt := by
        rw [finds.answered]
        exact ⟨rfl, rfl⟩
      have one := same_session distinct listed there (id.trans (answered.1.trans since.id.symm))
      obtain ⟨_, _, answer, _⟩ := commit
      cases op
      cases accepted
      obtain ⟨later, kept, same⟩ := issued_listed run made (List.mem_singleton_self _)
      refine ⟨later, kept, by rw [same]; rfl, ?_⟩
      rw [same, ← time, one, since.authenticatedAt, ← answered.2]
      rfl
    | exchanged codeDigest codeChallenge session now op opened =>
      obtain ⟨row, listed, digest, time⟩ := ih
      obtain ⟨fresh, inside⟩ := List.exists_mem_of_ne_nil _ opened
      rcases opened_from performs inside with ⟨_, _, _, other, _⟩ | ⟨code, there, _, same, _, _, again, _, op', _⟩
      · cases op.symm.trans other
      · cases op.symm.trans op'
        obtain ⟨still, kept, since, _⟩ := code_persists there onward
        have one := same_code distinct listed kept (digest.trans (by rw [since]))
        obtain ⟨later, ends, until'⟩ := opened_listed run made inside
        refine ⟨later, ends, until'.id.trans ?_, until'.authenticatedAt.trans ?_⟩
        · obtain ⟨_, _, answer, _⟩ := commit
          cases op
          cases answer with
          | none => cases inside
          | some stored =>
            cases List.mem_singleton.mp inside
            rfl
        · rw [same, ← time, one, since]

theorem stems_carried (run : Runs Performs .empty journal final) (listed : row ∈ final.sessions) :
    StemsFrom journal (.session row.id) row.authenticatedAt ∧
      ∀ authenticatedAt, StemsFrom journal (.session row.id) authenticatedAt → authenticatedAt = row.authenticatedAt := by
  refine ⟨(carried_run [] empty_carried run).sessions row listed, fun authenticatedAt stems => ?_⟩
  obtain ⟨other, there, same, time⟩ := stems_listed run stems
  have one := same_session (run_distinct empty_distinct run) there listed same
  rw [← time, one]

theorem consumed_used (performs : Performs store commit next) {id : LoginAttemptId} (of : consumedOf commit = some id) :
    (∃ row ∈ store.attempts, row.attempt.id = id ∧ row.consumedAt = none) ∧
      ∃ row ∈ next.attempts, row.attempt.id = id ∧ row.consumedAt ≠ none := by
  obtain ⟨before, op, answer, left⟩ := commit
  obtain ⟨rfl, performed, rfl⟩ := performs
  cases op with
  | consume browserSecretDigest stateDigest now =>
    obtain ⟨same, finds⟩ := consume_ok before performed
    obtain ⟨attempt, found, rfl⟩ := Option.map_eq_some_iff.mp of
    obtain ⟨row, listed, rfl, awaiting⟩ := finds attempt found
    refine ⟨⟨row, listed, rfl, (of_decide_eq_true awaiting).2.2.1⟩, used (.consume browserSecretDigest stateDigest now) row, ?_, ?_, ?_⟩
    · rw [same]
      exact List.mem_map_of_mem listed
    · rw [(used_same _ row).1]
    · have spoken : used (.consume browserSecretDigest stateDigest now) row = { row with consumedAt := some now } := if_pos awaiting
      rw [spoken]
      exact nofun
  | _ => cases of

theorem exchanged_spent (performs : Performs store commit next) (of : exchangedOf commit = some codeDigest) :
    (∃ row ∈ store.codes, row.codeDigest = codeDigest ∧ row.consumedAt = none ∧
      ∃ codeChallenge session now, commit.op = .exchangeDesktop codeDigest codeChallenge session now ∧ row.codeChallenge = codeChallenge) ∧
      ∃ row ∈ next.codes, row.codeDigest = codeDigest ∧ row.consumedAt ≠ none := by
  obtain ⟨before, op, answer, left⟩ := commit
  obtain ⟨rfl, performed, rfl⟩ := performs
  cases op with
  | exchangeDesktop presented codeChallenge session now =>
    rcases exchange_ok before performed with
      ⟨rfl, _⟩ | ⟨stored, code, rfl, takes, same, _⟩
    · cases of
    · cases of
      refine ⟨⟨code, takes.listed, takes.digest, takes.unused, codeChallenge, session, now, rfl, takes.challenge⟩,
        spent (.exchangeDesktop codeDigest codeChallenge session now) code, ?_, ?_, ?_⟩
      · rw [same]
        exact List.mem_map_of_mem takes.listed
      · rw [(spent_same _ code).1]
        exact takes.digest
      · have waiting : outstanding codeDigest codeChallenge now code = true :=
          decide_eq_true ⟨takes.digest, takes.challenge, takes.unused, takes.before⟩
        have taken : spent (.exchangeDesktop codeDigest codeChallenge session now) code = { code with consumedAt := some now } :=
          if_pos waiting
        rw [taken]
        exact nofun
  | _ => cases of

theorem consumed_once (distinct : Distinct start) (run : Runs Performs start journal final) :
    EachPair consumedOf (fun first _ second => first ≠ second) journal := by
  intro before first between second after id other split of of' same
  subst same
  obtain ⟨early, performs, late⟩ := run_split split run
  obtain ⟨reached, again, _⟩ := run_split rfl late
  obtain ⟨_, row, listed, mine, spent⟩ := consumed_used performs of
  obtain ⟨⟨unused, there, yours, waiting⟩, _⟩ := consumed_used again of'
  obtain ⟨later, still, attempt, since⟩ := attempt_persists listed reached
  have fresh := changed_distinct (performs_changed performs) (run_distinct distinct early)
  have kept := since spent
  subst kept
  have one := List.inj_on_of_nodup_map (run_distinct fresh reached).attempts still there (mine.trans yours.symm)
  rw [one] at spent
  exact spent waiting

theorem exchanged_once (distinct : Distinct start) (run : Runs Performs start journal final) :
    EachPair exchangedOf (fun first _ second => first ≠ second) journal := by
  intro before first between second after codeDigest other split of of' same
  subst same
  obtain ⟨early, performs, late⟩ := run_split split run
  obtain ⟨reached, again, _⟩ := run_split rfl late
  obtain ⟨_, row, listed, mine, spent⟩ := exchanged_spent performs of
  obtain ⟨⟨unused, there, yours, waiting, _⟩, _⟩ := exchanged_spent again of'
  obtain ⟨later, still, _, _, since⟩ := code_persists listed reached
  have fresh := changed_distinct (performs_changed performs) (run_distinct distinct early)
  have kept := since spent
  subst kept
  have one := same_code (run_distinct fresh reached) still there (mine.trans yours.symm)
  rw [one] at spent
  exact spent waiting

end

end AgentRoom.Account
