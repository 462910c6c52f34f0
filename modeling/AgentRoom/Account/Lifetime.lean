import AgentRoom.Account.Lineage
import AgentRoom.Library.Telling

namespace AgentRoom.Account

open Library AccountStore

section

variable (policy : AuthenticationPolicy)

def usable (session : StoredWebSession) (now : UtcMillis) : Bool :=
  session.principal.allowsAuthentication && match policy.sessionLifetime.latest session.authenticatedAt with
    | .ok latest => decide (now < latest)
    | .error _ => false

def useOf (commit : Commit) : Option (StoredWebSession × UtcMillis) :=
  match commit.op, commit.answer with
  | .findActive _ now, answer => (answer : Option StoredWebSession).bind fun session => if usable policy session now then some (session, now) else none
  | _, _ => none

def MadeFor (session : WebSessionRegistration) : Prop :=
  policy.sessionLifetime.renewedUntil session.authenticatedAt session.createdAt = .ok session.expiresAt ∨
    policy.sessionLifetime.renewedUntil session.createdAt session.createdAt = .ok session.expiresAt

def Renews (journal : List Commit) (id : WebSessionId) (now expiresAt : UtcMillis) : Prop :=
  ∃ commit ∈ journal, ∃ session, useOf policy commit = some (session, now) ∧ session.id = id ∧
    policy.sessionLifetime.renewedUntil session.authenticatedAt now = .ok expiresAt

-- An accepted use counts from when its renewal is stored.
def RenewedAt (journal : List Commit) (id : WebSessionId) (now : UtcMillis) : Prop :=
  ∃ expiresAt, Renews policy journal id now expiresAt ∧ ∃ commit ∈ journal, commit.op = .extend id expiresAt

def WithinIdle (journal : List Commit) (id : WebSessionId) (createdAt time : UtcMillis) : Prop :=
  time.value ≤ createdAt.value + policy.sessionLifetime.idle.value ∨
    ∃ now, RenewedAt policy journal id now ∧ time.value ≤ now.value + policy.sessionLifetime.idle.value

-- The earlier of the two ends of a session that is used at a time.
def endOf (authenticatedAt now : UtcMillis) : Nat :=
  min (now.value + policy.sessionLifetime.idle.value) (authenticatedAt.value + policy.sessionLifetime.maximum.value)

variable {time authenticatedAt now : UtcMillis} {earlier later : List Commit}

theorem renewed_until_ok
    (reads : policy.sessionLifetime.renewedUntil authenticatedAt now = .ok renewed) : renewed.value = endOf policy authenticatedAt now := by
  obtain ⟨idle, first, reads⟩ := unbind reads
  obtain ⟨latest, second, built⟩ := unbind reads
  cases built
  have idleValue := UtcMillis.checked_add_value first
  have latestValue := UtcMillis.checked_add_value second
  rw [endOf, UtcMillis.earlier]
  by_cases sooner : idle ≤ latest
  · rw [if_pos sooner]
    have least : idle.value ≤ latest.value := sooner
    omega
  · rw [if_neg sooner]
    have least : latest.value < idle.value := Nat.lt_of_not_le sooner
    omega

theorem checked_add_fits (fits : time.value + duration.value ≤ i64Max) :
    ∃ later, time.checkedAdd duration = .ok later ∧ later.value = time.value + duration.value :=
  ⟨⟨_, fits⟩, dif_pos fits, rfl⟩

theorem renewed_until_fits (idle : now.value + policy.sessionLifetime.idle.value ≤ i64Max)
    (maximum : authenticatedAt.value + policy.sessionLifetime.maximum.value ≤ i64Max) :
    ∃ renewed, policy.sessionLifetime.renewedUntil authenticatedAt now = .ok renewed := by
  obtain ⟨first, reads, _⟩ := checked_add_fits idle
  obtain ⟨second, latest, _⟩ := checked_add_fits maximum
  refine ⟨first.earlier second, ?_⟩
  rw [SlidingLifetime.renewedUntil, reads, SlidingLifetime.latest, latest]
  rfl

structure Timed (journal : List Commit) (row : WebSessionRow) : Prop where
  after : row.createdAt < row.expiresAt
  lead : row.authenticatedAt.value ≤ row.createdAt.value + authenticationLead
  idle : WithinIdle policy journal row.id row.createdAt row.expiresAt
  least : endOf policy row.authenticatedAt row.createdAt ≤ row.expiresAt.value

def InTime (earlier : List Commit) (use : StoredWebSession × UtcMillis) : Prop :=
  use.2.value < use.1.createdAt.value + policy.sessionLifetime.idle.value ∨
    ∃ now, RenewedAt policy earlier use.1.id now ∧ use.2.value < now.value + policy.sessionLifetime.idle.value

structure Sound (world : AccountWorld) : Prop where
  journaled : Journaled .empty world
  timed : ∀ row ∈ world.store.sessions, Timed policy world.journal row
  owned : ∀ row ∈ world.store.sessions, ∃ there ∈ world.store.principals, there.principal.id = row.principalId
  uses : EachUpTo (useOf policy) (InTime policy) world.journal

variable {policy}

theorem within_more {id : WebSessionId}
    (within : WithinIdle policy earlier id createdAt time) : WithinIdle policy (earlier ++ later) id createdAt time := by
  rcases within with made | ⟨now, ⟨expiresAt, ⟨use, listed, renews⟩, renewal, stored, extended⟩, bound⟩
  · exact .inl made
  · exact .inr ⟨now, ⟨expiresAt, ⟨use, List.mem_append_left _ listed, renews⟩, renewal, List.mem_append_left _ stored, extended⟩, bound⟩

theorem timed_more {row : WebSessionRow} (timed : Timed policy earlier row) : Timed policy (earlier ++ later) row :=
  ⟨timed.after, timed.lead, within_more timed.idle, timed.least⟩

def Allows (policy : AuthenticationPolicy) (op : StoreOp) (journal : List Commit) : Prop :=
  match op with
  | .complete _ session => policy.sessionLifetime.renewedUntil session.authenticatedAt session.createdAt = .ok session.expiresAt
  | .exchangeDesktop _ _ session _ => policy.sessionLifetime.renewedUntil session.createdAt session.createdAt = .ok session.expiresAt
  | .extend id expiresAt => ∃ now, Renews policy journal id now expiresAt
  | _ => True

theorem made_timed (checked : row.checks = true)
    (made : MadeFor policy row.toWebSessionRegistration) : Timed policy journal row := by
  simp only [WebSessionRow.checks, Bool.and_eq_true, decide_eq_true_eq] at checked
  have bounded := policy.sessionLifetime.bounded
  rcases made with login | desktop
  · have ends := renewed_until_ok policy login
    refine ⟨checked.1.1, checked.1.2, .inl ?_, Nat.le_of_eq ends.symm⟩
    rw [ends]
    exact Nat.min_le_left _ _
  · have ends := renewed_until_ok policy desktop
    have idle : row.expiresAt.value = row.createdAt.value + policy.sessionLifetime.idle.value := by
      rw [ends, endOf]
      omega
    refine ⟨checked.1.1, checked.1.2, .inl (Nat.le_of_eq idle), ?_⟩
    rw [idle]
    exact Nat.min_le_left _ _

theorem opened_timed (allowed : Allows policy commit.op journal)
    (performs : Performs store commit next) (opened : row ∈ commit.opened) : MadeFor policy row.toWebSessionRegistration := by
  rcases opened_from performs opened with ⟨_, _, _, op, same, _⟩ | ⟨_, _, _, _, _, _, _, _, op, _, created, expires⟩
  · rw [op, same] at allowed
    exact .inl allowed
  · rw [op] at allowed
    refine .inr ?_
    rw [created, expires]
    exact allowed

theorem rewritten_timed (allowed : Allows policy commit.op journal)
    (timed : Timed policy journal row) : Timed policy (journal ++ [commit]) (rewritten commit.op row) := by
  have later := rewritten_later commit.op row
  have more : row.expiresAt.value ≤ (rewritten commit.op row).expiresAt.value := later.expires
  have after : row.createdAt.value < row.expiresAt.value := timed.after
  refine ⟨?_, by rw [later.authenticatedAt, later.createdAt]; exact timed.lead, ?_, ?_⟩
  · show (rewritten commit.op row).createdAt.value < (rewritten commit.op row).expiresAt.value
    rw [later.createdAt]
    omega
  · rw [later.id, later.createdAt]
    rcases rewritten_expiry commit.op row with same | ⟨expiresAt, extended, same⟩
    · rw [same]
      exact within_more timed.idle
    · rw [same]
      rw [extended] at allowed
      obtain ⟨now, use, listed, session, used, mine, renewed⟩ := allowed
      have ends := renewed_until_ok policy renewed
      refine .inr ⟨now, ⟨expiresAt, ⟨use, List.mem_append_left _ listed, session, used, mine, renewed⟩, commit, List.mem_concat_self, extended⟩, ?_⟩
      rw [ends]
      exact Nat.min_le_left _ _
  · rw [later.authenticatedAt, later.createdAt]
    have least := timed.least
    omega

theorem found_in_time (performs : Performs store commit next) (timed : ∀ row ∈ store.sessions, Timed policy journal row)
    (used : useOf policy commit = some use) : InTime policy journal use := by
  obtain ⟨before, op, answer, left⟩ := commit
  obtain ⟨rfl, performed, rfl⟩ := performs
  cases op with
  | findActive secretDigest now =>
    obtain ⟨session, found, kept⟩ := Option.bind_eq_some_iff.mp used
    obtain ⟨row, finds⟩ := (find_active_ok before performed).2 session found
    by_cases may : usable policy session now = true
    · rw [if_pos may] at kept
      cases kept
      have mine : session.id = row.id ∧ session.createdAt = row.createdAt := by
        rw [finds.answered]
        exact ⟨rfl, rfl⟩
      have soon : now.value < row.expiresAt.value := finds.before
      rcases (timed row finds.listed).idle with made | ⟨then', renewed, bound⟩
      · left
        show now.value < session.createdAt.value + _
        rw [mine.2]
        omega
      · exact .inr ⟨then', mine.1.symm ▸ renewed, Nat.lt_of_lt_of_le soon bound⟩
    · rw [if_neg may] at kept
      cases kept
  | _ => cases used

theorem commit_sound (sound : Sound policy world)
    (allowed : Allows policy op world.journal) (performed : world.store.perform op = .ok (answer, store)) :
    Sound policy (world.commit op answer store) := by
  have performs : Performs world.store ⟨world.store, op, answer, store⟩ store := ⟨rfl, performed, rfl⟩
  have changed := performs_changed performs
  refine ⟨?_, fun row listed => ?_, fun row listed => ?_, ?_⟩
  · exact (runs_append _ store world.journal _).mpr ⟨world.store, sound.journaled, store, performs, rfl⟩
  · rw [show (world.commit op answer store).store = store from rfl, changed.sessions] at listed
    rcases List.mem_append.mp listed with rewrote | opened
    · obtain ⟨old, there, rfl⟩ := List.mem_map.mp rewrote
      exact rewritten_timed allowed (sound.timed old there)
    · exact timed_more (made_timed (changed.checked row opened) (opened_timed allowed performs opened))
  · rw [show (world.commit op answer store).store = store from rfl, changed.sessions] at listed
    rcases List.mem_append.mp listed with rewrote | opened
    · obtain ⟨old, there, rfl⟩ := List.mem_map.mp rewrote
      obtain ⟨owner, known, same⟩ := sound.owned old there
      obtain ⟨more, principals, _⟩ := changed.principals
      refine ⟨barred op owner, ?_, ?_⟩
      · show barred op owner ∈ store.principals
        rw [principals]
        exact List.mem_append_left _ (List.mem_map_of_mem known)
      · rw [barred_id, same, (rewritten_later op old).owner]
    · obtain ⟨owner, known, same, _⟩ := changed.owned row opened
      exact ⟨owner, known, same⟩
  · refine each_up_to_snoc _ (each_up_to_mono _ sound.uses fun _ _ held => held) ?_
    intro use used
    exact found_in_time performs sound.timed used

end

section

variable (policy : AuthenticationPolicy) (encodings : AccountEncodings)

structure Onward (world next : AccountWorld) : Prop where
  journal : ∃ more, next.journal = world.journal ++ more
  clock : world.now ≤ next.now

theorem onward_refl (world : AccountWorld) : Onward world world := ⟨⟨[], (List.append_nil _).symm⟩, UtcMillis.le_refl _⟩

theorem onward_trans (first second third : AccountWorld) (early : Onward first second) (late : Onward second third) : Onward first third := by
  obtain ⟨more, built⟩ := early.journal
  obtain ⟨further, built'⟩ := late.journal
  exact ⟨⟨more ++ further, by rw [built', built, List.append_assoc]⟩, UtcMillis.le_trans _ _ _ early.clock late.clock⟩

-- A code is only presented by its holder, with the verifier of its challenge.
def Presents (request : AccountRequest) (op : StoreOp) : Prop :=
  match op with
  | .exchangeDesktop codeDigest codeChallenge _ _ => ∃ code verifier, request = .exchangeDesktop code verifier ∧
      codeDigest = encodings.digest code ∧ derivePkceChallenge encodings verifier = some codeChallenge
  | _ => True

def May (request : AccountRequest) (world : AccountWorld) : AccountCall → Prop
  | .store op => Allows policy op world.journal ∧ Presents encodings request op
  | _ => True

def TakesUse (result : Except AuthenticationFailure AuthenticatedPrincipal) : Prop :=
  (∃ principal, result = .ok principal) ∨ ∃ failed, result = .error failed ∧ failed.kind = .reauthenticationRequired

def InVain (secretDigest : SecretDigest) (now : UtcMillis) (commit : Commit) : Prop :=
  commit.op = .findActive secretDigest now ∧ ∀ session, commit.accepted = some session → usable policy session now = false ∨
    ∀ renewed, policy.sessionLifetime.renewedUntil session.authenticatedAt now ≠ .ok renewed

def StillThere (session : StoredWebSession) (secretDigest : SecretDigest) (world : AccountWorld) (holds : WebSessionRow → Prop) : Prop :=
  ∃ row ∈ world.store.sessions, row.id = session.id ∧ row.secretDigest = secretDigest ∧ row.authenticatedAt = session.authenticatedAt ∧
    row.createdAt = session.createdAt ∧ session.expiresAt ≤ row.expiresAt ∧ holds row

def Prolonged (session : StoredWebSession) (now : UtcMillis) (row : WebSessionRow) : Prop :=
  row.revokedAt ≠ none ∨ endOf policy session.authenticatedAt now ≤ row.expiresAt.value + policy.sessionRenewalStep

def Found (secretDigest : SecretDigest) (origin : AccountWorld) (now : UtcMillis) (session : StoredWebSession) (world : AccountWorld) : Prop :=
  ∃ more commit, world.journal = origin.journal ++ more ∧ commit ∈ more ∧ commit.op = .findActive secretDigest now ∧
    commit.accepted = some session

structure Answered (secretDigest : SecretDigest) (origin : AccountWorld) (now : UtcMillis)
    (result : Except AuthenticationFailure AuthenticatedPrincipal) (world : AccountWorld) : Prop where
  accepted : TakesUse result → ∃ session, Found secretDigest origin now session world ∧ usable policy session now = true ∧
    StillThere session secretDigest world (Prolonged policy session now)
  refused : ∀ failed, result = .error failed → failed.kind ≠ .reauthenticationRequired → failed.kind = .dependencyUnavailable ∨
    ∃ more commit, world.journal = origin.journal ++ more ∧ commit ∈ more ∧ InVain policy secretDigest now commit

def Promises (request : AccountRequest) (origin : AccountWorld) (result : Except AuthenticationFailure AccountReply) (world : AccountWorld) : Prop :=
  match request, result with
  | .authenticate sessionSecret _, .ok (.authenticated now result) => Answered policy (encodings.digest sessionSecret) origin now result world
  | _, _ => True

theorem reply_onward (sound : Sound policy world)
    (may : May policy encodings request world call) (replies : AccountReplies world call answer next) :
    Sound policy next ∧ Onward world next := by
  have still : next = world → Sound policy next ∧ Onward world next := by
    rintro rfl
    exact ⟨sound, onward_refl next⟩
  cases call with
  | clock => exact still replies.2
  | store op =>
    rcases replies with ⟨found, store, performed, rfl, _⟩ | ⟨rfl, _⟩
    · exact ⟨commit_sound sound may.1 performed, ⟨_, rfl⟩, UtcMillis.le_refl _⟩
    · exact still rfl
  | _ => exact still replies

def accountDiscipline : Discipline accountEnvironment AccountRequest (Except AuthenticationFailure AccountReply) where
  invariant := Sound policy
  later := Onward
  same := onward_refl
  trans := onward_trans
  moved := by
    rintro world next sound ⟨now, onward, rfl⟩
    exact ⟨⟨sound.journaled, sound.timed, sound.owned, sound.uses⟩, ⟨[], (List.append_nil _).symm⟩, onward⟩
  may := fun request _ call world => May policy encodings request world call
  promise := Promises policy encodings
  answered := fun request _ world call answer next sound _ may replies => reply_onward policy encodings sound may replies

end

end AgentRoom.Account
