import AgentRoom.Library.Calls
import Mathlib.Data.List.AList

namespace AgentRoom.Library

-- The row locks of the database, from the weakest to the strongest.
inductive LockMode where
  | keyShare
  | share
  | noKeyUpdate
  | update

namespace LockMode

def conflicts : LockMode → LockMode → Bool
  | .keyShare, .update | .update, .keyShare => true
  | .keyShare, _ | _, .keyShare | .share, .share => false
  | _, _ => true

def writes : LockMode → Bool
  | .noKeyUpdate | .update => true
  | .keyShare | .share => false

def guards (mode : LockMode) : Bool := mode.conflicts .noKeyUpdate && mode.conflicts .update

theorem guards_writes {mode other : LockMode} (guards : mode.guards = true) (writes : other.writes = true) :
    mode.conflicts other = true := by
  cases mode <;> cases other <;> first | rfl | exact absurd guards (by decide) | exact absurd writes (by decide)

theorem conflicts_symm (mode other : LockMode) : mode.conflicts other = other.conflicts mode := by
  cases mode <;> cases other <;> rfl

end LockMode

variable {κ ψ ε : Type} {ρ : κ → Type} [DecidableEq κ]

-- A transaction that has begun: its locks, and what it wrote and did not commit yet.
structure Session (κ : Type) (ρ : κ → Type) (ψ : Type) where
  purpose : ψ
  locks : List (κ × LockMode)
  writes : AList ρ

structure Database (κ : Type) (ρ : κ → Type) (ψ : Type) where
  rows : AList ρ
  sessions : Nat → Option (Session κ ρ ψ)
  opened : Nat

namespace Session

variable (session : Session κ ρ ψ)

def view (rows : AList ρ) : AList ρ := session.writes ∪ rows

def locked (key : κ) (mode : LockMode) : Session κ ρ ψ := { session with locks := (key, mode) :: session.locks }

def wrote (key : κ) (row : ρ key) : Session κ ρ ψ := { session with writes := session.writes.insert key row }

def Holds (key : κ) (mode : LockMode) : Prop := (key, mode) ∈ session.locks

def writeMode (rows : AList ρ) (key : κ) : LockMode :=
  if ((session.view rows).lookup key).isSome then .noKeyUpdate else .update

variable (rows : AList ρ) (key : κ)

theorem view_unwritten (absent : key ∉ session.writes) : (session.view rows).lookup key = rows.lookup key :=
  AList.lookup_union_right absent

theorem view_written (row : ρ key) (written : session.writes.lookup key = some row) :
    (session.view rows).lookup key = some row := by
  have there : key ∈ session.writes := AList.lookup_isSome.mp (written.symm ▸ rfl)
  exact (AList.lookup_union_left there).trans written

theorem view_kept (there : key ∈ rows) : key ∈ session.view rows := AList.mem_union.mpr (.inr there)

end Session

namespace Database

variable (database : Database κ ρ ψ) (tx : Nat)

def begun (purpose : ψ) : Database κ ρ ψ :=
  { database with
    sessions := Function.update database.sessions database.opened (some ⟨purpose, [], ∅⟩)
    opened := database.opened + 1 }

def closed : Database κ ρ ψ := { database with sessions := Function.update database.sessions tx none }

def changed (session : Session κ ρ ψ) : Database κ ρ ψ := { database with sessions := Function.update database.sessions tx (some session) }

def committed (session : Session κ ρ ψ) : Database κ ρ ψ := { database.closed tx with rows := session.view database.rows }

def available (key : κ) (mode : LockMode) : Bool :=
  (List.range database.opened).all fun other => decide (other = tx) || (database.sessions other).all fun session =>
    session.locks.all fun lock => !(decide (lock.1 = key) && mode.conflicts lock.2)

end Database

-- The statements of transactions, each seeing what is committed when it runs;
-- a read before any transaction sees the same.
inductive Statement (κ : Type) (ρ : κ → Type) (ψ : Type) where
  | load
  | begin (purpose : ψ)
  | select (tx : Nat)
  | lock (tx : Nat) (key : κ) (mode : LockMode)
  | write (tx : Nat) (key : κ) (change : Option (ρ key) → Option (ρ key))
  | commit (tx : Nat)
  | rollback (tx : Nat)

def Reply (ε : Type) : Statement κ ρ ψ → Type
  | .load | .select _ => Except ε (AList ρ)
  | .begin _ => Except ε Nat
  | .lock _ key _ => Except ε (Option (ρ key))
  | .write _ _ _ => Except ε Bool
  | .commit _ | .rollback _ => Except ε Unit

def Fails {α : Type} (database : Database κ ρ ψ) (tx : Nat) (answer : Except ε α) (next : Database κ ρ ψ) : Prop :=
  (∃ failure, answer = .error failure) ∧ (next = database ∨ next = database.closed tx)

-- A statement that has to wait for a lock is answered once the lock is free.
def Executes (ε : Type) (database : Database κ ρ ψ) : (statement : Statement κ ρ ψ) → Reply ε statement → Database κ ρ ψ → Prop
  | .load, answer, next => next = database ∧ (answer = .ok database.rows ∨ ∃ failure, answer = .error failure)
  | .begin purpose, answer, next => (answer = .ok database.opened ∧ next = database.begun purpose) ∨
      ((∃ failure, answer = .error failure) ∧ (next = database ∨ next = database.begun purpose))
  | .select tx, answer, next =>
    (∃ session, database.sessions tx = some session ∧ answer = .ok (session.view database.rows) ∧ next = database) ∨
      Fails database tx answer next
  | .lock tx key mode, answer, next =>
    (∃ session, database.sessions tx = some session ∧
      (((session.view database.rows).lookup key = none ∧ answer = .ok none ∧ next = database) ∨
        (∃ row, (session.view database.rows).lookup key = some row ∧ database.available tx key mode = true ∧
          answer = .ok (some row) ∧ next = database.changed tx (session.locked key mode)))) ∨
      Fails database tx answer next
  | .write tx key change, answer, next =>
    (∃ session, database.sessions tx = some session ∧
      ((change ((session.view database.rows).lookup key) = none ∧ answer = .ok false ∧ next = database) ∨
        (∃ row, change ((session.view database.rows).lookup key) = some row ∧
          database.available tx key (session.writeMode database.rows key) = true ∧ answer = .ok true ∧
          next = database.changed tx ((session.locked key (session.writeMode database.rows key)).wrote key row)))) ∨
      Fails database tx answer next
  | .commit tx, answer, next =>
    (∃ session, database.sessions tx = some session ∧ next = database.committed tx session ∧
      (answer = .ok () ∨ ∃ failure, answer = .error failure)) ∨
      Fails database tx answer next
  | .rollback tx, _, next => next = database.closed tx

-- By itself the database only drops transactions.
def Drops (database next : Database κ ρ ψ) : Prop := ∃ tx, next = database.closed tx

def transactions (κ : Type) (ρ : κ → Type) (ψ ε : Type) [DecidableEq κ] :
    Environment (Database κ ρ ψ) (Statement κ ρ ψ) (Reply ε) where
  answers := Executes ε
  moves := Drops

-- The locks that are held go together, and what is written is locked.
structure Locked (database : Database κ ρ ψ) : Prop where
  fresh : ∀ tx session, database.sessions tx = some session → tx < database.opened
  compatible : ∀ tx session other session', database.sessions tx = some session → database.sessions other = some session' →
    other ≠ tx → ∀ key mode mode', session.Holds key mode → session'.Holds key mode' → mode.conflicts mode' = false
  covered : ∀ tx session, database.sessions tx = some session → ∀ key ∈ session.writes, ∃ mode, session.Holds key mode ∧ mode.writes = true

-- What a transaction may rely on while it is open: its locks are not taken away,
-- nobody else writes what it guards, and no row goes away.
structure Onwards (database next : Database κ ρ ψ) : Prop where
  opened : database.opened ≤ next.opened
  sessions : ∀ tx session', next.sessions tx = some session' → tx < database.opened →
    ∃ session, database.sessions tx = some session ∧ session'.purpose = session.purpose ∧ session.locks ⊆ session'.locks ∧
      ∀ key ∈ session.writes, key ∈ session'.writes
  guarded : ∀ tx session session', database.sessions tx = some session → next.sessions tx = some session' → tx < database.opened →
    ∀ key mode, session.Holds key mode → mode.guards = true → next.rows.lookup key = database.rows.lookup key
  persist : ∀ key ∈ database.rows, key ∈ next.rows

theorem onwards_refl (database : Database κ ρ ψ) : Onwards database database where
  opened := Nat.le_refl _
  sessions := fun _ session found _ => ⟨session, found, rfl, List.Subset.refl _, fun _ there => there⟩
  guarded := fun _ _ _ _ _ _ _ _ _ _ => rfl
  persist := fun _ there => there

theorem onwards_trans {first second third : Database κ ρ ψ} (early : Onwards first second) (late : Onwards second third) :
    Onwards first third where
  opened := Nat.le_trans early.opened late.opened
  sessions := by
    intro tx session found older
    obtain ⟨middle, found', purpose, locks, writes⟩ := late.sessions tx session found (Nat.lt_of_lt_of_le older early.opened)
    obtain ⟨start, found'', purpose', locks', writes'⟩ := early.sessions tx middle found' older
    exact ⟨start, found'', purpose.trans purpose', List.Subset.trans locks' locks, fun key there => writes key (writes' key there)⟩
  guarded := by
    intro tx session session' found found' older key mode holds guards
    have younger := Nat.lt_of_lt_of_le older early.opened
    obtain ⟨middle, between, _⟩ := late.sessions tx session' found' younger
    obtain ⟨start, found'', _, locks, _⟩ := early.sessions tx middle between older
    cases found.symm.trans found''
    exact (late.guarded tx middle session' between found' younger key mode (locks holds) guards).trans
      (early.guarded tx session middle found between older key mode holds guards)
  persist := fun key there => late.persist key (early.persist key there)

section

variable (database next : Database κ ρ ψ)

-- A statement leaves the rows as they are, but for a commit.
inductive Effect : Prop where
  | nothing (same : next = database)
  | begun (purpose : ψ) (begins : next = database.begun purpose)
  | closed (tx : Nat) (closes : next = database.closed tx)
  | changed (tx : Nat) (session session' : Session κ ρ ψ) (found : database.sessions tx = some session)
      (purpose : session'.purpose = session.purpose) (changes : next = database.changed tx session')
      (key : κ) (mode : LockMode) (free : database.available tx key mode = true) (locks : session'.locks = (key, mode) :: session.locks)
      (writes : session'.writes = session.writes ∨ (mode.writes = true ∧ ∃ row, session'.writes = session.writes.insert key row))
  | committed (tx : Nat) (session : Session κ ρ ψ) (found : database.sessions tx = some session) (commits : next = database.committed tx session)

theorem fails_effect {tx : Nat} {answer : Except ε α} (fails : Fails database tx answer next) : Effect database next := by
  rcases fails.2 with same | closes
  · exact .nothing same
  · exact .closed tx closes

theorem write_mode_writes {session : Session κ ρ ψ} {rows : AList ρ} {key : κ} : (session.writeMode rows key).writes = true := by
  unfold Session.writeMode
  split <;> rfl

theorem executed_effect {answer : Reply ε statement} (executes : Executes ε database statement answer next) :
    Effect database next := by
  cases statement with
  | load => exact .nothing executes.1
  | begin purpose =>
    rcases executes with ⟨_, begins⟩ | ⟨_, same | begins⟩
    · exact .begun purpose begins
    · exact .nothing same
    · exact .begun purpose begins
  | select tx =>
    rcases executes with ⟨_, _, _, same⟩ | fails
    · exact .nothing same
    · exact fails_effect database next fails
  | lock tx key mode =>
    rcases executes with ⟨session, found, ⟨_, _, same⟩ | ⟨row, _, free, _, changes⟩⟩ | fails
    · exact .nothing same
    · exact .changed tx session (session.locked key mode) found rfl changes key mode free rfl (.inl rfl)
    · exact fails_effect database next fails
  | write tx key change =>
    rcases executes with ⟨session, found, ⟨_, _, same⟩ | ⟨row, _, free, _, changes⟩⟩ | fails
    · exact .nothing same
    · exact .changed tx session ((session.locked key (session.writeMode database.rows key)).wrote key row) found rfl changes key _ free rfl
        (.inr ⟨write_mode_writes, row, rfl⟩)
    · exact fails_effect database next fails
  | commit tx =>
    rcases executes with ⟨session, found, commits, _⟩ | fails
    · exact .committed tx session found commits
    · exact fails_effect database next fails
  | rollback tx => exact .closed tx executes

theorem available_free {key : κ} {mode : LockMode} (free : database.available tx key mode = true) (found : database.sessions other = some session) (older : other < database.opened) (apart : other ≠ tx)
    (holds : session.Holds key mode') : mode.conflicts mode' = false := by
  have each := List.all_eq_true.mp free other (List.mem_range.mpr older)
  rcases (Bool.or_eq_true ..).mp each with same | nobody
  · exact absurd (of_decide_eq_true same) apart
  · rw [found] at nobody
    have clear := List.all_eq_true.mp nobody (key, mode') holds
    simpa using clear

omit [DecidableEq κ] in
theorem updated_found {sessions : Nat → Option (Session κ ρ ψ)} (found : Function.update sessions tx given other = some session) :
    (other = tx ∧ given = some session) ∨ (other ≠ tx ∧ sessions other = some session) := by
  by_cases same : other = tx
  · subst same
    rw [Function.update_self] at found
    exact .inl ⟨rfl, found⟩
  · rw [Function.update_of_ne same] at found
    exact .inr ⟨same, found⟩

theorem effect_locked (locked : Locked database) (effect : Effect database next) : Locked next := by
  cases effect with
  | nothing same => exact same ▸ locked
  | begun purpose begins =>
    subst begins
    refine ⟨?_, ?_, ?_⟩
    · intro tx session found
      rcases updated_found found with ⟨rfl, _⟩ | ⟨_, older⟩
      · exact Nat.lt_succ_self _
      · exact Nat.lt_succ_of_lt (locked.fresh tx session older)
    · intro tx session other session' found found' apart key mode mode' holds holds'
      rcases updated_found found with ⟨rfl, new⟩ | ⟨_, older⟩
      · cases new
        cases holds
      · rcases updated_found found' with ⟨rfl, new⟩ | ⟨_, older'⟩
        · cases new
          cases holds'
        · exact locked.compatible tx session other session' older older' apart key mode mode' holds holds'
    · intro tx session found key written
      rcases updated_found found with ⟨rfl, new⟩ | ⟨_, older⟩
      · cases new
        exact absurd written (AList.notMem_empty key)
      · exact locked.covered tx session older key written
  | closed tx closes =>
    subst closes
    have kept : ∀ other session, (database.closed tx).sessions other = some session → database.sessions other = some session := by
      intro other session found
      rcases updated_found found with ⟨_, gone⟩ | ⟨_, older⟩
      · cases gone
      · exact older
    exact ⟨fun other session found => locked.fresh other session (kept other session found),
      fun other session another session' found found' => locked.compatible other session another session' (kept _ _ found) (kept _ _ found'),
      fun other session found => locked.covered other session (kept other session found)⟩
  | changed tx session session' found purpose changes key mode free locks writes =>
    subst changes
    have fresh := locked.fresh tx session found
    have mine : ∀ key' mode', session'.Holds key' mode' → (key' = key ∧ mode' = mode) ∨ session.Holds key' mode' := by
      intro key' mode' holds
      unfold Session.Holds at holds
      rw [locks] at holds
      rcases List.mem_cons.mp holds with new | old
      · exact .inl (Prod.mk.inj new)
      · exact .inr old
    have against : ∀ other session'', database.sessions other = some session'' → other ≠ tx → ∀ key' mode' mode'',
        session'.Holds key' mode' → session''.Holds key' mode'' → mode'.conflicts mode'' = false := by
      intro other session'' found'' apart key' mode' mode'' holds holds'
      rcases mine key' mode' holds with ⟨rfl, rfl⟩ | older
      · exact available_free database free found'' (locked.fresh other session'' found'') apart holds'
      · exact locked.compatible tx session other session'' found found'' apart key' mode' mode'' older holds'
    have taken : ∀ key' mode', (key' = key ∧ mode' = mode) ∨ session.Holds key' mode' → session'.Holds key' mode' := by
      intro key' mode' holds
      unfold Session.Holds
      rw [locks]
      rcases holds with ⟨rfl, rfl⟩ | old
      · exact List.mem_cons_self ..
      · exact List.mem_cons_of_mem _ old
    refine ⟨?_, ?_, ?_⟩
    · intro other session'' found''
      rcases updated_found found'' with ⟨rfl, _⟩ | ⟨_, older⟩
      · exact fresh
      · exact locked.fresh other session'' older
    · intro first one second two found₁ found₂ apart key' mode₁ mode₂ holds₁ holds₂
      rcases updated_found found₁ with ⟨rfl, new⟩ | ⟨elsewhere, older⟩
      · cases new
        rcases updated_found found₂ with ⟨same, _⟩ | ⟨_, older'⟩
        · exact absurd same apart
        · exact against second two older' apart key' mode₁ mode₂ holds₁ holds₂
      · rcases updated_found found₂ with ⟨rfl, new⟩ | ⟨_, older'⟩
        · cases new
          rw [LockMode.conflicts_symm]
          exact against first one older elsewhere key' mode₂ mode₁ holds₂ holds₁
        · exact locked.compatible first one second two older older' apart key' mode₁ mode₂ holds₁ holds₂
    · intro other session'' found'' key' written
      rcases updated_found found'' with ⟨rfl, new⟩ | ⟨_, older⟩
      · cases new
        have before : key' ∈ session.writes → ∃ mode', session'.Holds key' mode' ∧ mode'.writes = true := by
          intro there
          obtain ⟨mode', holds, writing⟩ := locked.covered other session found key' there
          exact ⟨mode', taken key' mode' (.inr holds), writing⟩
        rcases writes with same | ⟨writing, row, inserted⟩
        · exact before (same ▸ written)
        · rw [inserted] at written
          rcases (AList.mem_insert ..).mp written with rfl | there
          · exact ⟨mode, taken _ mode (.inl ⟨rfl, rfl⟩), writing⟩
          · exact before there
      · exact locked.covered other session'' older key' written
  | committed tx session found commits =>
    subst commits
    have kept : ∀ other session', (database.committed tx session).sessions other = some session' →
        database.sessions other = some session' := by
      intro other session' found'
      rcases updated_found found' with ⟨_, gone⟩ | ⟨_, older⟩
      · cases gone
      · exact older
    exact ⟨fun other session found => locked.fresh other session (kept other session found),
      fun other session another session' found found' => locked.compatible other session another session' (kept _ _ found) (kept _ _ found'),
      fun other session found => locked.covered other session (kept other session found)⟩

theorem effect_onwards (locked : Locked database) (effect : Effect database next) : Onwards database next := by
  cases effect with
  | nothing same => exact same ▸ onwards_refl database
  | begun purpose begins =>
    subst begins
    refine ⟨Nat.le_succ _, ?_, fun _ _ _ _ _ _ _ _ _ _ => rfl, fun _ there => there⟩
    intro tx session found older
    rcases updated_found found with ⟨rfl, _⟩ | ⟨_, found'⟩
    · exact absurd older (Nat.lt_irrefl _)
    · exact ⟨session, found', rfl, List.Subset.refl _, fun _ there => there⟩
  | closed tx closes =>
    subst closes
    refine ⟨Nat.le_refl _, ?_, fun _ _ _ _ _ _ _ _ _ _ => rfl, fun _ there => there⟩
    intro other session found _
    rcases updated_found found with ⟨_, gone⟩ | ⟨_, found'⟩
    · cases gone
    · exact ⟨session, found', rfl, List.Subset.refl _, fun _ there => there⟩
  | changed tx session session' found purpose changes key mode free locks writes =>
    subst changes
    refine ⟨Nat.le_refl _, ?_, fun _ _ _ _ _ _ _ _ _ _ => rfl, fun _ there => there⟩
    intro other session'' found'' _
    rcases updated_found found'' with ⟨rfl, new⟩ | ⟨_, found'⟩
    · cases new
      refine ⟨session, found, purpose, locks ▸ List.subset_cons_self .., fun key' there => ?_⟩
      rcases writes with same | ⟨_, row, inserted⟩
      · exact same ▸ there
      · rw [inserted]
        exact (AList.mem_insert ..).mpr (.inr there)
    · exact ⟨session'', found', rfl, List.Subset.refl _, fun _ there => there⟩
  | committed tx session found commits =>
    subst commits
    refine ⟨Nat.le_refl _, ?_, ?_, fun key there => session.view_kept database.rows key there⟩
    · intro other session' found' _
      rcases updated_found found' with ⟨_, gone⟩ | ⟨_, found''⟩
      · cases gone
      · exact ⟨session', found'', rfl, List.Subset.refl _, fun _ there => there⟩
    · intro other one one' found₁ found₂ _ key mode holds guards
      rcases updated_found found₂ with ⟨_, gone⟩ | ⟨apart, _⟩
      · cases gone
      · refine session.view_unwritten database.rows key fun written => ?_
        obtain ⟨mode', holds', writing⟩ := locked.covered tx session found key written
        have clear := locked.compatible other one tx session found₁ found (fun same => apart same.symm) key mode mode' holds holds'
        rw [LockMode.guards_writes guards writing] at clear
        cases clear

end

def oblige (waits : ε) (database : Database κ ρ ψ) : (statement : Statement κ ρ ψ) → Reply ε statement × Database κ ρ ψ
  | .load => (.ok database.rows, database)
  | .begin purpose => (.ok database.opened, database.begun purpose)
  | .select tx => match database.sessions tx with
      | some session => (.ok (session.view database.rows), database)
      | none => (.error waits, database)
  | .lock tx key mode => match database.sessions tx with
      | some session => match (session.view database.rows).lookup key with
          | some row =>
            if database.available tx key mode then (.ok (some row), database.changed tx (session.locked key mode))
            else (.error waits, database)
          | none => (.ok none, database)
      | none => (.error waits, database)
  | .write tx key change => match database.sessions tx with
      | some session => match change ((session.view database.rows).lookup key) with
          | some row =>
            if database.available tx key (session.writeMode database.rows key) then
              (.ok true, database.changed tx ((session.locked key (session.writeMode database.rows key)).wrote key row))
            else (.error waits, database)
          | none => (.ok false, database)
      | none => (.error waits, database)
  | .commit tx => match database.sessions tx with
      | some session => (.ok (), database.committed tx session)
      | none => (.error waits, database)
  | .rollback tx => (.ok (), database.closed tx)

theorem oblige_executes (waits : ε) (database : Database κ ρ ψ) (statement : Statement κ ρ ψ) :
    Executes ε database statement (oblige waits database statement).1 (oblige waits database statement).2 := by
  have refused : ∀ (α : Type) (tx : Nat), Fails database tx (.error waits : Except ε α) database := fun _ _ => ⟨⟨waits, rfl⟩, .inl rfl⟩
  cases statement with
  | load => exact ⟨rfl, .inl rfl⟩
  | begin purpose => exact .inl ⟨rfl, rfl⟩
  | select tx =>
    cases found : database.sessions tx with
    | none =>
      simp only [oblige, found]
      exact .inr (refused _ tx)
    | some session =>
      simp only [oblige, found]
      exact .inl ⟨session, found, rfl, rfl⟩
  | lock tx key mode =>
    cases found : database.sessions tx with
    | none =>
      simp only [oblige, found]
      exact .inr (refused _ tx)
    | some session =>
      cases there : (session.view database.rows).lookup key with
      | none =>
        simp only [oblige, found, there]
        exact .inl ⟨session, found, .inl ⟨there, rfl, rfl⟩⟩
      | some row =>
        by_cases free : database.available tx key mode = true
        · simp only [oblige, found, there, if_pos free]
          exact .inl ⟨session, found, .inr ⟨row, there, free, rfl, rfl⟩⟩
        · simp only [oblige, found, there, if_neg free]
          exact .inr (refused _ tx)
  | write tx key change =>
    cases found : database.sessions tx with
    | none =>
      simp only [oblige, found]
      exact .inr (refused _ tx)
    | some session =>
      cases written : change ((session.view database.rows).lookup key) with
      | none =>
        simp only [oblige, found, written]
        exact .inl ⟨session, found, .inl ⟨written, rfl, rfl⟩⟩
      | some row =>
        by_cases free : database.available tx key (session.writeMode database.rows key) = true
        · simp only [oblige, found, written, if_pos free]
          exact .inl ⟨session, found, .inr ⟨row, written, free, rfl, rfl⟩⟩
        · simp only [oblige, found, written, if_neg free]
          exact .inr (refused _ tx)
  | commit tx =>
    cases found : database.sessions tx with
    | none =>
      simp only [oblige, found]
      exact .inr (refused _ tx)
    | some session =>
      simp only [oblige, found]
      exact .inl ⟨session, found, rfl, .inl rfl⟩
  | rollback tx => rfl

end AgentRoom.Library
