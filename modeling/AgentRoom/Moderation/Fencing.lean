import AgentRoom.Moderation.Keeping

namespace AgentRoom.Moderation

open Library

-- The ledger, with every claim that was handed out in its order, the numbers of
-- those an instance still holds, and the actions recorded as ended.
structure ExpiryBoard where
  world : ModerationWorld
  handed : List ModerationExpiryClaim
  held : List Nat
  endings : List ModerationActionId

inductive ExpiryTurn where
  | reserve (action : ModerationAction)
  | finalize (action : ModerationAction)
  | claim (now leaseUntil : UtcMillis)
  | reschedule (number : Nat) (reschedule : ModerationExpiryReschedule)
  | giveUp (number : Nat)

namespace ExpiryBoard

variable (board : ExpiryBoard)

def letGo (number : Nat) : ExpiryBoard := { board with held := board.held.erase number }

def handOut (row : LedgerRow) (leaseUntil : UtcMillis) (got : Bool) : ExpiryBoard where
  world := board.world.change row.action.id fun row =>
    { row with expiryAttempts := row.expiryAttempts + 1, expiryNextAttemptAt := some leaseUntil }
  handed := board.handed ++ [⟨row.action, row.expiryAttempts + 1, row.expiryFailureCode⟩]
  held := if got then board.held ++ [board.handed.length] else board.held
  endings := board.endings

def reserved (action : ModerationAction) : ExpiryBoard :=
  { board with world := { board.world with ledger := board.world.ledger ++ [⟨action, 0, none, none⟩] } }

def finalized (action left : ModerationAction) : ExpiryBoard where
  world := board.world.change action.id ({ · with action := left })
  handed := board.handed
  held := board.held
  endings := if left.status = .reversed then board.endings ++ [action.id] else board.endings

def moved (claim : ModerationExpiryClaim) (reschedule : ModerationExpiryReschedule) : ExpiryBoard :=
  { board with world := board.world.change claim.action.id (rescheduled claim reschedule) }

end ExpiryBoard

-- What the statements do to the ledger; any of them may fail, and a claim that was
-- made may be lost on its way back. Every claim is rescheduled once at most.
def ExpiryTurns (board : ExpiryBoard) : ExpiryTurn → ExpiryBoard → Prop
  | .reserve action, next => next = board ∨ (board.world.find action.id = none ∧ next = board.reserved action)
  | .finalize action, next => next = board ∨ ∃ row left, board.world.find action.id = some row ∧
      Finalized row.action action (some left) ∧ next = board.finalized action left
  | .claim now leaseUntil, next => next = board ∨ ∃ row ∈ board.world.ledger, claimable now row = true ∧
      ∃ got, next = board.handOut row leaseUntil got
  | .reschedule number reschedule, next => number ∈ board.held ∧ ∃ claim, board.handed[number]? = some claim ∧
      (next = board.letGo number ∨ next = (board.moved claim reschedule).letGo number)
  | .giveUp number, next => next = board.letGo number

-- The action was claimed again after this claim.
def Superseded (board : ExpiryBoard) (number : Nat) (id : ModerationActionId) : Prop :=
  ∃ later claim, number < later ∧ board.handed[later]? = some claim ∧ claim.action.id = id

def Fenced (board : ExpiryBoard) : Prop :=
  ∀ number ∈ board.held, ∀ claim, board.handed[number]? = some claim → Superseded board number claim.action.id →
    ∀ reschedule, board.world.change claim.action.id (rescheduled claim reschedule) = board.world

-- A deferral does not take the counter back to the number of another claim of the
-- action that an instance still holds.
def KeepsNumbers (board : ExpiryBoard) : ExpiryTurn → Prop
  | .reschedule number (.defer _) => ∀ claim row, board.handed[number]? = some claim →
      board.world.find claim.action.id = some row → row.action.status = .applied → row.expiryAttempts = claim.attempt →
      ∀ other ∈ board.held, other ≠ number → ∀ claim', board.handed[other]? = some claim' →
        claim'.action.id = claim.action.id → claim'.attempt + 1 ≠ row.expiryAttempts
  | _ => True

-- The number of a claim that is held is not above the row's, and below it when the
-- action was claimed again.
structure Numbered (board : ExpiryBoard) : Prop where
  listed : ∀ row ∈ board.world.ledger, board.world.find row.action.id = some row
  held : board.held.Nodup ∧ ∀ number ∈ board.held, number < board.handed.length
  numbers : ∀ number ∈ board.held, ∀ claim, board.handed[number]? = some claim →
    ∃ row, board.world.find claim.action.id = some row ∧ claim.attempt ≤ row.expiryAttempts ∧
      (Superseded board number claim.action.id → claim.attempt < row.expiryAttempts)
  ended : ∀ id ∈ board.endings, ∃ row, board.world.find id = some row ∧ row.action.status = .reversed
  once : board.endings.Nodup

section

variable {board next : ExpiryBoard}

theorem numbered_fenced (numbered : Numbered board) : Fenced board := by
  intro number held claim handed superseded reschedule
  obtain ⟨row, found, _, below⟩ := numbered.numbers number held claim handed
  have less := below superseded
  have same : board.world.ledger.map (fun row => if row.action.id = claim.action.id then rescheduled claim reschedule row else row) =
      board.world.ledger := by
    refine (List.map_congr_left fun other there => ?_).trans (List.map_id _)
    by_cases here : other.action.id = claim.action.id
    · have mine : other = row := Option.some.inj ((numbered.listed other there).symm.trans (here ▸ found))
      have apart : ¬ (row.action.status = .applied ∧ row.expiryAttempts = claim.attempt) := by
        rintro ⟨_, equal⟩
        omega
      simp [mine, rescheduled, apart]
    · simp [here]
  simp [ModerationWorld.change, same]

theorem ended_changed {id : ModerationActionId} (numbered : Numbered board)
    (keeps : ∀ row : LedgerRow, row.action.id = id → (update row).action.id = id)
    (ended : ∀ row, board.world.find id = some row → row.action.status = .reversed → (update row).action.status = .reversed) :
    ∀ other ∈ board.endings, ∃ row, (board.world.change id update).find other = some row ∧ row.action.status = .reversed := by
  intro other listed
  obtain ⟨row, found, reversed⟩ := numbered.ended other listed
  refine ⟨_, (find_change board.world id update keeps).trans (congrArg _ found), ?_⟩
  by_cases here : row.action.id = id
  · simp only [here, if_true]
    exact ended row (by rw [← here, (find_listed board.world found).2, found]) reversed
  · simp only [here, if_false]
    exact reversed

theorem numbered_changed (id : ModerationActionId) (update : LedgerRow → LedgerRow) (numbered : Numbered board)
    (keeps : ∀ row : LedgerRow, row.action.id = id → (update row).action.id = id)
    (grows : ∀ row, board.world.find id = some row → row.expiryAttempts ≤ (update row).expiryAttempts)
    (ended : ∀ row, board.world.find id = some row → row.action.status = .reversed → (update row).action.status = .reversed) :
    Numbered { board with world := board.world.change id update } where
  listed := listed_change board.world numbered.listed keeps
  held := numbered.held
  numbers := by
    intro number held claim handed
    obtain ⟨row, found, atMost, below⟩ := numbered.numbers number held claim handed
    refine ⟨_, (find_change board.world id update keeps).trans (congrArg _ found), ?_⟩
    by_cases here : row.action.id = id
    · have more := grows row (by rw [← here, (find_listed board.world found).2, found])
      simp only [here, if_true]
      refine ⟨Nat.le_trans atMost more, fun superseded => Nat.lt_of_lt_of_le (below superseded) more⟩
    · simp only [here, if_false]
      exact ⟨atMost, below⟩
  ended := ended_changed numbered keeps ended
  once := numbered.once

theorem numbered_let_go (numbered : Numbered board) : Numbered (board.letGo number) where
  listed := numbered.listed
  held := ⟨numbered.held.1.erase number, fun other listed => numbered.held.2 other (List.mem_of_mem_erase listed)⟩
  numbers := fun other listed => numbered.numbers other (List.mem_of_mem_erase listed)
  ended := numbered.ended
  once := numbered.once

theorem find_reserved (action : ModerationAction) (id : ModerationActionId) : (board.reserved action).world.find id =
    (board.world.find id).or (if action.id = id then some ⟨action, 0, none, none⟩ else none) := by
  change (board.world.reserve action []).find id = _
  exact find_reserve board.world

theorem numbered_reserved (action : ModerationAction) (numbered : Numbered board) (none' : board.world.find action.id = none) :
    Numbered (board.reserved action) where
  listed := by
    change ∀ row ∈ (board.world.reserve action []).ledger, (board.world.reserve action []).find row.action.id = some row
    exact listed_reserve board.world numbered.listed none'
  held := numbered.held
  numbers := by
    intro number held claim handed
    obtain ⟨row, found, rest⟩ := numbered.numbers number held claim handed
    exact ⟨row, by rw [find_reserved, found]; rfl, rest⟩
  ended := by
    intro id listed
    obtain ⟨row, found, reversed⟩ := numbered.ended id listed
    exact ⟨row, by rw [find_reserved, found]; rfl, reversed⟩
  once := numbered.once

theorem numbered_finalized (numbered : Numbered board)
    (found : board.world.find action.id = some row) (written : Finalized row.action action (some left)) :
    Numbered (board.finalized action left) := by
  obtain ⟨same, kept, status, transition⟩ := finalized_left written
  have named : ∀ row' : LedgerRow, row'.action.id = action.id → left.id = action.id := fun _ _ => kept.id.symm.trans same.id
  have open' : row.action.status ≠ .reversed := by
    rcases transition with ⟨pending, _⟩ | ⟨applied, _⟩
    · rw [pending]
      decide
    · rw [applied]
      decide
  have changed := numbered_changed action.id ({ · with action := left }) numbered named ?_ ?_
  · refine ⟨changed.listed, changed.held, changed.numbers, ?_, ?_⟩
    · intro id listed
      unfold ExpiryBoard.finalized at listed
      split at listed
      · rename_i reversed
        rcases List.mem_append.mp listed with old | new
        · exact changed.ended id old
        · cases List.mem_singleton.mp new
          exact ⟨_, find_changed board.world ({ · with action := left }) named found, reversed⟩
      · exact changed.ended id listed
    · unfold ExpiryBoard.finalized
      split
      · refine List.nodup_append.mpr ⟨numbered.once, List.nodup_singleton _, ?_⟩
        rintro id old other new rfl
        cases List.mem_singleton.mp new
        obtain ⟨row', found', ended⟩ := numbered.ended _ old
        cases found.symm.trans found'
        exact open' ended
      · exact numbered.once
  · exact fun _ _ => Nat.le_refl _
  · intro row' found' ended
    cases found.symm.trans found'
    exact absurd ended open'

theorem handed_snoc (there : (list ++ [last])[number]? = some found) :
    list[number]? = some found ∨ (number = list.length ∧ found = last) := by
  rcases Nat.lt_trichotomy number list.length with less | rfl | more
  · rw [List.getElem?_append_left less] at there
    exact .inl there
  · rw [List.getElem?_append_right (Nat.le_refl _), Nat.sub_self] at there
    exact .inr ⟨rfl, (Option.some.inj there).symm⟩
  · rw [List.getElem?_eq_none (by simp; omega)] at there
    cases there

theorem numbered_handed (numbered : Numbered board)
    (there : row ∈ board.world.ledger) : Numbered (board.handOut row leaseUntil got) := by
  have found := numbered.listed row there
  have changed := numbered_changed row.action.id (fun row =>
    { row with expiryAttempts := row.expiryAttempts + 1, expiryNextAttemptAt := some leaseUntil }) numbered
    (fun _ named => named) (fun _ _ => Nat.le_succ _) (fun _ _ ended => ended)
  have rowAfter : (board.handOut row leaseUntil got).world.find row.action.id =
      some { row with expiryAttempts := row.expiryAttempts + 1, expiryNextAttemptAt := some leaseUntil } :=
    find_changed board.world (fun row =>
      { row with expiryAttempts := row.expiryAttempts + 1, expiryNextAttemptAt := some leaseUntil }) (fun _ named => named) found
  refine ⟨changed.listed, ?_, ?_, changed.ended, numbered.once⟩
  · have fresh : board.handed.length ∉ board.held := fun listed => Nat.lt_irrefl _ (numbered.held.2 _ listed)
    have longer : (board.handOut row leaseUntil got).handed.length = board.handed.length + 1 := by
      simp [ExpiryBoard.handOut]
    rw [longer]
    cases got with
    | false => exact ⟨numbered.held.1, fun number listed => Nat.lt_succ_of_lt (numbered.held.2 number listed)⟩
    | true =>
      refine ⟨List.nodup_append.mpr ⟨numbered.held.1, List.nodup_singleton _, ?_⟩, ?_⟩
      · rintro number old other new rfl
        cases List.mem_singleton.mp new
        exact fresh old
      · intro number listed
        rcases List.mem_append.mp listed with old | new
        · exact Nat.lt_succ_of_lt (numbered.held.2 number old)
        · cases List.mem_singleton.mp new
          exact Nat.lt_succ_self _
  · intro number listed claim handed
    rcases handed_snoc handed with old | ⟨rfl, rfl⟩
    · have before : number ∈ board.held := by
        cases got with
        | false => exact listed
        | true =>
          rcases List.mem_append.mp listed with old' | new
          · exact old'
          · cases List.mem_singleton.mp new
            rw [List.getElem?_eq_none (Nat.le_refl _)] at old
            cases old
      obtain ⟨row', found', atMost, below⟩ := numbered.numbers number before claim old
      by_cases mine : claim.action.id = row.action.id
      · rw [mine] at found'
        cases found.symm.trans found'
        refine ⟨_, mine ▸ rowAfter, Nat.le_succ_of_le atMost, fun _ => Nat.lt_succ_of_le atMost⟩
      · obtain ⟨left, there', atMost', below'⟩ := changed.numbers number before claim old
        refine ⟨left, there', atMost', ?_⟩
        rintro ⟨later, claim', after, handed', same⟩
        rcases handed_snoc handed' with old' | ⟨_, rfl⟩
        · exact below' ⟨later, claim', after, old', same⟩
        · exact absurd same.symm mine
    · refine ⟨_, rowAfter, Nat.le_refl _, ?_⟩
      rintro ⟨later, claim', after, handed', same⟩
      rcases handed_snoc handed' with old' | ⟨rfl, _⟩
      · rw [List.getElem?_eq_none (Nat.le_of_lt after)] at old'
        cases old'
      · exact absurd after (Nat.lt_irrefl _)

variable {claim : ModerationExpiryClaim}

theorem attempts_retry : (rescheduled claim (.retry retryAt code) row).expiryAttempts = row.expiryAttempts := by
  unfold rescheduled
  split <;> rfl

theorem attempts_defer (retryAt : UtcMillis) (row : LedgerRow) : (rescheduled claim (.defer retryAt) row).expiryAttempts =
      if row.action.status = .applied ∧ row.expiryAttempts = claim.attempt then row.expiryAttempts - 1 else row.expiryAttempts := by
  unfold rescheduled
  split <;> rfl

theorem rescheduled_id {reschedule : ModerationExpiryReschedule} (row : LedgerRow)
    (named : row.action.id = claim.action.id) : (rescheduled claim reschedule row).action.id = claim.action.id :=
  (congrArg ModerationAction.id (rescheduled_action row)).trans named

theorem numbered_deferred {claim : ModerationExpiryClaim} {retryAt : UtcMillis} (numbered : Numbered board)
    (held : number ∈ board.held) (handed : board.handed[number]? = some claim)
    (meets : KeepsNumbers board (.reschedule number (.defer retryAt))) : Numbered ((board.moved claim (.defer retryAt)).letGo number) := by
  obtain ⟨row, found, _, below⟩ := numbered.numbers number held claim handed
  have ended : ∀ row', board.world.find claim.action.id = some row' → row'.action.status = .reversed →
      (rescheduled claim (.defer retryAt) row').action.status = .reversed :=
    fun row' _ reversed => (congrArg ModerationAction.status (rescheduled_action row')).trans reversed
  by_cases last : row.action.status = .applied ∧ row.expiryAttempts = claim.attempt
  · refine ⟨listed_change board.world numbered.listed (rescheduled_id), (numbered_let_go numbered).held,
      ?_, ?_, numbered.once⟩
    · intro other listed claim' handed'
      obtain ⟨different, there⟩ := (List.Nodup.mem_erase_iff numbered.held.1).mp listed
      obtain ⟨row', found', atMost, below'⟩ := numbered.numbers other there claim' handed'
      by_cases mine : claim'.action.id = claim.action.id
      · rw [mine] at found' below'
        cases found.symm.trans found'
        have after := find_changed board.world (rescheduled claim (.defer retryAt)) (rescheduled_id) found
        have earlier : other < number := by
          rcases Nat.lt_trichotomy other number with less | equal | more
          · exact less
          · exact absurd equal different
          · have := below ⟨other, claim', more, handed', mine⟩
            omega
        have less := below' ⟨number, claim, earlier, handed, rfl⟩
        have apart := meets claim row handed found last.1 last.2 other there different claim' handed' mine
        refine ⟨_, (congrArg _ mine).trans after, ?_, fun _ => ?_⟩
        · rw [attempts_defer, if_pos last]
          omega
        · rw [attempts_defer, if_pos last]
          omega
      · refine ⟨row', ?_, atMost, below'⟩
        refine (find_change board.world _ _ (rescheduled_id)).trans ?_
        rw [found', Option.map_some, if_neg]
        rw [(find_listed board.world found').2]
        exact mine
    · exact ended_changed numbered (rescheduled_id) ended
  · refine numbered_let_go (numbered_changed claim.action.id _ numbered (rescheduled_id) ?_ ended)
    intro row' found'
    cases found.symm.trans found'
    rw [attempts_defer, if_neg last]

theorem numbered_turn {turn : ExpiryTurn} (numbered : Numbered board) (meets : KeepsNumbers board turn)
    (turned : ExpiryTurns board turn next) : Numbered next := by
  cases turn with
  | reserve action =>
    rcases turned with rfl | ⟨none', rfl⟩
    · exact numbered
    · exact numbered_reserved action numbered none'
  | finalize action =>
    rcases turned with rfl | ⟨row, left, found, written, rfl⟩
    · exact numbered
    · exact numbered_finalized numbered found written
  | claim now leaseUntil =>
    rcases turned with rfl | ⟨row, there, _, got, rfl⟩
    · exact numbered
    · exact numbered_handed numbered there
  | reschedule number reschedule =>
    obtain ⟨held, claim, handed, rfl | rfl⟩ := turned
    · exact numbered_let_go numbered
    · cases reschedule with
      | retry retryAt code =>
        refine numbered_let_go (numbered_changed claim.action.id _ numbered (rescheduled_id) ?_ ?_)
        · exact fun row _ => Nat.le_of_eq (attempts_retry).symm
        · exact fun row _ reversed => (congrArg ModerationAction.status (rescheduled_action row)).trans reversed
      | defer retryAt => exact numbered_deferred numbered held handed meets
  | giveUp number =>
    cases turned
    exact numbered_let_go numbered

end

structure Unclaimed (board : ExpiryBoard) : Prop where
  listed : ∀ row ∈ board.world.ledger, board.world.find row.action.id = some row
  handed : board.handed = []
  held : board.held = []
  endings : board.endings = []

theorem unclaimed_numbered {board : ExpiryBoard} (unclaimed : Unclaimed board) : Numbered board := by
  obtain ⟨listed, handed, held, endings⟩ := unclaimed
  constructor
  · exact listed
  · simp [held]
  · simp [held]
  · simp [endings]
  · simp [endings]

theorem expiry_claims_are_fenced (start final : ExpiryBoard) (unclaimed : Unclaimed start) (turns : List ExpiryTurn)
    (run : Runs (Guarded KeepsNumbers ExpiryTurns) start turns final) : Fenced final ∧ final.endings.Nodup := by
  have numbered := runs_invariant Numbered (fun board turn next numbered turned => numbered_turn numbered turned.1 turned.2) (unclaimed_numbered unclaimed) run
  exact ⟨numbered_fenced numbered, numbered.once⟩

-- A mute that was due is claimed by two instances, the lease of the first having run
-- out; the second finds the lock taken and defers.
def dueMute : ModerationAction := ⟨⟨1⟩, none, ⟨1⟩, .mute, ⟨.principal, "p-2"⟩, .spam, 10, some 20, .applied, none, none⟩

def dueBoard : ExpiryBoard where
  world := ⟨10, ⟨1⟩, .publicLobby, ⟨⟨[], [], [], [], fun _ _ => true⟩, [], [], []⟩, [⟨dueMute, 0, none, none⟩], [], []⟩
  handed := []
  held := []
  endings := []

def claimedTwice : ExpiryBoard :=
  (dueBoard.handOut ⟨dueMute, 0, none, none⟩ 50 true).handOut ⟨dueMute, 1, some 50, none⟩ 90 true

theorem claimed_twice_run : Runs (Guarded KeepsNumbers ExpiryTurns) dueBoard [.claim 30 50, .claim 60 90] claimedTwice :=
  ⟨_, ⟨trivial, .inr ⟨_, List.mem_singleton.mpr rfl, by decide, true, rfl⟩⟩,
    claimedTwice, ⟨trivial, .inr ⟨_, List.mem_singleton.mpr rfl, by decide, true, rfl⟩⟩, rfl⟩

theorem claimed_twice_fenced : Fenced claimedTwice ∧ claimedTwice.endings.Nodup :=
  expiry_claims_are_fenced dueBoard claimedTwice ⟨by simp [dueBoard, ModerationWorld.find], rfl, rfl, rfl⟩ _ claimed_twice_run

theorem deferral_unfences : ¬ ∀ (start final : ExpiryBoard) (turns : List ExpiryTurn), Unclaimed start →
    Runs ExpiryTurns start turns final → Fenced final ∧ final.endings.Nodup := by
  intro claim
  have run : Runs ExpiryTurns dueBoard ([.claim 30 50, .claim 60 90] ++ [.reschedule 1 (.defer 70)])
      ((claimedTwice.moved ⟨dueMute, 2, none⟩ (.defer 70)).letGo 1) := by
    refine (runs_append ..).mpr ⟨claimedTwice, guarded_run _ _ _ _ _ claimed_twice_run, _, ?_, rfl⟩
    exact ⟨by decide, ⟨dueMute, 2, none⟩, rfl, .inr rfl⟩
  have fenced := (claim dueBoard _ _ ⟨by simp [dueBoard, ModerationWorld.find], rfl, rfl, rfl⟩ run).1
  have same := fenced 0 (by decide) ⟨dueMute, 1, none⟩ rfl ⟨1, ⟨dueMute, 2, none⟩, by decide, rfl, rfl⟩ (.retry 99 "matrix.timeout")
  have codes := congrArg (fun world : ModerationWorld => world.ledger.map LedgerRow.expiryFailureCode) same
  revert codes
  decide

end AgentRoom.Moderation
