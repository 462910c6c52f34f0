import AgentRoom.Domain.Basics
import AgentRoom.Library.Runs
import Mathlib.Data.List.Perm.Subperm

namespace AgentRoom.RoomAccess

open Library

structure JoinCodeAttemptPolicy where
  window : DurationMillis
  maxFailures : Nat

-- The row of one caller: a principal, a device or a source of network Agents.
structure AttemptWindow where
  startedAt : UtcMillis
  failureCount : Nat

section

variable (policy : JoinCodeAttemptPolicy)

def AttemptWindow.ends (window : AttemptWindow) : Nat := window.startedAt.value + policy.window.value

-- Whether the caller has to wait, and until when.
def attemptRetryAt (row : Option AttemptWindow) (now : UtcMillis) : Option UtcMillis :=
  row.bind fun window =>
    let ends := UtcMillis.ofNat (window.ends policy)
    if policy.maxFailures ≤ window.failureCount ∧ now < ends then some ends else none

def restarts (row : Option AttemptWindow) (now : UtcMillis) : Bool := row.all fun window => decide (window.ends policy ≤ now.value)

-- A window that is over starts again with this failure.
def recordAttemptFailure (row : Option AttemptWindow) (now : UtcMillis) : AttemptWindow :=
  match row with
  | none => ⟨now, 1⟩
  | some window => if window.ends policy ≤ now.value then ⟨now, 1⟩ else { window with failureCount := window.failureCount + 1 }

end

inductive AttemptStage where
  | starting
  | looking
  | recording
deriving DecidableEq

structure Attempt where
  time : UtcMillis
  wellFormed : Bool
  stage : AttemptStage

-- One caller: its row and its requests on the way. What happened is kept beside: the
-- times of the wrong secrets looked up, of the failures on record and of those that got
-- lost, and the windows' starts.
structure AttemptScene where
  row : Option AttemptWindow
  clock : UtcMillis
  attempts : List Attempt
  latest : UtcMillis
  wrong : List UtcMillis
  recorded : List UtcMillis
  lost : List UtcMillis
  windows : List UtcMillis

inductive AttemptTurn where
  | start (now : UtcMillis) (wellFormed : Bool)
  | readLimit (index : Nat)
  | lookUp (index : Nat) (found : Bool)
  | recordFailure (index : Nat)
  | cut (index : Nat)

namespace AttemptScene

variable (scene : AttemptScene)

def without (index : Nat) : AttemptScene := { scene with attempts := scene.attempts.eraseIdx index }

def advanced (index : Nat) (attempt : Attempt) (stage : AttemptStage) : AttemptScene :=
  { scene with attempts := { attempt with stage } :: scene.attempts.eraseIdx index }

def passed (index : Nat) (attempt : Attempt) : AttemptScene :=
  { scene.advanced index attempt .looking with latest := if scene.latest ≤ attempt.time then attempt.time else scene.latest }

def missed (index : Nat) (attempt : Attempt) : AttemptScene :=
  { scene.advanced index attempt .recording with wrong := scene.wrong ++ [attempt.time] }

def counting (policy : JoinCodeAttemptPolicy) (index : Nat) (attempt : Attempt) : AttemptScene :=
  { scene.without index with
    row := some (recordAttemptFailure policy scene.row attempt.time)
    recorded := scene.recorded ++ [attempt.time]
    windows := if restarts policy scene.row attempt.time then scene.windows ++ [attempt.time] else scene.windows }

def losing (index : Nat) (attempt : Attempt) : AttemptScene :=
  { scene.without index with lost := if attempt.stage = .recording then scene.lost ++ [attempt.time] else scene.lost }

def unsettled (times : UtcMillis → Bool) : Nat :=
  (scene.attempts.countP fun attempt => decide (attempt.stage ≠ .starting) && times attempt.time) + scene.lost.countP times

end AttemptScene

section

variable (policy : JoinCodeAttemptPolicy)

-- checked_link and checked_code: refused by the limit, ill-formed, found, or counted.
def AttemptTurns (scene : AttemptScene) : AttemptTurn → AttemptScene → Prop
  | .start now wellFormed, next => scene.clock ≤ now ∧
      next = { scene with clock := now, attempts := scene.attempts ++ [⟨now, wellFormed, .starting⟩] }
  | .readLimit index, next => ∃ attempt, scene.attempts[index]? = some attempt ∧ attempt.stage = .starting ∧
      next = match attemptRetryAt policy scene.row attempt.time with
        | some _ => scene.without index
        | none => if attempt.wellFormed then scene.passed index attempt else scene.without index
  | .lookUp index found, next => ∃ attempt, scene.attempts[index]? = some attempt ∧ attempt.stage = .looking ∧
      next = if found then scene.without index else scene.missed index attempt
  | .recordFailure index, next => ∃ attempt, scene.attempts[index]? = some attempt ∧ attempt.stage = .recording ∧
      next = scene.counting policy index attempt
  | .cut index, next => ∃ attempt, scene.attempts[index]? = some attempt ∧ next = scene.losing index attempt

def within (start : UtcMillis) (time : UtcMillis) : Bool := decide (start ≤ time ∧ time.value < start.value + policy.window.value)

def GuessesBounded (scene : AttemptScene) : Prop :=
  ∀ start ∈ scene.windows, scene.wrong.countP (within policy start) ≤ policy.maxFailures

def OnlyWrongCounted (scene : AttemptScene) : Prop := scene.recorded.Subperm scene.wrong

-- With that window exhausted a request that no later one overtook waits for its end, and
-- from then on only for failures of a window begun since.
def RefusedUntilTheEnd (window : AttemptWindow) (scene : AttemptScene) : Prop :=
  let ends := UtcMillis.ofNat (window.ends policy)
  ∀ time, scene.latest ≤ time → (time < ends → attemptRetryAt policy scene.row time = some ends) ∧
    (ends ≤ time → attemptRetryAt policy scene.row time ≠ none →
      ∃ later, scene.row = some later ∧ window.ends policy ≤ later.startedAt.value)

def since (start : Nat) (time : UtcMillis) : Bool := decide (start ≤ time.value)

def nextWindow (row : Option AttemptWindow) : Nat := row.elim 0 (AttemptWindow.ends policy)

-- Those that are not settled leave room for one more, in the window that runs or in
-- the one that comes next.
def RoomForOne (scene : AttemptScene) (time : UtcMillis) : Prop :=
  (∀ window, scene.row = some window → time.value < window.ends policy →
      window.failureCount + scene.unsettled (since window.startedAt.value) < policy.maxFailures) ∧
    (nextWindow policy scene.row ≤ time.value → scene.unsettled (since (nextWindow policy scene.row)) < policy.maxFailures)

-- The limit is read in the order of the requests' times, and with room for one more.
def ReadsInTurn (scene : AttemptScene) : AttemptTurn → Prop
  | .readLimit index => ∀ attempt, scene.attempts[index]? = some attempt → attempt.wellFormed = true →
      attemptRetryAt policy scene.row attempt.time = none → scene.latest ≤ attempt.time ∧ RoomForOne policy scene attempt.time
  | _ => True

structure Counted (scene : AttemptScene) : Prop where
  times : (∀ time ∈ scene.recorded, time ≤ scene.latest) ∧ (∀ time ∈ scene.lost, time ≤ scene.latest) ∧
    ∀ attempt ∈ scene.attempts, attempt.stage ≠ .starting → attempt.time ≤ scene.latest
  windows : ∀ start ∈ scene.windows, ∃ window, scene.row = some window ∧
    (start = window.startedAt ∨ start.value + policy.window.value ≤ window.startedAt.value)
  running : ∀ window, scene.row = some window → window.startedAt ≤ scene.latest ∧ window.startedAt ∈ scene.windows ∧
    scene.recorded.countP (since window.startedAt.value) ≤ window.failureCount
  early : ∀ time ∈ scene.recorded, time.value < nextWindow policy scene.row
  bounded : ∀ start ∈ scene.windows, scene.recorded.countP (within policy start) + scene.unsettled (within policy start) ≤ policy.maxFailures
  coming : scene.unsettled (since (nextWindow policy scene.row)) ≤ policy.maxFailures

end

theorem count_erase_idx (holds : α → Bool) (list : List α) (index : Nat) (item : α) (found : list[index]? = some item) :
    list.countP holds = (if holds item then 1 else 0) + (list.eraseIdx index).countP holds := by
  induction list generalizing index with
  | nil => cases found
  | cons head rest ih =>
    cases index with
    | zero =>
      cases found
      rw [List.countP_cons, List.eraseIdx_cons_zero]
      omega
    | succ index =>
      have later := ih index found
      rw [List.countP_cons, List.eraseIdx_cons_succ, List.countP_cons, later]
      omega

section

variable {policy : JoinCodeAttemptPolicy} (scene : AttemptScene) (index : Nat) (attempt : Attempt)

theorem unsettled_without (found : scene.attempts[index]? = some attempt) (times : UtcMillis → Bool) :
    scene.unsettled times = (if attempt.stage ≠ .starting ∧ times attempt.time = true then 1 else 0) + (scene.without index).unsettled times := by
  unfold AttemptScene.unsettled AttemptScene.without
  rw [count_erase_idx _ scene.attempts index attempt found]
  simp only [Bool.and_eq_true, decide_eq_true_eq]
  omega

theorem unsettled_advanced (stage : AttemptStage) (past : stage ≠ .starting)
    (times : UtcMillis → Bool) : (scene.advanced index attempt stage).unsettled times =
      (if times attempt.time then 1 else 0) + (scene.without index).unsettled times := by
  simp only [AttemptScene.unsettled, AttemptScene.advanced, AttemptScene.without, List.countP_cons]
  simp only [ne_eq, past, not_false_eq_true, decide_true, Bool.true_and]
  omega

theorem counted_fewer (counted : Counted policy scene) (row : next.row = scene.row)
    (recorded : next.recorded = scene.recorded) (windows : next.windows = scene.windows) (lost : next.lost = scene.lost)
    (latest : next.latest = scene.latest) (attempts : ∀ attempt ∈ next.attempts, attempt.stage ≠ .starting → attempt.time ≤ scene.latest)
    (fewer : ∀ times, next.unsettled times ≤ scene.unsettled times) : Counted policy next := by
  constructor
  · rw [recorded, lost, latest]
    exact ⟨counted.times.1, counted.times.2.1, attempts⟩
  · rw [windows, row]
    exact counted.windows
  · rw [row, latest, windows, recorded]
    exact counted.running
  · rw [recorded, row]
    exact counted.early
  · rw [windows, recorded]
    intro start listed
    have := counted.bounded start listed
    have := fewer (within policy start)
    omega
  · rw [row]
    exact Nat.le_trans (fewer _) counted.coming

theorem counted_without (found : scene.attempts[index]? = some attempt) (counted : Counted policy scene) :
    Counted policy (scene.without index) := by
  refine counted_fewer scene counted rfl rfl rfl rfl rfl ?_ ?_
  · exact fun other listed => counted.times.2.2 other (List.mem_of_mem_eraseIdx listed)
  · intro times
    have := unsettled_without scene index attempt found times
    omega

theorem unsettled_mono (times weaker : UtcMillis → Bool) (implies : ∀ time, times time = true → weaker time = true) :
    scene.unsettled times ≤ scene.unsettled weaker := by
  refine Nat.add_le_add (List.countP_mono_left fun attempt _ => ?_) (List.countP_mono_left fun time _ => implies time)
  simp only [Bool.and_eq_true]
  exact fun ⟨past, holds⟩ => ⟨past, implies _ holds⟩

theorem counted_started (counted : Counted policy scene) :
    Counted policy { scene with clock := now, attempts := scene.attempts ++ [⟨now, wellFormed, .starting⟩] } := by
  refine counted_fewer scene counted rfl rfl rfl rfl rfl ?_ ?_
  · intro other listed past
    rcases List.mem_append.mp listed with old | new
    · exact counted.times.2.2 other old past
    · cases List.mem_singleton.mp new
      exact absurd rfl past
  · intro times
    simp [AttemptScene.unsettled]

section

variable (found : scene.attempts[index]? = some attempt)
include found

theorem counted_looked (looking : attempt.stage = .looking)
    (counted : Counted policy scene) : Counted policy (scene.missed index attempt) := by
  refine counted_fewer scene counted rfl rfl rfl rfl rfl ?_ ?_
  · intro other listed past
    rcases List.mem_cons.mp listed with rfl | old
    · exact counted.times.2.2 attempt (List.mem_of_getElem? found) (by rw [looking]; decide)
    · exact counted.times.2.2 other (List.mem_of_mem_eraseIdx old) past
  · intro times
    change (scene.advanced index attempt .recording).unsettled times ≤ _
    rw [unsettled_advanced scene index attempt .recording (by decide), unsettled_without scene index attempt found, looking]
    simp

theorem counted_losing (counted : Counted policy scene) : Counted policy (scene.losing index attempt) := by
  by_cases recording : attempt.stage = .recording
  · have lost : (scene.losing index attempt).lost = scene.lost ++ [attempt.time] := by simp [AttemptScene.losing, recording]
    have same : ∀ times, (scene.losing index attempt).unsettled times = scene.unsettled times := by
      intro times
      rw [unsettled_without scene index attempt found times, recording]
      simp only [AttemptScene.unsettled, lost, List.countP_append, List.countP_singleton]
      simp only [AttemptScene.losing, AttemptScene.without, ne_eq, reduceCtorEq, not_false_eq_true, true_and]
      omega
    refine ⟨⟨counted.times.1, ?_, ?_⟩, counted.windows, counted.running, counted.early, ?_, ?_⟩
    · intro time listed
      rw [lost] at listed
      rcases List.mem_append.mp listed with old | new
      · exact counted.times.2.1 time old
      · cases List.mem_singleton.mp new
        exact counted.times.2.2 attempt (List.mem_of_getElem? found) (by rw [recording]; decide)
    · exact fun other listed => counted.times.2.2 other (List.mem_of_mem_eraseIdx listed)
    · intro start listed
      rw [same]
      exact counted.bounded start listed
    · rw [same]
      exact counted.coming
  · have plain : scene.losing index attempt = scene.without index := by simp [AttemptScene.losing, recording, AttemptScene.without]
    rw [plain]
    exact counted_without scene index attempt found counted

theorem counted_passed (starting : attempt.stage = .starting)
    (inTurn : scene.latest ≤ attempt.time) (room : RoomForOne policy scene attempt.time) (counted : Counted policy scene) :
    Counted policy (scene.passed index attempt) := by
  have more : ∀ times, (scene.passed index attempt).unsettled times = (if times attempt.time then 1 else 0) + scene.unsettled times := by
    intro times
    have left : scene.unsettled times = (scene.without index).unsettled times := by
      rw [unsettled_without scene index attempt found times, starting]
      simp
    rw [left]
    exact unsettled_advanced scene index attempt .looking (by decide) times
  have latest : (scene.passed index attempt).latest = attempt.time := if_pos inTurn
  refine ⟨⟨?_, ?_, ?_⟩, counted.windows, ?_, counted.early, ?_, ?_⟩
  · exact fun time listed => latest ▸ UtcMillis.le_trans _ _ _ (counted.times.1 time listed) inTurn
  · exact fun time listed => latest ▸ UtcMillis.le_trans _ _ _ (counted.times.2.1 time listed) inTurn
  · intro other listed past
    rw [latest]
    rcases List.mem_cons.mp listed with rfl | old
    · exact UtcMillis.le_refl _
    · exact UtcMillis.le_trans _ _ _ (counted.times.2.2 other (List.mem_of_mem_eraseIdx old) past) inTurn
  · intro window row
    obtain ⟨started, listed, few⟩ := counted.running window row
    exact ⟨latest ▸ UtcMillis.le_trans _ _ _ started inTurn, listed, few⟩
  · intro start listed
    rw [more]
    by_cases inside : within policy start attempt.time = true
    · obtain ⟨from', until'⟩ := of_decide_eq_true inside
      obtain ⟨window, row, same | over'⟩ := counted.windows start listed
      · obtain ⟨_, _, few⟩ := counted.running window row
        have free := room.1 window row (by rw [AttemptWindow.ends, ← same]; exact until')
        have weaker : ∀ time, within policy start time = true → since window.startedAt.value time = true := by
          intro time holds
          exact decide_eq_true (same ▸ (of_decide_eq_true holds).1)
        have fewer := List.countP_mono_left fun time (_ : time ∈ scene.recorded) => weaker time
        have fewer' := unsettled_mono scene _ _ weaker
        change scene.recorded.countP (within policy start) + _ ≤ _
        rw [if_pos inside]
        omega
      · have started := (counted.running window row).1
        have late := UtcMillis.le_trans _ _ _ started inTurn
        rw [UtcMillis.le_iff] at late
        omega
    · have := counted.bounded start listed
      change scene.recorded.countP (within policy start) + _ ≤ _
      rw [if_neg inside]
      omega
  · change (scene.passed index attempt).unsettled (since (nextWindow policy scene.row)) ≤ policy.maxFailures
    rw [more]
    by_cases after : since (nextWindow policy scene.row) attempt.time = true
    · have free := room.2 (of_decide_eq_true after)
      rw [if_pos after]
      omega
    · have := counted.coming
      rw [if_neg after]
      omega

section

variable (recording : attempt.stage = .recording)
include recording

theorem counting_sum (times : UtcMillis → Bool) :
    scene.unsettled times = (if times attempt.time then 1 else 0) + (scene.counting policy index attempt).unsettled times ∧
      (scene.counting policy index attempt).recorded.countP times = scene.recorded.countP times + if times attempt.time then 1 else 0 := by
  constructor
  · rw [unsettled_without scene index attempt found times, recording]
    simp [AttemptScene.counting, AttemptScene.without, AttemptScene.unsettled]
  · simp [AttemptScene.counting, List.countP_append, List.countP_singleton]

section

variable (counted : Counted policy scene)
include counted

theorem counting_times
    : attempt.time ≤ scene.latest ∧
      (∀ time ∈ scene.recorded ++ [attempt.time], time ≤ scene.latest) ∧ (∀ time ∈ scene.lost, time ≤ scene.latest) ∧
      ∀ other ∈ scene.attempts.eraseIdx index, other.stage ≠ .starting → other.time ≤ scene.latest := by
  have before : attempt.time ≤ scene.latest :=
    counted.times.2.2 attempt (List.mem_of_getElem? found) (by rw [recording]; decide)
  refine ⟨before, fun time listed => ?_, counted.times.2.1, fun other listed => counted.times.2.2 other (List.mem_of_mem_eraseIdx listed)⟩
  rcases List.mem_append.mp listed with old | new
  · exact counted.times.1 time old
  · exact List.mem_singleton.mp new ▸ before

theorem counted_restarted (fresh : restarts policy scene.row attempt.time = true) :
    Counted policy (scene.counting policy index attempt) := by
  obtain ⟨before, times⟩ := counting_times scene index attempt found recording counted
  have sum := @counting_sum policy scene index attempt found recording
  have over' : nextWindow policy scene.row ≤ attempt.time.value := by
    cases row : scene.row with
    | none => exact Nat.zero_le _
    | some window =>
      rw [row] at fresh
      exact of_decide_eq_true fresh
  have row : (scene.counting policy index attempt).row = some ⟨attempt.time, 1⟩ := by
    change some (recordAttemptFailure policy scene.row attempt.time) = _
    cases row : scene.row with
    | none => rfl
    | some window =>
      rw [row] at over'
      exact congrArg some (if_pos over')
  have windows : (scene.counting policy index attempt).windows = scene.windows ++ [attempt.time] := if_pos fresh
  have none' : ∀ times, (∀ time, times time = true → attempt.time ≤ time) → scene.recorded.countP times = 0 := by
    intro times late
    refine List.countP_eq_zero.mpr fun time listed holds => ?_
    have := counted.early time listed
    have := (UtcMillis.le_iff).mp (late time holds)
    omega
  have coming := counted.coming
  have later := sum (since (nextWindow policy scene.row))
  rw [show since (nextWindow policy scene.row) attempt.time = true from decide_eq_true over', if_pos rfl] at later
  have window := policy.window.positive
  refine ⟨times, ?_, ?_, ?_, ?_, ?_⟩
  · intro start listed
    rw [windows] at listed
    refine ⟨_, row, ?_⟩
    rcases List.mem_append.mp listed with old | new
    · obtain ⟨window, running, same | earlier⟩ := counted.windows start old
      · rw [running] at over'
        exact .inr (same ▸ over')
      · have := (counted.running window running).1
        rw [running] at over'
        have : window.startedAt.value + policy.window.value ≤ attempt.time.value := over'
        exact .inr (by simp only; omega)
    · exact .inl (List.mem_singleton.mp new)
  · intro window running
    cases row.symm.trans running
    refine ⟨before, ?_, ?_⟩
    · rw [windows]
      exact List.mem_concat_self
    · rw [(sum _).2, none' (since attempt.time.value) fun time holds => of_decide_eq_true holds]
      simp only
      split <;> omega
  · intro time listed
    rw [row]
    rcases List.mem_append.mp listed with old | new
    · have := counted.early time old
      change time.value < attempt.time.value + policy.window.value
      omega
    · rw [List.mem_singleton.mp new]
      change attempt.time.value < attempt.time.value + policy.window.value
      omega
  · intro start listed
    rw [windows] at listed
    rcases List.mem_append.mp listed with old | new
    · have := counted.bounded start old
      have := sum (within policy start)
      omega
    · rw [List.mem_singleton.mp new, (sum _).2, none' _ fun time holds => (of_decide_eq_true holds).1]
      have fewer := unsettled_mono (scene.counting policy index attempt) (within policy attempt.time)
        (since (nextWindow policy scene.row)) (fun time holds => decide_eq_true
          (Nat.le_trans over' ((UtcMillis.le_iff).mp (of_decide_eq_true holds).1)))
      split <;> omega
  · rw [row]
    have fewer := unsettled_mono (scene.counting policy index attempt) (since (nextWindow policy (some ⟨attempt.time, 1⟩)))
      (since (nextWindow policy scene.row)) (fun time holds => decide_eq_true (by
        have : attempt.time.value + policy.window.value ≤ time.value := of_decide_eq_true holds
        omega))
    omega

theorem counted_continued (fresh : ¬ restarts policy scene.row attempt.time = true) :
    Counted policy (scene.counting policy index attempt) := by
  obtain ⟨before, times⟩ := counting_times scene index attempt found recording counted
  have sum := @counting_sum policy scene index attempt found recording
  cases running : scene.row with
  | none =>
    rw [running] at fresh
    exact absurd rfl fresh
  | some window =>
    rw [running] at fresh
    have inside : attempt.time.value < window.ends policy := by simpa [restarts] using fresh
    have row : (scene.counting policy index attempt).row = some { window with failureCount := window.failureCount + 1 } := by
      change some (recordAttemptFailure policy scene.row attempt.time) = _
      rw [running]
      exact congrArg some (if_neg (Nat.not_le.mpr inside))
    have next : nextWindow policy (scene.counting policy index attempt).row = nextWindow policy scene.row := by
      rw [row, running]
      rfl
    have windows : (scene.counting policy index attempt).windows = scene.windows := if_neg (by rw [running]; exact fresh)
    obtain ⟨started, there, few⟩ := counted.running window running
    refine ⟨times, ?_, ?_, ?_, ?_, ?_⟩
    · intro start listed
      rw [windows] at listed
      obtain ⟨window', running', which⟩ := counted.windows start listed
      cases running.symm.trans running'
      exact ⟨_, row, which⟩
    · intro window' running'
      cases row.symm.trans running'
      refine ⟨started, windows ▸ there, ?_⟩
      rw [(sum _).2]
      simp only
      split <;> omega
    · intro time listed
      rw [next]
      rcases List.mem_append.mp listed with old | new
      · exact counted.early time old
      · rw [List.mem_singleton.mp new, running]
        exact inside
    · intro start listed
      rw [windows] at listed
      have := counted.bounded start listed
      have := sum (within policy start)
      omega
    · rw [next]
      have := counted.coming
      have := (sum (since (nextWindow policy scene.row))).1
      omega

theorem counted_counting
    : Counted policy (scene.counting policy index attempt) := by
  by_cases fresh : restarts policy scene.row attempt.time = true
  · exact counted_restarted scene index attempt found recording counted fresh
  · exact counted_continued scene index attempt found recording counted fresh

end

end

end

theorem counted_turn (counted : Counted policy scene) (inTurn : ReadsInTurn policy scene turn)
    (turned : AttemptTurns policy scene turn next) : Counted policy next := by
  cases turn with
  | start now wellFormed =>
    obtain ⟨_, rfl⟩ := turned
    exact counted_started scene counted
  | readLimit index =>
    obtain ⟨attempt, found, starting, rfl⟩ := turned
    cases limit : attemptRetryAt policy scene.row attempt.time with
    | some retryAt => exact counted_without scene index attempt found counted
    | none =>
      by_cases wellFormed : attempt.wellFormed = true
      · obtain ⟨ordered, room⟩ := inTurn attempt found wellFormed limit
        simp only [if_pos wellFormed]
        exact counted_passed scene index attempt found starting ordered room counted
      · simp only [if_neg wellFormed]
        exact counted_without scene index attempt found counted
  | lookUp index there =>
    obtain ⟨attempt, found, looking, rfl⟩ := turned
    cases there with
    | true => exact counted_without scene index attempt found counted
    | false => exact counted_looked scene index attempt found looking counted
  | recordFailure index =>
    obtain ⟨attempt, found, recording, rfl⟩ := turned
    exact counted_counting scene index attempt found recording counted
  | cut index =>
    obtain ⟨attempt, found, rfl⟩ := turned
    exact counted_losing scene index attempt found counted

def Told (scene : AttemptScene) : Prop := ∀ times : UtcMillis → Bool, scene.wrong.countP times =
  scene.recorded.countP times + (scene.attempts.countP fun attempt => decide (attempt.stage = .recording) && times attempt.time) +
    scene.lost.countP times

theorem told_without (found : scene.attempts[index]? = some attempt) (before : attempt.stage ≠ .recording) (told : Told scene) :
    Told (scene.without index) := by
  intro times
  have left := count_erase_idx (fun attempt => decide (attempt.stage = .recording) && times attempt.time) _ index attempt found
  rw [decide_eq_false before, Bool.false_and] at left
  rw [AttemptScene.without, told times, left]
  simp

theorem told_turn (next : AttemptScene) (turn : AttemptTurn) (told : Told scene) (turned : AttemptTurns policy scene turn next) :
    Told next := by
  cases turn with
  | start now wellFormed =>
    obtain ⟨_, rfl⟩ := turned
    intro times
    simp only [told times, List.countP_append]
    rfl
  | readLimit index =>
    obtain ⟨attempt, found, starting, rfl⟩ := turned
    have left := told_without scene index attempt found (by rw [starting]; decide) told
    cases attemptRetryAt policy scene.row attempt.time with
    | some retryAt => exact left
    | none =>
      by_cases wellFormed : attempt.wellFormed = true
      · intro times
        simp only [if_pos wellFormed, AttemptScene.passed, AttemptScene.advanced, List.countP_cons]
        exact left times
      · simp only [if_neg wellFormed]
        exact left
  | lookUp index there =>
    obtain ⟨attempt, found, looking, rfl⟩ := turned
    have left := told_without scene index attempt found (by rw [looking]; decide) told
    cases there with
    | true => exact left
    | false =>
      intro times
      have one := left times
      simp only [AttemptScene.without] at one
      simp only [AttemptScene.missed, AttemptScene.advanced, Bool.false_eq_true, if_false, List.countP_append, List.countP_cons,
        List.countP_nil, decide_true, Bool.true_and]
      omega
  | recordFailure index =>
    obtain ⟨attempt, found, recording, rfl⟩ := turned
    intro times
    have left := count_erase_idx (fun attempt => decide (attempt.stage = .recording) && times attempt.time) _ index attempt found
    rw [decide_eq_true recording, Bool.true_and] at left
    simp only [AttemptScene.counting, AttemptScene.without, told times, left, List.countP_append, List.countP_singleton]
    omega
  | cut index =>
    obtain ⟨attempt, found, rfl⟩ := turned
    by_cases recording : attempt.stage = .recording
    · intro times
      have left := count_erase_idx (fun attempt => decide (attempt.stage = .recording) && times attempt.time) _ index attempt found
      rw [decide_eq_true recording, Bool.true_and] at left
      simp only [AttemptScene.losing, AttemptScene.without, if_pos recording, told times, left, List.countP_append,
        List.countP_singleton]
      omega
    · have plain : scene.losing index attempt = scene.without index := by simp [AttemptScene.losing, recording, AttemptScene.without]
      rw [plain]
      exact told_without scene index attempt found recording told

theorem only_wrong_counted (told : Told scene) : OnlyWrongCounted scene := by
  rw [OnlyWrongCounted, List.subperm_ext_iff]
  intro time _
  have := told (· == time)
  simp only [List.count]
  omega

-- Those to be recorded and those that got lost are not settled.
theorem guesses_bounded (told : Told scene) (counted : Counted policy scene) : GuessesBounded policy scene := by
  intro start listed
  have bounded := counted.bounded start listed
  rw [told (within policy start)]
  have past : ∀ attempt ∈ scene.attempts, (decide (attempt.stage = .recording) && within policy start attempt.time) = true →
      (decide (attempt.stage ≠ .starting) && within policy start attempt.time) = true := by
    intro attempt _ coming
    rw [Bool.and_eq_true, decide_eq_true_eq] at coming ⊢
    exact ⟨by rw [coming.1]; decide, coming.2⟩
  have fewer := List.countP_mono_left past
  unfold AttemptScene.unsettled at bounded
  omega

def NoneLater (scene : AttemptScene) : Prop := ∀ attempt ∈ scene.attempts, attempt.stage ≠ .starting → attempt.time ≤ scene.latest

theorem none_later_without (early : NoneLater scene) : NoneLater (scene.without index) :=
  fun other listed => early other (List.mem_of_mem_eraseIdx listed)

theorem none_later_turn (early : NoneLater scene) (turned : AttemptTurns policy scene turn next) :
    NoneLater next ∧ scene.latest ≤ next.latest ∧
      (next.row = scene.row ∨ ∃ time, time ≤ next.latest ∧ next.row = some (recordAttemptFailure policy scene.row time)) := by
  have same := UtcMillis.le_refl scene.latest
  cases turn with
  | start now wellFormed =>
    obtain ⟨_, rfl⟩ := turned
    refine ⟨fun other listed past => ?_, same, .inl rfl⟩
    rcases List.mem_append.mp listed with old | new
    · exact early other old past
    · cases List.mem_singleton.mp new
      exact absurd rfl past
  | readLimit index =>
    obtain ⟨attempt, found, starting, rfl⟩ := turned
    have left := none_later_without scene index early
    split
    · exact ⟨left, same, .inl rfl⟩
    · split
      · have onward : scene.latest ≤ (scene.passed index attempt).latest ∧ attempt.time ≤ (scene.passed index attempt).latest := by
          simp only [AttemptScene.passed, UtcMillis.le_iff]
          split <;> omega
        refine ⟨fun other listed past => ?_, onward.1, .inl rfl⟩
        rcases List.mem_cons.mp listed with rfl | old
        · exact onward.2
        · exact UtcMillis.le_trans _ _ _ (left other old past) onward.1
      · exact ⟨left, same, .inl rfl⟩
  | lookUp index there =>
    obtain ⟨attempt, found, looking, rfl⟩ := turned
    split
    · exact ⟨none_later_without scene index early, same, .inl rfl⟩
    · refine ⟨fun other listed past => ?_, same, .inl rfl⟩
      rcases List.mem_cons.mp listed with rfl | old
      · exact early attempt (List.mem_of_getElem? found) (by rw [looking]; decide)
      · exact none_later_without scene index early other old past
  | recordFailure index =>
    obtain ⟨attempt, found, recording, rfl⟩ := turned
    exact ⟨none_later_without scene index early, same,
      .inr ⟨attempt.time, early attempt (List.mem_of_getElem? found) (by rw [recording]; decide), rfl⟩⟩
  | cut index =>
    obtain ⟨attempt, found, rfl⟩ := turned
    exact ⟨none_later_without scene index early, same, .inl rfl⟩

-- The row holds that window still, or one that began at its end or later.
def Succeeds (policy : JoinCodeAttemptPolicy) (window : AttemptWindow) (scene : AttemptScene) : Prop :=
  ∃ row, scene.row = some row ∧ (row.startedAt = window.startedAt ∧ window.failureCount ≤ row.failureCount ∨
    window.ends policy ≤ row.startedAt.value ∧ row.startedAt ≤ scene.latest)

theorem succeeds_turn (early : NoneLater scene) (succeeds : Succeeds policy window scene)
    (turned : AttemptTurns policy scene turn next) : Succeeds policy window next := by
  obtain ⟨_, onward, same | ⟨time, past, counted⟩⟩ := none_later_turn scene early turned
  · obtain ⟨row, found, stands | (⟨begun, past⟩)⟩ := succeeds
    · exact ⟨row, same.trans found, .inl stands⟩
    · exact ⟨row, same.trans found, .inr ⟨begun, UtcMillis.le_trans _ _ _ past onward⟩⟩
  · obtain ⟨row, found, which⟩ := succeeds
    rw [found] at counted
    refine ⟨_, counted, ?_⟩
    simp only [recordAttemptFailure]
    by_cases over' : row.ends policy ≤ time.value
    · rw [if_pos over']
      refine .inr ⟨Nat.le_trans ?_ over', past⟩
      rcases which with ⟨started, _⟩ | ⟨begun, _⟩
      · exact Nat.le_of_eq (by rw [AttemptWindow.ends, AttemptWindow.ends, started])
      · exact Nat.le_trans begun (Nat.le_add_right ..)
    · rw [if_neg over']
      rcases which with ⟨started, fewer⟩ | ⟨begun, latest⟩
      · exact .inl ⟨started, Nat.le_succ_of_le fewer⟩
      · exact .inr ⟨begun, UtcMillis.le_trans _ _ _ latest onward⟩

theorem refused_until_the_end (succeeds : Succeeds policy window scene) (exhausted : policy.maxFailures ≤ window.failureCount) :
    RefusedUntilTheEnd policy window scene := by
  obtain ⟨row, found, which⟩ := succeeds
  intro time inOrder
  rw [found]
  rcases which with ⟨started, fewer⟩ | ⟨begun, early⟩
  · have same : row.ends policy = window.ends policy := by rw [AttemptWindow.ends, AttemptWindow.ends, started]
    refine ⟨fun soon => ?_, fun late waits => absurd (if_neg fun ⟨_, soon⟩ => ?_) waits⟩
    · exact (if_pos ⟨Nat.le_trans exhausted fewer, same.symm ▸ soon⟩).trans (by rw [same])
    · exact (UtcMillis.not_lt_iff time _).mpr late (same ▸ soon)
  · refine ⟨fun soon => ?_, fun _ _ => ⟨row, rfl, begun⟩⟩
    have before := UtcMillis.lt_iff.mp (UtcMillis.lt_of_le_of_lt _ _ _ (UtcMillis.le_trans _ _ _ early inOrder) soon)
    exact absurd (Nat.lt_of_le_of_lt begun before) (Nat.not_lt.mpr (Nat.min_le_left ..))

end

structure Unseen (scene : AttemptScene) : Prop where
  row : scene.row = none
  attempts : scene.attempts = []
  wrong : scene.wrong = []
  recorded : scene.recorded = []
  lost : scene.lost = []
  windows : scene.windows = []

theorem guessing_is_bounded (policy : JoinCodeAttemptPolicy) (start reached final : AttemptScene) (unseen : Unseen start)
    (turns rest : List AttemptTurn) :
    (Runs (AttemptTurns policy) start turns reached → OnlyWrongCounted reached ∧
      ∀ window, reached.row = some window → policy.maxFailures ≤ window.failureCount →
        Runs (AttemptTurns policy) reached rest final → RefusedUntilTheEnd policy window final) ∧
      (Runs (Guarded (ReadsInTurn policy) (AttemptTurns policy)) start turns reached → GuessesBounded policy reached) := by
  obtain ⟨row, attempts, wrong, recorded, lost, windows⟩ := unseen
  have told : Told start := fun times => by simp [attempts, wrong, recorded, lost]
  have counted : Counted policy start := by
    constructor <;> simp [row, attempts, recorded, lost, windows, AttemptScene.unsettled]
  have early : NoneLater start := by simp [NoneLater, attempts]
  have tells (run : Runs (AttemptTurns policy) start turns reached) : Told reached :=
    runs_invariant Told (fun scene turn next => told_turn scene next turn) told run
  constructor
  · intro run
    refine ⟨only_wrong_counted reached (tells run), fun window found exhausted onward => ?_⟩
    have there := runs_invariant NoneLater (fun scene turn next held turned => (none_later_turn scene held turned).1) early run
    have follows := runs_invariant (fun scene => NoneLater scene ∧ Succeeds policy window scene)
      (fun scene turn next held turned => ⟨(none_later_turn scene held.1 turned).1, succeeds_turn scene held.1 held.2 turned⟩)
      ⟨there, window, found, .inl ⟨rfl, Nat.le_refl _⟩⟩ onward
    exact refused_until_the_end final follows.2 exhausted
  · intro run
    have counts := runs_invariant (Counted policy) (fun scene turn next counted turned =>
      counted_turn scene counted turned.1 turned.2) counted run
    exact guesses_bounded reached (tells (guarded_run _ _ _ _ _ run)) counts

def onceAnHour : JoinCodeAttemptPolicy := ⟨3600000, 1⟩

def unseenCaller : AttemptScene := ⟨none, 10, [], 10, [], [], [], []⟩

theorem unseen_caller : Unseen unseenCaller := ⟨rfl, rfl, rfl, rfl, rfl, rfl⟩

def wrongOnce : List AttemptTurn := [.start 20 true, .readLimit 0, .lookUp 0 false, .recordFailure 0, .start 30 true, .readLimit 0]

def refusedCaller : AttemptScene := ⟨some ⟨20, 1⟩, 30, [], 20, [20], [20], [], [20]⟩

theorem wrong_once_run : Runs (Guarded (ReadsInTurn onceAnHour) (AttemptTurns onceAnHour)) unseenCaller wrongOnce refusedCaller := by
  refine ⟨_, ⟨trivial, by decide, rfl⟩, _, ⟨?_, _, rfl, rfl, rfl⟩, _, ⟨trivial, _, rfl, rfl, rfl⟩, _, ⟨trivial, _, rfl, rfl, rfl⟩, _,
    ⟨trivial, by decide, rfl⟩, _, ⟨?_, _, rfl, rfl, rfl⟩, rfl⟩
  · intro attempt found _ _
    cases found
    exact ⟨by decide, ⟨fun window row _ => (nomatch row), by decide⟩⟩
  · intro attempt found _ waits
    cases found
    exact absurd waits (by decide)

def waitingCaller : AttemptScene := { refusedCaller with clock := 40, attempts := [⟨40, true, .starting⟩] }

theorem wrong_once_bounded : OnlyWrongCounted refusedCaller ∧ RefusedUntilTheEnd onceAnHour ⟨20, 1⟩ waitingCaller ∧
    GuessesBounded onceAnHour refusedCaller := by
  have bounded := guessing_is_bounded onceAnHour unseenCaller refusedCaller waitingCaller unseen_caller wrongOnce [.start 40 true]
  have both := bounded.1 (guarded_run _ _ _ _ _ wrong_once_run)
  exact ⟨both.1, both.2 _ rfl (Nat.le_refl _) ⟨_, ⟨by decide, rfl⟩, rfl⟩, bounded.2 wrong_once_run⟩

def guessTwice : List AttemptTurn :=
  [.start 20 true, .start 20 true, .readLimit 0, .readLimit 1, .lookUp 0 false, .lookUp 1 false, .recordFailure 0, .recordFailure 0]

def overGuessed : AttemptScene := ⟨some ⟨20, 2⟩, 20, [], 20, [20, 20], [20, 20], [], [20]⟩

theorem overlapping_guesses_exceed : ¬ ∀ (policy : JoinCodeAttemptPolicy) (start final : AttemptScene) (turns : List AttemptTurn),
    Unseen start → Runs (AttemptTurns policy) start turns final → GuessesBounded policy final := by
  intro claim
  have run : Runs (AttemptTurns onceAnHour) unseenCaller guessTwice overGuessed :=
    ⟨_, ⟨by decide, rfl⟩, _, ⟨by decide, rfl⟩, _, ⟨_, rfl, rfl, rfl⟩, _, ⟨_, rfl, rfl, rfl⟩, _, ⟨_, rfl, rfl, rfl⟩, _,
      ⟨_, rfl, rfl, rfl⟩, _, ⟨_, rfl, rfl, rfl⟩, _, ⟨_, rfl, rfl, rfl⟩, rfl⟩
  have bounded := claim onceAnHour unseenCaller overGuessed guessTwice unseen_caller run 20 (by decide)
  revert bounded
  decide

end AgentRoom.RoomAccess
