import AgentRoom.NetworkAgent.RateRuns

namespace AgentRoom.NetworkAgents

open Library

def Lowered (windows later : RateWindows) : Prop :=
  ∀ name, (windows name = none ∧ later name = none) ∨ ∃ before after, windows name = some before ∧ later name = some after ∧
    after.windowStartedAt = before.windowStartedAt ∧ after.eventCount ≤ before.eventCount

def RateCall.returns : RateCall → Bool
  | .giveBack _ => true
  | .take .. | .takeAll .. => false

theorem lowered_refl (windows : RateWindows) : Lowered windows windows := by
  intro name
  cases stored : windows name with
  | none => exact .inl ⟨rfl, rfl⟩
  | some window => exact .inr ⟨window, window, rfl, rfl, rfl, Nat.le_refl _⟩

theorem lowered_trans (earlier : Lowered first second) (later : Lowered second third) : Lowered first third := by
  intro name
  rcases earlier name with ⟨absent, still⟩ | ⟨before, middle, known, stored, started, less⟩
  · rcases later name with ⟨_, absent'⟩ | ⟨_, _, stored, _⟩
    · exact .inl ⟨absent, absent'⟩
    · rw [still] at stored
      cases stored
  · rcases later name with ⟨absent, _⟩ | ⟨before', after, known', stored', started', less'⟩
    · rw [stored] at absent
      cases absent
    · have same := Option.some.inj (stored.symm.trans known')
      subst same
      exact .inr ⟨before, after, known, stored', started'.trans started, Nat.le_trans less' less⟩

theorem returned_lowered (scene : RateScene) (ticket : RateTicket) : Lowered scene.windows (scene.returned ticket).windows := by
  rw [RateScene.returned]
  cases gives : giveBack scene.windows ticket.buckets ticket.takenAt with
  | error kind => exact lowered_refl scene.windows
  | ok next =>
    intro name
    have stored := give_back_ok gives name
    cases before : scene.windows name with
    | none =>
      rw [before] at stored
      exact .inl ⟨rfl, stored⟩
    | some window =>
      rw [before] at stored
      obtain ⟨known, before', started, count⟩ := give_back_started gives stored
      have same := Option.some.inj (before.symm.trans before')
      subst same
      refine .inr ⟨window, _, rfl, stored, started, ?_⟩
      rw [count]
      exact Nat.sub_le ..

theorem returns_lowered (start : RateScene) (returns : ∀ call ∈ calls, call.returns = true)
    (run : Runs RateStep start calls scene) : Lowered start.windows scene.windows := by
  induction calls generalizing start with
  | nil => exact run ▸ lowered_refl start.windows
  | cons call rest ih =>
    obtain ⟨next, step, later⟩ := run
    obtain ⟨first, others⟩ := List.forall_mem_cons.mp returns
    have reached := ih next others later
    cases call with
    | take bucket now policy => cases first
    | takeAll buckets now => cases first
    | giveBack ticket =>
      have once := returned_lowered start ticket
      rw [← step.2] at once
      exact lowered_trans once reached

theorem retry_comes (now : UtcMillis)
    (lowered : Lowered windows later) (positive : 1 ≤ entry.policy.limit.toNat) (after : now ≤ time) (due : retryAt ≤ time)
    (first : (∃ row, Comes windows now entry row .allowed) ∨
      ∃ earlier, Comes windows now entry (seen windows entry.bucket now) (.limited earlier) ∧ earlier ≤ retryAt)
    : ¬ Comes later time entry row (.limited again) := by
  intro limited
  obtain ⟨_, ⟨_, _, wrong⟩ | ⟨_, _, _, wrong⟩ | ⟨running, full, _, _⟩⟩ := next_window_cases limited
  · cases wrong
  · cases wrong
  · rcases lowered entry.bucket with ⟨absent, absent'⟩ | ⟨before, stored, known, known', started, less⟩
    · rw [seen, absent'] at full
      exact absurd (Nat.le_trans positive full) (Nat.not_succ_le_zero 0)
    · rw [seen, known'] at full running
      simp only [Option.getD_some] at full running
      rw [started] at running
      rcases first with ⟨row, comes⟩ | ⟨earlier, comes, soon⟩
      · obtain ⟨_, ⟨past, _, _⟩ | ⟨_, room, _, _⟩ | ⟨_, _, _, wrong⟩⟩ := next_window_cases comes
        · rw [seen, known] at past
          exact absurd running ((UtcMillis.not_lt_iff _ _).mpr (UtcMillis.le_trans _ _ _ past after))
        · rw [seen, known] at room
          exact absurd room (Nat.not_lt.mpr (Nat.le_trans full less))
        · cases wrong
      · obtain ⟨_, ⟨_, _, wrong⟩ | ⟨_, _, _, wrong⟩ | ⟨_, _, _, ends⟩⟩ := next_window_cases comes
        · cases wrong
        · cases wrong
        · rw [seen, known] at ends
          cases ends
          exact absurd running ((UtcMillis.not_lt_iff _ _).mpr (UtcMillis.le_trans _ _ _ soon due))

theorem retry_not_limited (positive : ∀ entry ∈ buckets, 1 ≤ entry.policy.limit.toNat) (lowered : Lowered windows later)
    (limited : takeAll windows buckets now = .ok (next, .limited retryAt)) (due : retryAt ≤ time) :
    takeAll later buckets time ≠ .ok (last, .limited again) := by
  intro twice
  obtain ⟨_, ⟨full, there, comes⟩, all, _⟩ := take_windows_limited limited
  obtain ⟨_, ⟨entry, among, comes'⟩, _, _⟩ := take_windows_limited twice
  have after : now ≤ retryAt := by
    obtain ⟨_, ⟨_, _, wrong⟩ | ⟨_, _, _, wrong⟩ | ⟨running, _, _, ends⟩⟩ := next_window_cases comes
    · cases wrong
    · cases wrong
    · cases ends
      exact Nat.le_of_lt running
  exact retry_comes now lowered (positive entry among) (UtcMillis.le_trans _ _ _ after due) due
    (all entry among) comes'

-- Every call of a bucket has the bucket's own window, and a limit that is a positive i32.
def UniformCalls (windowOf : String → DurationMillis) (calls : List RateCall) : Prop :=
  ∀ call ∈ calls, Uniform windowOf call.entries

variable {calls : List RateCall} {scene : RateScene}

theorem rate_run_counted (run : RateRun calls scene) (uniform : UniformCalls windowOf calls) : Counted windowOf scene := by
  have guarded := guard_run (fun _ call => Uniform windowOf call.entries) RateStep RateScene.opening scene calls
    (fun earlier call later _ split _ => uniform call (by rw [split]; simp)) run
  exact runs_invariant (Counted windowOf)
    (fun scene call next counted step => rate_step_counted counted step.1 step.2)
    (opening_counted) guarded

theorem rate_run_limited (run : RateRun calls scene) : Limited (calls.flatMap RateCall.entries) scene.windows := by
  have guarded := guard_run (fun _ call => ∀ entry ∈ call.entries, entry ∈ calls.flatMap RateCall.entries) RateStep
    RateScene.opening scene calls
    (fun earlier call later _ split _ entry among => List.mem_flatMap.mpr ⟨call, by rw [split]; simp, among⟩) run
  exact runs_invariant (fun scene => Limited (calls.flatMap RateCall.entries) scene.windows)
    (fun scene call next limited step => rate_step_limited limited step.1 step.2)
    (fun name window stored => by cases stored) guarded

def RetryKept (scene : RateScene) (buckets : List RateWindowBucket) (now retryAt : UtcMillis) : Prop :=
  ∀ calls later, (∀ call ∈ calls, call.returns = true) → Runs RateStep { scene with clock := now } calls later →
    ∀ time, retryAt ≤ time → ∀ last again, takeAll later.windows buckets time ≠ .ok (last, .limited again)

theorem rate_windows_count_exactly (windowOf : String → DurationMillis) (calls : List RateCall) (scene : RateScene)
    (run : RateRun calls scene) (uniform : UniformCalls windowOf calls) : CountsExactly scene ∧
      (∀ name window, scene.windows name = some window →
        ∃ call ∈ calls, ∃ entry ∈ call.entries, entry.bucket = name ∧ window.eventCount ≤ entry.policy.limit.toNat) ∧
      ∀ buckets now next, scene.clock ≤ now → Uniform windowOf buckets →
        (takeAll scene.windows buckets now = .ok (next, .allowed) →
          AddsOne windowOf scene.windows next now (buckets.map (·.bucket))) ∧
        ∀ retryAt, takeAll scene.windows buckets now = .ok (next, .limited retryAt) →
          next = scene.windows ∧ RetryKept scene buckets now retryAt := by
  refine ⟨(rate_run_counted run uniform).counts, ?_, ?_⟩
  · intro name window stored
    obtain ⟨entry, among, named, _, most⟩ := rate_run_limited run name window stored
    obtain ⟨call, listed, own⟩ := List.mem_flatMap.mp among
    exact ⟨call, listed, entry, own, named, most⟩
  · intro buckets now next _ fits
    refine ⟨allowed_adds_one fits, fun retryAt limited => ⟨(take_windows_limited limited).1, ?_⟩⟩
    intro returns later only back time due last again
    exact retry_not_limited
      (fun entry among => (fits entry among).2.1) (returns_lowered { scene with clock := now } only back) limited due

def twiceAnHour : RateWindowPolicy := ⟨3600000, 2⟩

def knockAndCode : List RateWindowBucket := [⟨"code:b", twiceAnHour⟩, ⟨"knock:a", twiceAnHour⟩]

-- Both buckets take one, the second call finds one of them full, and the first is given back.
def takenAndReturned : List RateCall :=
  [.take "knock:a" 5 twiceAnHour, .takeAll knockAndCode 6, .takeAll knockAndCode 7, .giveBack ⟨["code:b", "knock:a"], 6⟩]

theorem knocks_count_exactly : ∃ scene, RateRun takenAndReturned scene ∧
    scene.windows "knock:a" = some ⟨5, 1⟩ ∧ recorded scene.tickets "knock:a" 5 = 1 ∧
    scene.windows "code:b" = some ⟨6, 0⟩ ∧ recorded scene.tickets "code:b" 6 = 0 := by
  have uniform : UniformCalls (fun _ => 3600000) takenAndReturned := by
    have fits : Uniform (fun _ => 3600000) knockAndCode := by
      unfold Uniform
      decide
    intro call listed
    simp only [takenAndReturned, List.mem_cons, List.not_mem_nil, or_false] at listed
    rcases listed with rfl | rfl | rfl | rfl
    · exact fun entry own => fits entry (List.mem_cons_of_mem _ own)
    · exact fits
    · exact fits
    · exact fun entry own => by cases own
  have run : RateRun takenAndReturned _ :=
    ⟨_, ⟨by decide, rfl⟩, _, ⟨by decide, rfl⟩, _, ⟨by decide, rfl⟩, _, ⟨by decide, rfl⟩, rfl⟩
  have counts := (rate_windows_count_exactly _ _ _ run uniform).1
  exact ⟨_, run, rfl, (counts "knock:a" ⟨5, 1⟩ rfl).symm, rfl, (counts "code:b" ⟨6, 0⟩ rfl).symm⟩

theorem single_take (timed : now.value < timestampEnd) (fits : bucketFits entry.bucket = true)
    (comes : Comes windows now entry row .allowed) :
    ∃ next, takeAll windows [entry] now = .ok (next, .allowed) ∧ next entry.bucket = some row := by
  have reads : ∃ locked, lockWindow windows entry.bucket now = .ok (locked, seen windows entry.bucket now) := by
    have started : toTimestamp now = .ok now := by rw [toTimestamp, ensure, if_pos timed]; rfl
    rw [lockWindow, started, ensure, if_pos fits, seen]
    cases windows entry.bucket with
    | none => exact ⟨_, rfl⟩
    | some window => exact ⟨_, rfl⟩
  obtain ⟨locked, reads⟩ := reads
  refine ⟨locked.write entry.bucket row, ?_, Function.update_self ..⟩
  have locks : LockedWindows.lock now ⟨windows, [], none⟩ entry = .ok ⟨locked, [(entry.bucket, row)], none⟩ := by
    rw [Comes] at comes
    rw [LockedWindows.lock, reads]
    simp only [Bind.bind, Except.bind, comes]
    rfl
  have alone : [entry].insertionSort (fun left right => left.bucket ≤ right.bucket) = [entry] := rfl
  rw [takeAll, takeWindows, alone, List.foldlM_cons, locks]
  rfl

-- A limit that no i32 reaches, and a window that one moment does not end.
def widePolicy : RateWindowPolicy := ⟨1, 4294967295⟩

theorem wide_comes (most : count ≤ i32Max) (name : String) (found : seen windows name 0 = ⟨0, count⟩) :
    Comes windows 0 ⟨name, widePolicy⟩ ⟨0, min (count + 1) i32Max⟩ .allowed := by
  have below : i32Max < widePolicy.limit.toNat := by decide
  have room : count < widePolicy.limit.toNat := Nat.lt_of_le_of_lt most below
  have fits : ensure RepositoryErrorKind.corruptData (widePolicy.window.value ≤ i64Max) = .ok () := rfl
  have running : ¬ UtcMillis.ofNat ((0 : UtcMillis).value + widePolicy.window.value) ≤ 0 := by decide
  rw [Comes, found, nextWindow, fits]
  simp only [Bind.bind, Except.bind]
  rw [if_neg running, if_pos room]
  rfl

theorem wide_takes (count : Nat) : ∃ scene, RateRun (List.replicate count (.take "b" 0 widePolicy)) scene ∧ scene.clock = 0 ∧
    seen scene.windows "b" 0 = ⟨0, min count i32Max⟩ ∧ scene.tickets = List.replicate count ⟨["b"], 0⟩ := by
  induction count with
  | zero => exact ⟨.opening, rfl, rfl, rfl, rfl⟩
  | succ count ih =>
    obtain ⟨scene, run, clock, found, tickets⟩ := ih
    have comes := wide_comes (Nat.min_le_right _ _) "b" found
    obtain ⟨next, takes, stored⟩ := single_take (by decide) (by decide) comes
    have taken : scene.taken [⟨"b", widePolicy⟩] 0 = ⟨next, 0, ⟨["b"], 0⟩ :: scene.tickets⟩ := by
      rw [RateScene.taken, takes]
      rfl
    refine ⟨⟨next, 0, ⟨["b"], 0⟩ :: scene.tickets⟩, ?_, ?_, ?_, ?_⟩
    · rw [List.replicate_succ', RateRun, runs_append]
      exact ⟨scene, run, _, ⟨by rw [clock]; decide, taken.symm⟩, rfl⟩
    · rfl
    · have count' : min (min count i32Max + 1) i32Max = min (count + 1) i32Max := by omega
      rw [count'] at stored
      exact congrArg (Option.getD · _) stored
    · rw [tickets]
      rfl

theorem wide_miscounts (scene : RateScene) (found : seen scene.windows "b" 0 = ⟨0, min (i32Max + 1) i32Max⟩)
    (tickets : scene.tickets = List.replicate (i32Max + 1) ⟨["b"], 0⟩) : ¬ CountsExactly scene := by
  intro counts
  rcases seen_stored scene.windows "b" 0 with ⟨_, fresh⟩ | stored
  · rw [found] at fresh
    have none := congrArg RateWindow.eventCount fresh
    have most : i32Max = 2147483647 := rfl
    simp only at none
    omega
  · rw [found] at stored
    have exactly := counts "b" _ stored
    rw [recorded, tickets, List.countP_replicate, if_pos (by decide)] at exactly
    simp only at exactly
    omega

-- A bucket of limit zero stays full; a bucket whose window changes can start again at the
-- moment of an earlier take; and a count stops at the largest i32.
theorem rate_windows_miscount : (¬ ∀ (windowOf : String → DurationMillis) calls scene, RateRun calls scene →
      (∀ call ∈ calls, ∀ entry ∈ call.entries, entry.policy.window = windowOf entry.bucket ∧ entry.policy.limit.toNat ≤ i32Max) →
      ∀ buckets now next retryAt, (∀ entry ∈ buckets, entry.policy.window = windowOf entry.bucket ∧
        entry.policy.limit.toNat ≤ i32Max) → takeAll scene.windows buckets now = .ok (next, .limited retryAt) →
        RetryKept scene buckets now retryAt) ∧
    (¬ ∀ calls scene, RateRun calls scene → (∀ call ∈ calls, ∀ entry ∈ call.entries, 1 ≤ entry.policy.limit.toNat ∧
      entry.policy.limit.toNat ≤ i32Max) → CountsExactly scene) ∧
    ¬ ∀ (windowOf : String → DurationMillis) calls scene, RateRun calls scene → (∀ call ∈ calls, ∀ entry ∈ call.entries,
      entry.policy.window = windowOf entry.bucket ∧ 1 ≤ entry.policy.limit.toNat) → CountsExactly scene := by
  refine ⟨?_, ?_, ?_⟩
  · intro kept
    have closed : takeAll (fun _ => none) [⟨"b", 1, 0⟩] 0 = .ok (fun _ => none, .limited 1) := rfl
    have still : takeAll (fun _ => none) [⟨"b", 1, 0⟩] 1 = .ok (fun _ => none, .limited 2) := rfl
    have retries := kept (fun _ => 1) [] .opening rfl (by simp) [⟨"b", 1, 0⟩] 0 _ 1 (by decide) closed
    exact retries [] { RateScene.opening with clock := 0 } (by simp) rfl 1 (by decide) _ 2 still
  · intro counts
    have run : RateRun [.take "b" 0 ⟨10, 5⟩, .take "b" 5 ⟨10, 5⟩, .take "b" 5 ⟨5, 5⟩] _ :=
      ⟨_, ⟨by decide, rfl⟩, _, ⟨by decide, rfl⟩, _, ⟨by decide, rfl⟩, rfl⟩
    have exactly := counts _ _ run (by decide) "b" ⟨5, 1⟩ rfl
    cases exactly
  · intro counts
    obtain ⟨scene, run, _, found, tickets⟩ := wide_takes (i32Max + 1)
    refine wide_miscounts scene found tickets (counts (fun _ => 1) _ scene run ?_)
    intro call listed entry own
    rw [List.eq_of_mem_replicate listed] at own
    rw [List.mem_singleton.mp own]
    decide

end AgentRoom.NetworkAgents
