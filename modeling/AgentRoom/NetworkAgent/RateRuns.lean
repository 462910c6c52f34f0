import AgentRoom.NetworkAgent.RateWindows

namespace AgentRoom.NetworkAgents

open Library

structure RateTicket where
  buckets : List String
  takenAt : UtcMillis
deriving DecidableEq

inductive RateCall where
  | take (bucket : String) (now : UtcMillis) (policy : RateWindowPolicy)
  | takeAll (buckets : List RateWindowBucket) (now : UtcMillis)
  | giveBack (ticket : RateTicket)

def RateCall.entries : RateCall → List RateWindowBucket
  | .take bucket _ policy => [⟨bucket, policy⟩]
  | .takeAll buckets _ => buckets
  | .giveBack _ => []

structure RateScene where
  windows : RateWindows
  clock : UtcMillis
  tickets : List RateTicket

def RateScene.opening : RateScene := ⟨fun _ => none, 0, []⟩

def RateScene.taken (scene : RateScene) (buckets : List RateWindowBucket) (now : UtcMillis) : RateScene :=
  match takeAll scene.windows buckets now with
  | .ok (windows, .allowed) => ⟨windows, now, ⟨buckets.map (·.bucket), now⟩ :: scene.tickets⟩
  | .ok (windows, .limited _) => { scene with windows, clock := now }
  | .error _ => { scene with clock := now }

def RateScene.returned (scene : RateScene) (ticket : RateTicket) : RateScene :=
  match giveBack scene.windows ticket.buckets ticket.takenAt with
  | .ok windows => { scene with windows, tickets := scene.tickets.erase ticket }
  | .error _ => scene

-- The calls come one after the other, no time before the last one.
def RateStep (scene : RateScene) : RateCall → RateScene → Prop
  | .take bucket now policy, next => scene.clock ≤ now ∧ next = scene.taken [⟨bucket, policy⟩] now
  | .takeAll buckets now, next => scene.clock ≤ now ∧ next = scene.taken buckets now
  | .giveBack ticket, next => ticket ∈ scene.tickets ∧ next = scene.returned ticket

def RateRun (calls : List RateCall) (scene : RateScene) : Prop := Runs RateStep .opening calls scene

def recorded (tickets : List RateTicket) (name : String) (since : UtcMillis) : Nat :=
  tickets.countP fun ticket => name ∈ ticket.buckets ∧ since ≤ ticket.takenAt

def CountsExactly (scene : RateScene) : Prop :=
  ∀ name window, scene.windows name = some window → window.eventCount = recorded scene.tickets name window.windowStartedAt

def AddsOne (windowOf : String → DurationMillis) (windows next : RateWindows) (now : UtcMillis) (names : List String) : Prop :=
  (∀ name ∈ names, (∃ window, windows name = some window ∧ now.value < window.windowStartedAt.value + (windowOf name).value ∧
      next name = some { window with eventCount := window.eventCount + 1 }) ∨
    (next name = some ⟨now, 1⟩ ∧
      ∀ window, windows name = some window → window.windowStartedAt.value + (windowOf name).value ≤ now.value)) ∧
  ∀ name, name ∉ names → next name = windows name

-- A bucket has one window, and its limit is a positive i32.
def Uniform (windowOf : String → DurationMillis) (entries : List RateWindowBucket) : Prop :=
  ∀ entry ∈ entries, entry.policy.window = windowOf entry.bucket ∧ 1 ≤ entry.policy.limit.toNat ∧
    entry.policy.limit.toNat ≤ i32Max

structure Counted (windowOf : String → DurationMillis) (scene : RateScene) : Prop where
  counts : CountsExactly scene
  started : ∀ name window, scene.windows name = some window → window.windowStartedAt ≤ scene.clock
  timely : ∀ ticket ∈ scene.tickets, ticket.takenAt ≤ scene.clock
  within : ∀ ticket ∈ scene.tickets, ∀ name ∈ ticket.buckets, ∃ window, scene.windows name = some window ∧
    (window.windowStartedAt ≤ ticket.takenAt → ticket.takenAt.value < window.windowStartedAt.value + (windowOf name).value)

theorem recorded_cons (ticket : RateTicket) (tickets : List RateTicket) (name : String) (since : UtcMillis) :
    recorded (ticket :: tickets) name since =
      recorded tickets name since + if name ∈ ticket.buckets ∧ since ≤ ticket.takenAt then 1 else 0 := by
  simp [recorded, List.countP_cons]

theorem recorded_erase (listed : ticket ∈ tickets) (name : String) (since : UtcMillis) : recorded tickets name since =
      recorded (tickets.erase ticket) name since + if name ∈ ticket.buckets ∧ since ≤ ticket.takenAt then 1 else 0 := by
  rw [← recorded_cons]
  exact (List.perm_cons_erase listed).countP_eq _

theorem recorded_none
    (none : ∀ ticket ∈ tickets, name ∈ ticket.buckets → ticket.takenAt < since) : recorded tickets name since = 0 := by
  rw [recorded, List.countP_eq_zero]
  intro ticket listed counted
  obtain ⟨here, since⟩ := of_decide_eq_true counted
  exact absurd since ((UtcMillis.not_le_iff _ _).mpr (none ticket listed here))

section

variable {windowOf : String → DurationMillis} {buckets : List RateWindowBucket} {now : UtcMillis}

theorem seen_stored (windows : RateWindows) (name : String) (now : UtcMillis) :
    (windows name = none ∧ seen windows name now = ⟨now, 0⟩) ∨ windows name = some (seen windows name now) := by
  cases stored : windows name with
  | none => exact .inl ⟨rfl, by rw [seen, stored]; rfl⟩
  | some window => exact .inr (by rw [seen, stored]; rfl)

variable {start window : Nat}

theorem ended_window (timed : now.value < timestampEnd) (past : UtcMillis.ofNat (start + window) ≤ now) :
    start + window ≤ now.value := by
  have least : min (start + window) i64Max ≤ now.value := past
  have most : timestampEnd ≤ i64Max := by decide
  omega

theorem running_window (running : now < UtcMillis.ofNat (start + window)) : now.value < start + window :=
  Nat.lt_of_lt_of_le running (Nat.min_le_left _ _)

theorem comes_allowed (timed : now.value < timestampEnd) (window : entry.policy.window = windowOf entry.bucket)
    (most : entry.policy.limit.toNat ≤ i32Max) (comes : Comes windows now entry row .allowed) :
    (∃ stored, windows entry.bucket = some stored ∧ now.value < stored.windowStartedAt.value + (windowOf entry.bucket).value ∧
        row = { stored with eventCount := stored.eventCount + 1 }) ∨
      (row = ⟨now, 1⟩ ∧ ∀ stored, windows entry.bucket = some stored →
        stored.windowStartedAt.value + (windowOf entry.bucket).value ≤ now.value) := by
  obtain ⟨_, ⟨past, same, _⟩ | ⟨running, room, same, _⟩ | ⟨_, _, _, wrong⟩⟩ := next_window_cases comes
  · refine .inr ⟨same, fun stored known => ?_⟩
    rw [seen, known, window] at past
    exact ended_window timed past
  · have count : min ((seen windows entry.bucket now).eventCount + 1) i32Max =
        (seen windows entry.bucket now).eventCount + 1 := by omega
    rw [count] at same
    rcases seen_stored windows entry.bucket now with ⟨absent, fresh⟩ | stored
    · rw [fresh] at same
      refine .inr ⟨same, fun stored known => ?_⟩
      rw [absent] at known
      cases known
    · rw [window] at running
      exact .inl ⟨_, stored, running_window running, same⟩
  · cases wrong

theorem allowed_adds_one (uniform : Uniform windowOf buckets) (takes : takeAll windows buckets now = .ok (next, .allowed)) :
    AddsOne windowOf windows next now (buckets.map (·.bucket)) := by
  obtain ⟨others, own, timed⟩ := take_windows_allowed takes
  constructor
  · intro name listed
    obtain ⟨entry, among, same⟩ := List.mem_map.mp listed
    obtain ⟨other, there, named, row, wrote, comes⟩ := own name ⟨entry, among, same⟩
    subst named
    obtain ⟨window, _, most⟩ := uniform other there
    rcases comes_allowed (timed (List.ne_nil_of_mem there)) window most comes with
      ⟨stored, known, running, built⟩ | ⟨built, ended⟩
    · exact .inl ⟨stored, known, running, by rw [wrote, built]⟩
    · exact .inr ⟨by rw [wrote, built], ended⟩
  · intro name unlisted
    exact others name fun entry among same => unlisted (List.mem_map.mpr ⟨entry, among, same⟩)

end

section

variable {windowOf : String → DurationMillis} {now : UtcMillis}

theorem ended_ticket (counted : Counted windowOf scene) (name : String) (later : scene.clock ≤ now)
    (ended : ∀ window, scene.windows name = some window → window.windowStartedAt.value + (windowOf name).value ≤ now.value)
    (ticket : RateTicket) (listed : ticket ∈ scene.tickets) (here : name ∈ ticket.buckets) : ticket.takenAt < now := by
  obtain ⟨window, stored, within⟩ := counted.within ticket listed name here
  have past := ended window stored
  by_cases since : window.windowStartedAt ≤ ticket.takenAt
  · exact Nat.lt_of_lt_of_le (within since) past
  · have older := (UtcMillis.not_le_iff _ _).mp since
    have known := counted.started name window stored
    exact Nat.lt_of_lt_of_le older (UtcMillis.le_trans _ _ _ known later)

variable {next windows : RateWindows}

theorem adds_one_counted (counted : Counted windowOf scene) (later : scene.clock ≤ now) (adds : AddsOne windowOf scene.windows next now names) :
    Counted windowOf ⟨next, now, ⟨names, now⟩ :: scene.tickets⟩ where
  counts := by
    intro name window stored
    rw [recorded_cons]
    by_cases listed : name ∈ names
    · rcases adds.1 name listed with ⟨before, known, _, wrote⟩ | ⟨wrote, ended⟩
      · have same := Option.some.inj (stored.symm.trans wrote)
        subst same
        have since : before.windowStartedAt ≤ now := UtcMillis.le_trans _ _ _ (counted.started name before known) later
        rw [if_pos ⟨listed, since⟩, counted.counts name before known]
      · have same := Option.some.inj (stored.symm.trans wrote)
        subst same
        rw [if_pos ⟨listed, UtcMillis.le_refl now⟩, recorded_none (ended_ticket counted name later ended)]
    · have same : scene.windows name = some window := (adds.2 name listed).symm.trans stored
      rw [if_neg (fun both => listed both.1), counted.counts name window same, Nat.add_zero]
  started := by
    intro name window stored
    by_cases listed : name ∈ names
    · rcases adds.1 name listed with ⟨before, known, _, wrote⟩ | ⟨wrote, _⟩
      · have same := Option.some.inj (stored.symm.trans wrote)
        subst same
        exact UtcMillis.le_trans _ _ _ (counted.started name before known) later
      · have same := Option.some.inj (stored.symm.trans wrote)
        subst same
        exact UtcMillis.le_refl now
    · exact UtcMillis.le_trans _ _ _ (counted.started name window ((adds.2 name listed).symm.trans stored)) later
  timely := by
    intro ticket listed
    rcases List.mem_cons.mp listed with new | old
    · subst new
      exact UtcMillis.le_refl now
    · exact UtcMillis.le_trans _ _ _ (counted.timely ticket old) later
  within := by
    intro ticket among name here
    have positive := (windowOf name).positive
    rcases List.mem_cons.mp among with new | old
    · subst new
      rcases adds.1 name here with ⟨before, known, running, wrote⟩ | ⟨wrote, _⟩
      · exact ⟨_, wrote, fun _ => running⟩
      · exact ⟨_, wrote, fun _ => Nat.lt_add_of_pos_right positive⟩
    · obtain ⟨window, stored, within⟩ := counted.within ticket old name here
      by_cases listed : name ∈ names
      · rcases adds.1 name listed with ⟨before, known, _, wrote⟩ | ⟨wrote, ended⟩
        · have same := Option.some.inj (stored.symm.trans known)
          subst same
          exact ⟨_, wrote, within⟩
        · have older := ended_ticket counted name later ended ticket old here
          exact ⟨_, wrote, fun since => absurd older (UtcMillis.not_lt_iff _ _ |>.mpr since)⟩
      · exact ⟨window, (adds.2 name listed).trans stored, within⟩

theorem give_back_ok (gives : giveBack windows names takenAt = .ok next) (name : String) :
    next name = (windows name).map fun window =>
      if name ∈ names ∧ window.windowStartedAt ≤ takenAt then { window with eventCount := window.eventCount - 1 }
      else window := by
  obtain ⟨time, timed, built⟩ := unbind gives
  obtain ⟨_, _, same⟩ := unbind timed
  cases same
  cases built
  rfl

theorem give_back_started (gives : giveBack windows names takenAt = .ok next) (stored : next name = some row) :
    ∃ window, windows name = some window ∧ row.windowStartedAt = window.windowStartedAt ∧
      row.eventCount = window.eventCount - if name ∈ names ∧ window.windowStartedAt ≤ takenAt then 1 else 0 := by
  rw [give_back_ok gives name] at stored
  obtain ⟨window, known, built⟩ := Option.map_eq_some_iff.mp stored
  subst built
  refine ⟨window, known, ?_⟩
  by_cases own : name ∈ names ∧ window.windowStartedAt ≤ takenAt
  · rw [if_pos own, if_pos own]
    exact ⟨rfl, rfl⟩
  · rw [if_neg own, if_neg own]
    exact ⟨rfl, rfl⟩

theorem returned_counted (counted : Counted windowOf scene) (listed : ticket ∈ scene.tickets) :
    Counted windowOf (scene.returned ticket) := by
  rw [RateScene.returned]
  cases gives : giveBack scene.windows ticket.buckets ticket.takenAt with
  | error kind => exact counted
  | ok next =>
    refine ⟨?_, ?_, fun other among => counted.timely other (List.mem_of_mem_erase among), ?_⟩
    · intro name row stored
      obtain ⟨window, known, started, count⟩ := give_back_started gives stored
      have precise := counted.counts name window known
      rw [recorded_erase listed] at precise
      rw [count, precise, started]
      exact Nat.add_sub_cancel ..
    · intro name row stored
      obtain ⟨window, known, started, _⟩ := give_back_started gives stored
      rw [started]
      exact counted.started name window known
    · intro other among name here
      obtain ⟨window, known, within⟩ := counted.within other (List.mem_of_mem_erase among) name here
      have stored := give_back_ok gives name
      rw [known] at stored
      obtain ⟨before, known', started, _⟩ := give_back_started gives stored
      have same := Option.some.inj (known.symm.trans known')
      subst same
      refine ⟨_, stored, ?_⟩
      rw [started]
      exact within

theorem clocked_counted (counted : Counted windowOf scene) (later : scene.clock ≤ now) :
    Counted windowOf { scene with clock := now } where
  counts := counted.counts
  started := fun name window stored => UtcMillis.le_trans _ _ _ (counted.started name window stored) later
  timely := fun ticket listed => UtcMillis.le_trans _ _ _ (counted.timely ticket listed) later
  within := counted.within

theorem taken_counted (counted : Counted windowOf scene) (later : scene.clock ≤ now)
    (uniform : Uniform windowOf buckets) : Counted windowOf (scene.taken buckets now) := by
  rw [RateScene.taken]
  cases takes : takeAll scene.windows buckets now with
  | error kind => exact clocked_counted counted later
  | ok done =>
    obtain ⟨next, decision⟩ := done
    cases decision with
    | allowed => exact adds_one_counted counted later (allowed_adds_one uniform takes)
    | limited retryAt =>
      have same := (take_windows_limited takes).1
      subst same
      exact clocked_counted counted later

theorem opening_counted : Counted windowOf .opening where
  counts := fun name window stored => by cases stored
  started := fun name window stored => by cases stored
  timely := fun ticket listed => by cases listed
  within := fun ticket listed => by cases listed

theorem rate_step_counted (counted : Counted windowOf scene) (uniform : Uniform windowOf call.entries)
    {next : RateScene} (step : RateStep scene call next) : Counted windowOf next := by
  cases call with
  | take bucket now policy =>
    obtain ⟨later, built⟩ := step
    subst built
    exact taken_counted counted later uniform
  | takeAll buckets now =>
    obtain ⟨later, built⟩ := step
    subst built
    exact taken_counted counted later uniform
  | giveBack ticket =>
    obtain ⟨listed, built⟩ := step
    subst built
    exact returned_counted counted listed

end

-- A stored count is within one of the limits that its bucket was called with.
def Limited (entries : List RateWindowBucket) (windows : RateWindows) : Prop :=
  ∀ name window, windows name = some window → ∃ entry ∈ entries, entry.bucket = name ∧
    1 ≤ entry.policy.limit.toNat ∧ window.eventCount ≤ entry.policy.limit.toNat

theorem allowed_limited (known : ∀ entry ∈ buckets, entry ∈ entries) (limited : Limited entries windows)
    (takes : takeAll windows buckets now = .ok (next, .allowed)) : Limited entries next := by
  obtain ⟨others, own, timed⟩ := take_windows_allowed takes
  intro name window stored
  by_cases listed : ∃ entry ∈ buckets, entry.bucket = name
  · obtain ⟨entry, among, named, row, wrote, comes⟩ := own name listed
    have same := Option.some.inj (stored.symm.trans wrote)
    subst same
    subst named
    obtain ⟨_, ⟨past, same, _⟩ | ⟨_, room, same, _⟩ | ⟨_, _, _, wrong⟩⟩ := next_window_cases comes
    · subst same
      rcases seen_stored windows entry.bucket now with ⟨_, fresh⟩ | before
      · rw [fresh] at past
        have ended : now.value + entry.policy.window.value ≤ now.value :=
          ended_window (timed (List.ne_nil_of_mem among)) past
        have positive := entry.policy.window.positive
        omega
      · obtain ⟨other, there, named, positive, _⟩ := limited entry.bucket _ before
        exact ⟨other, there, named, positive, positive⟩
    · subst same
      refine ⟨entry, known entry among, rfl, Nat.lt_of_le_of_lt (Nat.zero_le _) room, ?_⟩
      exact Nat.le_trans (Nat.min_le_left _ _) room
    · cases wrong
  · have same := others name fun entry among named => listed ⟨entry, among, named⟩
    exact limited name window (same.symm.trans stored)

theorem rate_step_limited (limited : Limited entries scene.windows)
    (known : ∀ entry ∈ call.entries, entry ∈ entries) (step : RateStep scene call next) : Limited entries next.windows := by
  have takes : ∀ (buckets : List RateWindowBucket) (now : UtcMillis), (∀ entry ∈ buckets, entry ∈ entries) →
      Limited entries (scene.taken buckets now).windows := by
    intro buckets now known
    rw [RateScene.taken]
    cases taken : takeAll scene.windows buckets now with
    | error kind => exact limited
    | ok done =>
      obtain ⟨next, decision⟩ := done
      cases decision with
      | allowed => exact allowed_limited known limited taken
      | limited retryAt => exact (take_windows_limited taken).1 ▸ limited
  cases call with
  | take bucket now policy => exact step.2 ▸ takes _ _ known
  | takeAll buckets now => exact step.2 ▸ takes _ _ known
  | giveBack ticket =>
    rw [step.2, RateScene.returned]
    cases gives : giveBack scene.windows ticket.buckets ticket.takenAt with
    | error kind => exact limited
    | ok next =>
      intro name row stored
      obtain ⟨window, before, _, count⟩ := give_back_started gives stored
      obtain ⟨entry, among, named, positive, most⟩ := limited name window before
      exact ⟨entry, among, named, positive, by omega⟩

end AgentRoom.NetworkAgents
