import AgentRoom.Domain.Failures
import AgentRoom.Library.Runs
import Mathlib.Data.List.Sort
import Mathlib.Data.String.Basic

namespace AgentRoom.NetworkAgents

open Library

structure RateWindowPolicy where
  window : DurationMillis
  limit : UInt32

structure RateWindowBucket where
  bucket : String
  policy : RateWindowPolicy

inductive RateWindowDecision where
  | allowed
  | limited (retryAt : UtcMillis)

structure RateWindow where
  windowStartedAt : UtcMillis
  eventCount : Nat

abbrev RateWindows := String → Option RateWindow

abbrev RateResult (α : Type) := Except RepositoryErrorKind α

def i32Max : Nat := 2 ^ 31 - 1

-- to_timestamp refuses what is past the year 294276.
def timestampEnd : Nat := 9224318016000000

def toTimestamp (time : UtcMillis) : RateResult UtcMillis := do
  ensure .unavailable (time.value < timestampEnd)
  return time

def bucketFits (bucket : String) : Bool := 1 ≤ bucket.toList.length && bucket.toList.length ≤ 200

def RateWindows.write (windows : RateWindows) (bucket : String) (window : RateWindow) : RateWindows :=
  Function.update windows bucket (some window)

-- INSERT .. ON CONFLICT DO NOTHING, then the row is read under its lock.
def lockWindow (windows : RateWindows) (bucket : String) (now : UtcMillis) : RateResult (RateWindows × RateWindow) := do
  let started ← toTimestamp now
  ensure .constraint (bucketFits bucket = true)
  match windows bucket with
  | some window => return (windows, window)
  | none => return (windows.write bucket ⟨started, 0⟩, ⟨started, 0⟩)

-- The addition saturates at the largest i64, and the count at the largest i32.
def nextWindow (window : RateWindow) (now : UtcMillis) (policy : RateWindowPolicy) :
    RateResult (RateWindow × RateWindowDecision) := do
  ensure .corruptData (policy.window.value ≤ i64Max)
  let ends := UtcMillis.ofNat (window.windowStartedAt.value + policy.window.value)
  if ends ≤ now then return (⟨now, 1⟩, .allowed)
  else if window.eventCount < policy.limit.toNat then
    return (⟨window.windowStartedAt, min (window.eventCount + 1) i32Max⟩, .allowed)
  else return (window, .limited ends)

structure LockedWindows where
  windows : RateWindows
  updates : List (String × RateWindow)
  limited : Option UtcMillis

def laterTime (first second : UtcMillis) : UtcMillis := if first ≤ second then second else first

def LockedWindows.lock (now : UtcMillis) (locked : LockedWindows) (bucket : RateWindowBucket) : RateResult LockedWindows := do
  let (windows, window) ← lockWindow locked.windows bucket.bucket now
  match ← nextWindow window now bucket.policy with
  | (next, .allowed) => return { locked with windows, updates := locked.updates ++ [(bucket.bucket, next)] }
  | (_, .limited retryAt) =>
    return { locked with windows, limited := some (locked.limited.elim retryAt (laterTime · retryAt)) }

section

variable (windows : RateWindows)

-- A limited call rolls back the rows it put in.
def takeWindows (buckets : List RateWindowBucket) (now : UtcMillis) : RateResult (RateWindows × RateWindowDecision) := do
  let ordered := buckets.insertionSort fun left right => left.bucket ≤ right.bucket
  let locked ← ordered.foldlM (LockedWindows.lock now) ⟨windows, [], none⟩
  match locked.limited with
  | some retryAt => return (windows, .limited retryAt)
  | none => return (locked.updates.foldl (fun windows update => windows.write update.1 update.2) locked.windows, .allowed)

def take (bucket : String) (now : UtcMillis) (policy : RateWindowPolicy) :
    RateResult (RateWindows × RateWindowDecision) := takeWindows windows [⟨bucket, policy⟩] now

def takeAll (buckets : List RateWindowBucket) (now : UtcMillis) :
    RateResult (RateWindows × RateWindowDecision) := takeWindows windows buckets now

def giveBack (buckets : List String) (takenAt : UtcMillis) : RateResult RateWindows := do
  let takenAt ← toTimestamp takenAt
  return fun bucket => (windows bucket).map fun window =>
    if bucket ∈ buckets ∧ window.windowStartedAt ≤ takenAt then { window with eventCount := window.eventCount - 1 }
    else window

def seen (bucket : String) (now : UtcMillis) : RateWindow := (windows bucket).getD ⟨now, 0⟩

def Comes (now : UtcMillis) (bucket : RateWindowBucket) (next : RateWindow) (decision : RateWindowDecision) : Prop :=
  nextWindow (seen windows bucket.bucket now) now bucket.policy = .ok (next, decision)

end

section

variable {windows next : RateWindows} {now : UtcMillis}

variable {buckets : List RateWindowBucket} {decision : RateWindowDecision} {window : RateWindow}

theorem lock_window_ok (locks : lockWindow windows bucket now = .ok (next, window)) :
    now.value < timestampEnd ∧ window = seen windows bucket now ∧
      (next = windows ∨ (windows bucket = none ∧ next = windows.write bucket ⟨now, 0⟩)) := by
  obtain ⟨started, timed, rest⟩ := unbind locks
  obtain ⟨_, within, same⟩ := unbind timed
  cases same
  obtain ⟨_, _, rest⟩ := unbind rest
  refine ⟨(ensure_ok _ _ _).mp within, ?_⟩
  cases stored : windows bucket with
  | some row =>
    rw [stored] at rest
    cases rest
    exact ⟨by rw [seen, stored]; rfl, .inl rfl⟩
  | none =>
    rw [stored] at rest
    cases rest
    exact ⟨by rw [seen, stored]; rfl, .inr ⟨rfl, rfl⟩⟩

theorem next_window_cases {after : RateWindow} (comes : nextWindow window now policy = .ok (after, decision)) :
    policy.window.value ≤ i64Max ∧
    ((UtcMillis.ofNat (window.windowStartedAt.value + policy.window.value) ≤ now ∧ after = ⟨now, 1⟩ ∧ decision = .allowed) ∨
    (now < UtcMillis.ofNat (window.windowStartedAt.value + policy.window.value) ∧
      window.eventCount < policy.limit.toNat ∧ after = ⟨window.windowStartedAt, min (window.eventCount + 1) i32Max⟩ ∧
      decision = .allowed) ∨
    (now < UtcMillis.ofNat (window.windowStartedAt.value + policy.window.value) ∧
      policy.limit.toNat ≤ window.eventCount ∧ after = window ∧
      decision = .limited (UtcMillis.ofNat (window.windowStartedAt.value + policy.window.value)))) := by
  obtain ⟨_, fits, rest⟩ := unbind comes
  refine ⟨(ensure_ok _ _ _).mp fits, ?_⟩
  by_cases past : UtcMillis.ofNat (window.windowStartedAt.value + policy.window.value) ≤ now
  · rw [if_pos past] at rest
    cases rest
    exact .inl ⟨past, rfl, rfl⟩
  · rw [if_neg past] at rest
    have running := (UtcMillis.not_le_iff _ _).mp past
    by_cases room : window.eventCount < policy.limit.toNat
    · rw [if_pos room] at rest
      cases rest
      exact .inr (.inl ⟨running, room, rfl, rfl⟩)
    · rw [if_neg room] at rest
      cases rest
      exact .inr (.inr ⟨running, Nat.not_lt.mp room, rfl, rfl⟩)

structure Locked (start : RateWindows) (now : UtcMillis) (entries : List RateWindowBucket) (locked : LockedWindows) : Prop where
  windows : ∀ name, locked.windows name = start name ∨ (start name = none ∧ locked.windows name = some ⟨now, 0⟩)
  unlisted : ∀ name, (∀ entry ∈ entries, entry.bucket ≠ name) → locked.windows name = start name
  updates : ∀ update ∈ locked.updates, ∃ entry ∈ entries, entry.bucket = update.1 ∧ Comes start now entry update.2 .allowed
  covered : ∀ entry ∈ entries, (∃ after, Comes start now entry after .allowed ∧ (entry.bucket, after) ∈ locked.updates) ∨
    ∃ retryAt last, Comes start now entry (seen start entry.bucket now) (.limited retryAt) ∧
      locked.limited = some last ∧ retryAt ≤ last
  limited : ∀ last, locked.limited = some last →
    ∃ entry ∈ entries, Comes start now entry (seen start entry.bucket now) (.limited last)
  timed : entries ≠ [] → now.value < timestampEnd

variable {first second : UtcMillis}

theorem later_time_left : first ≤ laterTime first second := by
  by_cases before : first ≤ second
  · rwa [laterTime, if_pos before]
  · rw [laterTime, if_neg before]
    exact UtcMillis.le_refl first

theorem later_time_right : second ≤ laterTime first second := by
  by_cases before : first ≤ second
  · rw [laterTime, if_pos before]
    exact UtcMillis.le_refl second
  · rw [laterTime, if_neg before]
    exact Nat.le_of_lt ((UtcMillis.not_le_iff _ _).mp before)

theorem later_time_either : laterTime first second = first ∨ laterTime first second = second := by
  by_cases before : first ≤ second
  · exact .inr (if_pos before)
  · exact .inl (if_neg before)

section

variable {start : RateWindows} {entries : List RateWindowBucket} {locked after : LockedWindows}

theorem locked_start (start : RateWindows) (now : UtcMillis) : Locked start now [] ⟨start, [], none⟩ where
  windows := fun _ => .inl rfl
  unlisted := fun _ _ => rfl
  updates := fun update listed => by cases listed
  covered := fun entry listed => by cases listed
  limited := fun last found => by cases found
  timed := fun some => absurd rfl some

theorem locked_seen (found : Locked start now entries locked) (name : String) :
    seen locked.windows name now = seen start name now := by
  rcases found.windows name with same | ⟨absent, fresh⟩
  · rw [seen, seen, same]
  · rw [seen, seen, absent, fresh]
    rfl

theorem locked_next (found : Locked start now entries locked) {entry : RateWindowBucket}
    (step : locked.lock now entry = .ok after) : Locked start now (entries ++ [entry]) after := by
  obtain ⟨⟨windows, window⟩, locks, rest⟩ := unbind step
  obtain ⟨timed, read, wrote⟩ := lock_window_ok locks
  rw [locked_seen found] at read
  subst read
  have here : entry ∈ entries ++ [entry] := List.mem_concat_self
  have rows : ∀ name, windows name = start name ∨ (start name = none ∧ windows name = some ⟨now, 0⟩) := by
    intro name
    rcases wrote with same | ⟨absent, fresh⟩
    · exact same ▸ found.windows name
    · by_cases own : name = entry.bucket
      · subst own
        rcases found.windows entry.bucket with same | ⟨_, stored⟩
        · exact .inr ⟨same ▸ absent, by rw [fresh, RateWindows.write, Function.update_self]⟩
        · rw [absent] at stored
          cases stored
      · rw [fresh, RateWindows.write, Function.update_of_ne own]
        exact found.windows name
  have others : ∀ name, (∀ other ∈ entries ++ [entry], other.bucket ≠ name) → windows name = start name := by
    intro name unlisted
    have old := found.unlisted name fun other listed => unlisted other (List.mem_append_left _ listed)
    rcases wrote with same | ⟨_, fresh⟩
    · exact same ▸ old
    · rw [fresh, RateWindows.write, Function.update_of_ne (unlisted entry here).symm, old]
  obtain ⟨⟨next, decision⟩, comes, built⟩ := unbind rest
  cases decision with
  | allowed =>
    cases built
    refine ⟨rows, others, ?_, ?_, ?_, fun _ => timed⟩
    · intro update listed
      rcases List.mem_append.mp listed with old | new
      · obtain ⟨other, among, fits⟩ := found.updates update old
        exact ⟨other, List.mem_append_left _ among, fits⟩
      · rw [List.mem_singleton.mp new]
        exact ⟨entry, here, rfl, comes⟩
    · intro other listed
      rcases List.mem_append.mp listed with old | new
      · rcases found.covered other old with ⟨row, fits, updated⟩ | full
        · exact .inl ⟨row, fits, List.mem_append_left _ updated⟩
        · exact .inr full
      · rw [List.mem_singleton.mp new]
        exact .inl ⟨next, comes, List.mem_concat_self⟩
    · intro last full
      obtain ⟨other, among, fits⟩ := found.limited last full
      exact ⟨other, List.mem_append_left _ among, fits⟩
  | limited retryAt =>
    cases built
    have kept : next = seen start entry.bucket now := by
      obtain ⟨_, ⟨_, _, wrong⟩ | ⟨_, _, _, wrong⟩ | ⟨_, _, same, _⟩⟩ := next_window_cases comes
      · cases wrong
      · cases wrong
      · exact same
    subst kept
    refine ⟨rows, others, ?_, ?_, ?_, fun _ => timed⟩
    · intro update listed
      obtain ⟨other, among, fits⟩ := found.updates update listed
      exact ⟨other, List.mem_append_left _ among, fits⟩
    · intro other listed
      rcases List.mem_append.mp listed with old | new
      · rcases found.covered other old with updated | ⟨earlier, last, fits, full, before⟩
        · exact .inl updated
        · refine .inr ⟨earlier, _, fits, rfl, ?_⟩
          rw [full]
          exact UtcMillis.le_trans _ _ _ before (later_time_left)
      · rw [List.mem_singleton.mp new]
        refine .inr ⟨retryAt, _, comes, rfl, ?_⟩
        cases locked.limited with
        | none => exact UtcMillis.le_refl retryAt
        | some last => exact later_time_right
    · intro last full
      cases known : locked.limited with
      | none =>
        simp only [known, Option.elim, Option.some.injEq] at full
        exact ⟨entry, here, full ▸ comes⟩
      | some earlier =>
        simp only [known, Option.elim, Option.some.injEq] at full
        rcases later_time_either with same | same
        · obtain ⟨other, among, fits⟩ := found.limited earlier known
          exact ⟨other, List.mem_append_left _ among, by rw [← full, same]; exact fits⟩
        · exact ⟨entry, here, by rw [← full, same]; exact comes⟩

theorem locked_loop : ∀ (entries : List RateWindowBucket) (locked : LockedWindows),
    Locked start now entries locked → rest.foldlM (LockedWindows.lock now) locked = .ok after →
    Locked start now (entries ++ rest) after := by
  induction rest with
  | nil =>
    intro entries locked found run
    rw [fold_ok_nil] at run
    rw [List.append_nil]
    exact run ▸ found
  | cons entry rest ih =>
    intro entries locked found run
    obtain ⟨next, step, later⟩ := (fold_ok_cons ..).mp run
    have reached := ih (entries ++ [entry]) next (locked_next found step) later
    rwa [List.append_assoc] at reached

end

theorem written_updates (updates : List (String × RateWindow)) : ∀ windows : RateWindows, ∀ name,
    (updates.foldl (fun windows update => windows.write update.1 update.2) windows name = windows name ∧
      ∀ update ∈ updates, update.1 ≠ name) ∨
    ∃ row, (name, row) ∈ updates ∧
      updates.foldl (fun windows update => windows.write update.1 update.2) windows name = some row := by
  induction updates with
  | nil => exact fun windows name => .inl ⟨rfl, fun update listed => by cases listed⟩
  | cons update rest ih =>
    intro windows name
    rcases ih (windows.write update.1 update.2) name with ⟨same, unlisted⟩ | ⟨row, listed, wrote⟩
    · by_cases own : name = update.1
      · subst own
        refine .inr ⟨update.2, List.mem_cons_self .., ?_⟩
        rw [List.foldl_cons, same, RateWindows.write, Function.update_self]
      · refine .inl ⟨?_, List.forall_mem_cons.mpr ⟨fun wrong => own wrong.symm, unlisted⟩⟩
        rw [List.foldl_cons, same, RateWindows.write, Function.update_of_ne own]
    · exact .inr ⟨row, List.mem_cons_of_mem _ listed, wrote⟩

theorem take_windows_locked (takes : takeWindows windows buckets now = .ok (next, decision)) :
    ∃ locked, Locked windows now buckets locked ∧ ((decision = .allowed ∧ locked.limited = none ∧
        next = locked.updates.foldl (fun windows update => windows.write update.1 update.2) locked.windows) ∨
      ∃ retryAt, decision = .limited retryAt ∧ locked.limited = some retryAt ∧ next = windows) := by
  obtain ⟨locked, loop, rest⟩ := unbind takes
  have found := locked_loop [] _ (locked_start windows now) loop
  rw [List.nil_append] at found
  have among : ∀ entry, entry ∈ buckets.insertionSort (fun left right => left.bucket ≤ right.bucket) ↔ entry ∈ buckets :=
    fun entry => (List.perm_insertionSort _ buckets).mem_iff
  have listed : Locked windows now buckets locked := by
    constructor
    · exact found.windows
    · exact fun name unlisted => found.unlisted name fun entry there => unlisted entry ((among entry).mp there)
    · intro update there
      obtain ⟨entry, sorted, fits⟩ := found.updates update there
      exact ⟨entry, (among entry).mp sorted, fits⟩
    · exact fun entry there => found.covered entry ((among entry).mpr there)
    · intro last full
      obtain ⟨entry, sorted, fits⟩ := found.limited last full
      exact ⟨entry, (among entry).mp sorted, fits⟩
    · intro some
      obtain ⟨entry, there⟩ := List.exists_mem_of_ne_nil _ some
      exact found.timed (List.ne_nil_of_mem ((among entry).mpr there))
  refine ⟨locked, listed, ?_⟩
  cases full : locked.limited with
  | none =>
    rw [full] at rest
    cases rest
    exact .inl ⟨rfl, rfl, rfl⟩
  | some retryAt =>
    rw [full] at rest
    cases rest
    exact .inr ⟨retryAt, rfl, rfl, rfl⟩

theorem take_windows_allowed (takes : takeWindows windows buckets now = .ok (next, .allowed)) :
    (∀ name, (∀ entry ∈ buckets, entry.bucket ≠ name) → next name = windows name) ∧
      (∀ name, (∃ entry ∈ buckets, entry.bucket = name) →
        ∃ entry ∈ buckets, entry.bucket = name ∧ ∃ row, next name = some row ∧ Comes windows now entry row .allowed) ∧
      (buckets ≠ [] → now.value < timestampEnd) := by
  obtain ⟨locked, found, ⟨_, free, wrote⟩ | ⟨_, wrong, _⟩⟩ := take_windows_locked takes
  · subst wrote
    refine ⟨?_, ?_, found.timed⟩
    · intro name unlisted
      rcases written_updates locked.updates locked.windows name with ⟨same, _⟩ | ⟨row, listed, _⟩
      · rw [same, found.unlisted name unlisted]
      · obtain ⟨entry, among, own, _⟩ := found.updates _ listed
        exact absurd own (unlisted entry among)
    · rintro name ⟨entry, among, own⟩
      subst own
      rcases written_updates locked.updates locked.windows entry.bucket with ⟨_, none⟩ | ⟨row, listed, wrote⟩
      · rcases found.covered entry among with ⟨after, _, updated⟩ | ⟨_, _, _, full, _⟩
        · exact absurd rfl (none _ updated)
        · rw [free] at full
          cases full
      · obtain ⟨other, there, same, comes⟩ := found.updates _ listed
        exact ⟨other, there, same, row, wrote, comes⟩
  · cases wrong

theorem take_windows_limited (takes : takeWindows windows buckets now = .ok (next, .limited retryAt)) :
    next = windows ∧ (∃ entry ∈ buckets, Comes windows now entry (seen windows entry.bucket now) (.limited retryAt)) ∧
      (∀ entry ∈ buckets, (∃ row, Comes windows now entry row .allowed) ∨
        ∃ earlier, Comes windows now entry (seen windows entry.bucket now) (.limited earlier) ∧ earlier ≤ retryAt) ∧
      now.value < timestampEnd := by
  obtain ⟨locked, found, ⟨wrong, _⟩ | ⟨last, same, full, kept⟩⟩ := take_windows_locked takes
  · cases wrong
  · cases same
    obtain ⟨entry, among, comes⟩ := found.limited retryAt full
    refine ⟨kept, ⟨entry, among, comes⟩, ?_, found.timed (List.ne_nil_of_mem among)⟩
    intro other there
    rcases found.covered other there with ⟨row, fits, _⟩ | ⟨earlier, last, fits, known, before⟩
    · exact .inl ⟨row, fits⟩
    · rw [full, Option.some.injEq] at known
      exact .inr ⟨earlier, fits, known ▸ before⟩

end

end AgentRoom.NetworkAgents
