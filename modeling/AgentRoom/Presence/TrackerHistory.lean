import AgentRoom.Presence.Lifecycle

namespace AgentRoom.Presence

inductive Happening where
  | reset (moment : Int)
  | reported (presence : MatrixUserPresence) (moment : Int)
  | passed (moment : Int)
  | fetched (asked : MatrixUserId) (presence : MatrixUserPresence) (moment : Int)

def Happening.moment : Happening → Int
  | .reset moment | .reported _ moment | .passed moment | .fetched _ _ moment => moment

inductive TrackerUpdate where
  | sync (update : MatrixPresenceUpdate)
  | fetched (userId : MatrixUserId) (presence : Option MatrixUserPresence) (moment : UtcMillis)

namespace TrackerUpdate

def moment : TrackerUpdate → UtcMillis
  | .sync update => update.observedAt
  | .fetched _ _ moment => moment

def happenings : TrackerUpdate → List Happening
  | .sync update =>
    (if update.fullState then [.reset update.observedAt.toInt] else []) ++
      update.users.map (fun presence => .reported presence update.observedAt.toInt) ++
      [.passed update.observedAt.toInt]
  | .fetched userId (some presence) moment => [.fetched userId presence moment.toInt]
  | .fetched _ none _ => []

def apply (tracker : MatrixPresenceTracker) : TrackerUpdate → MatrixPresenceTracker
  | .sync update => tracker.applySync update
  | .fetched userId presence moment => tracker.recordFetched userId presence moment

end TrackerUpdate

def track (updates : List TrackerUpdate) : MatrixPresenceTracker := updates.foldl TrackerUpdate.apply .default

def history (updates : List TrackerUpdate) : List Happening := (updates.flatMap TrackerUpdate.happenings).reverse

-- The state last reported for a user since the last full sync. An answer that
-- was asked for counts only when nothing was known of the one it was asked for.
def lastKnown : List Happening → MatrixUserId → Option MatrixPresenceState
  | [], _ => none
  | .reset _ :: _, _ => none
  | .passed _ :: before, userId => lastKnown before userId
  | .reported presence _ :: before, userId =>
    if presence.userId = userId then some presence.state else lastKnown before userId
  | .fetched asked presence _ :: before, userId =>
    if lastKnown before asked = none ∧ presence.userId = userId then some presence.state
    else lastKnown before userId

def reportOf (before : List Happening) (userId : MatrixUserId) : Happening → Option MatrixPresenceState
  | .reported presence _ => if presence.userId = userId then some presence.state else none
  | .fetched asked presence _ =>
    if lastKnown before asked = none ∧ presence.userId = userId then some presence.state else none
  | .reset _ | .passed _ => none

-- The user is confirmed not to be offline: it is reported so, or a sync comes
-- through that says nothing else of it.
def Confirms (before : List Happening) (userId : MatrixUserId) (happening : Happening) : Prop :=
  (∃ state, reportOf before userId happening = some state ∧ state ≠ .offline) ∨
    (∃ moment state, happening = .passed moment ∧ lastKnown before userId = some state ∧ state ≠ .offline)

def Quiet (before : List Happening) (userId : MatrixUserId) : List Happening → Prop
  | [] => True
  | happening :: rest =>
    (∀ moment, happening ≠ .reset moment) ∧
      (∀ state, reportOf (rest ++ before) userId happening = some state → state = .offline) ∧
      Quiet before userId rest

def ConfirmedAt (history : List Happening) (userId : MatrixUserId) (moment : Int) : Prop :=
  ∃ later happening before, history = later ++ happening :: before ∧ Confirms before userId happening ∧
    happening.moment = moment ∧ Quiet (happening :: before) userId later

abbrev Entries := MatrixUserId → Option TrackedPresence

def record (entries : Entries) (presence : MatrixUserPresence) (moment : Int) : Entries :=
  Function.update entries presence.userId (some (tracked (entries presence.userId) presence moment))

def happen (entries : Entries) : Happening → Entries
  | .reset _ => fun _ => none
  | .reported presence moment => record entries presence moment
  | .passed moment => fun userId => (entries userId).map (confirmed moment)
  | .fetched asked presence moment => if entries asked = none then record entries presence moment else entries

theorem apply_happens (tracker : MatrixPresenceTracker) (update : TrackerUpdate) :
    (update.apply tracker).entries = update.happenings.foldl happen tracker.entries := by
  cases update with
  | sync update =>
    have recorded (users : List MatrixUserPresence) (start : MatrixPresenceTracker) :
        (users.foldl (fun tracker presence => tracker.record presence update.observedAt.toInt) start).entries =
          (users.map fun presence => Happening.reported presence update.observedAt.toInt).foldl happen
            start.entries := by
      induction users generalizing start with
      | nil => rfl
      | cons presence rest ih => exact ih (start.record presence update.observedAt.toInt)
    cases full : update.fullState with
    | true =>
      have rest := recorded update.users tracker.clear
      simp only [TrackerUpdate.apply, MatrixPresenceTracker.applySync, TrackerUpdate.happenings, full, if_true,
        List.foldl_append, List.foldl_cons, List.foldl_nil, MatrixPresenceTracker.confirmAll, happen]
      rw [rest]
      rfl
    | false =>
      have rest := recorded update.users tracker
      simp only [TrackerUpdate.apply, MatrixPresenceTracker.applySync, TrackerUpdate.happenings, full,
        List.foldl_append, List.foldl_cons, List.foldl_nil, MatrixPresenceTracker.confirmAll, happen]
      simp only [Bool.false_eq_true, if_false, List.foldl_nil]
      rw [rest]
  | fetched userId presence moment =>
    cases presence with
    | none => rfl
    | some presence =>
      cases known : tracker.entries userId with
      | none => simp [TrackerUpdate.apply, MatrixPresenceTracker.recordFetched, TrackerUpdate.happenings, happen,
          known, MatrixPresenceTracker.record, record]
      | some entry => simp [TrackerUpdate.apply, MatrixPresenceTracker.recordFetched, TrackerUpdate.happenings, happen, known]

theorem track_happens {updates : List TrackerUpdate} : (updates.foldl TrackerUpdate.apply tracker).entries =
      (updates.flatMap TrackerUpdate.happenings).foldl happen tracker.entries := by
  induction updates generalizing tracker with
  | nil => rfl
  | cons update rest ih =>
    rw [List.foldl_cons, ih, apply_happens, List.flatMap_cons, List.foldl_append]

theorem happening_moment {update : TrackerUpdate} {happening : Happening} (listed : happening ∈ update.happenings) :
    happening.moment = update.moment.toInt := by
  cases update with
  | sync update =>
    simp only [TrackerUpdate.happenings, List.append_assoc, List.mem_append, List.mem_map, List.mem_singleton] at listed
    rcases listed with reset | ⟨presence, _, rfl⟩ | rfl
    · split at reset
      · obtain rfl := List.mem_singleton.mp reset
        rfl
      · cases reset
    · rfl
    · rfl
  | fetched userId presence moment =>
    cases presence with
    | none => cases listed
    | some presence =>
      obtain rfl := List.mem_singleton.mp listed
      rfl

theorem happenings_ordered (updates : List TrackerUpdate)
    (ordered : updates.Pairwise fun first second => first.moment ≤ second.moment) :
    (updates.flatMap TrackerUpdate.happenings).Pairwise fun first second => first.moment ≤ second.moment := by
  refine List.pairwise_flatMap.mpr ⟨fun update _ => ?_, ordered.imp fun early one listed other found => ?_⟩
  · apply List.pairwise_of_forall_mem_list
    intro one listed other found
    exact Int.le_of_eq ((happening_moment listed).trans (happening_moment found).symm)
  · rw [happening_moment listed, happening_moment found]
    exact Int.ofNat_le.mpr early

structure Founded (history : List Happening) (userId : MatrixUserId) (entry : TrackedPresence) : Prop where
  known : lastKnown history userId = some entry.observation.state
  away : entry.observation.state = .offline → entry.confirmedAt = none
  confirmed : entry.observation.state ≠ .offline → ∃ moment, entry.confirmedAt = some moment ∧ ConfirmedAt history userId moment
  seen : ∀ moment, entry.observation.offlineSeenAt = some moment → entry.observation.state = .offline ∧
      ∃ earlier, ConfirmedAt history userId earlier ∧ moment - watchingGapMs ≤ earlier ∧ earlier ≤ moment

def Justified (history : List Happening) (entries : Entries) : Prop :=
  ∀ userId, match entries userId with
    | none => lastKnown history userId = none
    | some entry => Founded history userId entry

section

variable (history : List Happening) (userId : MatrixUserId) (happening : Happening)

theorem confirmed_at_last (confirms : Confirms history userId happening) :
    ConfirmedAt (happening :: history) userId happening.moment :=
  ⟨[], happening, history, rfl, confirms, rfl, trivial⟩

theorem confirmed_at_grows (running : ∀ reset, happening ≠ .reset reset)
    (quiet : ∀ state, reportOf history userId happening = some state → state = .offline)
    (confirmed : ConfirmedAt history userId moment) : ConfirmedAt (happening :: history) userId moment := by
  obtain ⟨later, found, before, shape, confirms, same, still⟩ := confirmed
  refine ⟨happening :: later, found, before, by rw [shape]; rfl, confirms, same, running, ?_, still⟩
  rw [← shape]
  exact quiet

theorem confirmed_at_past (confirmed : ConfirmedAt history userId moment) : ∃ found ∈ history, found.moment = moment := by
  obtain ⟨later, found, before, rfl, _, same, _⟩ := confirmed
  exact ⟨found, by simp, same⟩

theorem known_reported (reported : reportOf history userId happening = some state) :
    lastKnown (happening :: history) userId = some state := by
  cases happening with
  | reset moment => cases reported
  | passed moment => cases reported
  | reported presence moment =>
    by_cases same : presence.userId = userId
    · simpa [reportOf, lastKnown, same] using reported
    · simp [reportOf, same] at reported
  | fetched asked presence moment =>
    by_cases taken : lastKnown history asked = none ∧ presence.userId = userId
    · simpa [reportOf, lastKnown, taken] using reported
    · simp only [reportOf, if_neg taken] at reported
      cases reported

theorem known_unreported (running : ∀ moment, happening ≠ .reset moment) (silent : reportOf history userId happening = none) :
    lastKnown (happening :: history) userId = lastKnown history userId := by
  cases happening with
  | reset moment => exact absurd rfl (running moment)
  | passed moment => rfl
  | reported presence moment =>
    by_cases same : presence.userId = userId
    · simp [reportOf, same] at silent
    · simp [lastKnown, same]
  | fetched asked presence moment =>
    by_cases taken : lastKnown history asked = none ∧ presence.userId = userId
    · simp [reportOf, taken] at silent
    · simp [lastKnown, if_neg taken]

theorem founded_silent (running : ∀ moment, happening ≠ .reset moment)
    (silent : reportOf history userId happening = none) (founded : Founded history userId entry) :
    Founded (happening :: history) userId entry := by
  have quiet : ∀ state, reportOf history userId happening = some state → state = .offline := by
    intro state reported
    rw [silent] at reported
    cases reported
  refine ⟨?_, founded.away, fun online => ?_, fun moment seen => ?_⟩
  · rw [known_unreported history userId happening running silent]
    exact founded.known
  · obtain ⟨moment, held, confirmed⟩ := founded.confirmed online
    exact ⟨moment, held, confirmed_at_grows history userId happening running quiet confirmed⟩
  · obtain ⟨offline, earlier, confirmed, recent, before⟩ := founded.seen moment seen
    exact ⟨offline, earlier, confirmed_at_grows history userId happening running quiet confirmed, recent, before⟩

theorem founded_passed (moment : Int) (founded : Founded history userId entry) :
    Founded (.passed moment :: history) userId (confirmed moment entry) := by
  have silent := founded_silent history userId (.passed moment) (fun _ same => (nomatch same)) rfl founded
  by_cases offline : entry.observation.state = .offline
  · have same : confirmed moment entry = entry := by simp [confirmed, offline]
    rw [same]
    exact silent
  · have changed : confirmed moment entry = { entry with confirmedAt := some moment } := by simp [confirmed, offline]
    rw [changed]
    refine ⟨silent.known, fun away => absurd away offline, fun _ => ⟨moment, rfl, ?_⟩, silent.seen⟩
    exact confirmed_at_last history userId (.passed moment) (.inr ⟨moment, _, rfl, founded.known, offline⟩)

theorem seen_offline (past : ∀ earlier ∈ history, earlier.moment ≤ now)
    (founded : ∀ entry ∈ previous, Founded history userId entry) (seen : offlineSeenAt previous now = some seenAt) :
    ∃ earlier, ConfirmedAt history userId earlier ∧ seenAt - watchingGapMs ≤ earlier ∧ earlier ≤ seenAt := by
  cases held : previous with
  | none =>
    rw [held] at seen
    cases seen
  | some entry =>
    rw [held] at seen
    have known := founded entry held
    by_cases offline : entry.observation.state = .offline
    · simp only [offlineSeenAt, if_pos offline] at seen
      exact (known.seen seenAt seen).2
    · obtain ⟨earlier, held, confirmed⟩ := known.confirmed offline
      obtain ⟨found, listed, same⟩ := confirmed_at_past history userId confirmed
      have before := past found listed
      simp only [offlineSeenAt, if_neg offline, held, Option.filter_some] at seen
      by_cases recent : now - earlier ≤ watchingGapMs
      · simp only [recent, decide_true, if_true, Option.map_some, Option.some.injEq] at seen
        exact ⟨earlier, confirmed, by omega, by omega⟩
      · simp [recent] at seen

theorem founded_reported
    (running : ∀ moment, happening ≠ .reset moment) (past : ∀ earlier ∈ history, earlier.moment ≤ happening.moment)
    (reported : reportOf history userId happening = some presence.state)
    (founded : ∀ entry ∈ previous, Founded history userId entry) :
    Founded (happening :: history) userId (tracked previous presence happening.moment) := by
  have known := known_reported history userId happening reported
  by_cases offline : presence.state = .offline
  · have quiet : ∀ state, reportOf history userId happening = some state → state = .offline := by
      intro state same
      rw [reported] at same
      cases same
      exact offline
    simp only [tracked, if_pos offline]
    refine ⟨known, fun _ => rfl, fun online => absurd offline online, fun moment seen => ⟨offline, ?_⟩⟩
    obtain ⟨earlier, confirmed, recent, before⟩ := seen_offline history userId past founded seen
    exact ⟨earlier, confirmed_at_grows history userId happening running quiet confirmed, recent, before⟩
  · simp only [tracked, if_neg offline]
    refine ⟨known, fun away => absurd away offline, fun _ => ⟨happening.moment, rfl, ?_⟩, fun _ seen => (nomatch seen)⟩
    exact confirmed_at_last history userId happening (.inl ⟨presence.state, reported, offline⟩)

end

theorem justified_known {history : List Happening} (justified : Justified history entries)
    (userId : MatrixUserId) : entries userId = none ↔ lastKnown history userId = none := by
  have here := justified userId
  cases held : entries userId with
  | none =>
    rw [held] at here
    simpa using here
  | some entry =>
    rw [held] at here
    simp [here.known]

theorem justified_entry {history : List Happening} (justified : Justified history entries)
    {userId : MatrixUserId} : ∀ entry ∈ entries userId, Founded history userId entry := by
  intro entry held
  have here := justified userId
  rw [Option.mem_def.mp held] at here
  exact here

theorem justified_record {history : List Happening} {happening : Happening} (justified : Justified history entries)
    (running : ∀ moment, happening ≠ .reset moment) (past : ∀ earlier ∈ history, earlier.moment ≤ happening.moment)
    (reported : reportOf history presence.userId happening = some presence.state)
    (silent : ∀ userId, userId ≠ presence.userId → reportOf history userId happening = none) :
    Justified (happening :: history) (record entries presence happening.moment) := by
  intro userId
  by_cases same : userId = presence.userId
  · subst same
    simp only [record, Function.update_self]
    exact founded_reported history _ happening running past reported
      (justified_entry justified)
  · simp only [record, Function.update_of_ne same]
    have here := justified userId
    cases held : entries userId with
    | none =>
      rw [held] at here
      exact (known_unreported history userId happening running (silent userId same)).trans here
    | some entry =>
      rw [held] at here
      exact founded_silent history userId happening running (silent userId same) here

theorem justified_step {history : List Happening} (happening : Happening)
    (justified : Justified history entries) (past : ∀ earlier ∈ history, earlier.moment ≤ happening.moment) :
    Justified (happening :: history) (happen entries happening) := by
  cases happening with
  | reset moment => exact fun _ => rfl
  | passed moment =>
    intro userId
    have here := justified userId
    cases held : entries userId with
    | none =>
      rw [held] at here
      simp only [happen, held, Option.map_none]
      exact here
    | some entry =>
      rw [held] at here
      simp only [happen, held, Option.map_some]
      exact founded_passed history userId moment here
  | reported presence moment =>
    refine justified_record justified
      (fun _ same => (nomatch same)) past ?_ fun userId apart => ?_
    · simp [reportOf]
    · simp [reportOf, Ne.symm apart]
  | fetched asked presence moment =>
    by_cases unknown : entries asked = none
    · have missing := (justified_known justified asked).mp unknown
      simp only [happen, if_pos unknown]
      refine justified_record justified
        (fun _ same => (nomatch same)) past ?_ fun userId apart => ?_
      · simp [reportOf, missing]
      · simp [reportOf, Ne.symm apart]
    · have present : ¬ lastKnown history asked = none := fun missing =>
        unknown ((justified_known justified asked).mpr missing)
      simp only [happen, if_neg unknown]
      have silent (userId : MatrixUserId) : reportOf history userId (.fetched asked presence moment) = none := by
        simp [reportOf, present]
      intro userId
      have here := justified userId
      cases held : entries userId with
      | none =>
        rw [held] at here
        have running (reset : Int) : Happening.fetched asked presence moment ≠ .reset reset := fun same => (nomatch same)
        exact (known_unreported history userId _ running (silent userId)).trans here
      | some entry =>
        rw [held] at here
        exact founded_silent history userId _ (fun _ same => (nomatch same)) (silent userId) here

theorem justified_run {happenings : List Happening}
    (ordered : happenings.Pairwise fun first second => first.moment ≤ second.moment) :
    Justified happenings.reverse (happenings.foldl happen fun _ => none) := by
  induction happenings using List.reverseRecOn with
  | nil => exact fun _ => rfl
  | append_singleton before last ih =>
    obtain ⟨earlier, _, ends⟩ := List.pairwise_append.mp ordered
    rw [List.foldl_append, List.reverse_append]
    refine justified_step last (ih earlier) fun found listed => ?_
    exact ends found (List.mem_reverse.mp listed) last (List.mem_singleton_self last)

-- An offline moment was seen: the user was confirmed shortly before it, and since
-- then no full sync came and nothing said that it was back.
theorem offline_moment_was_seen (updates : List TrackerUpdate)
    (ordered : updates.Pairwise fun first second => first.moment ≤ second.moment) (userId : MatrixUserId) :
    (∀ observation seenAt, (track updates).observation userId = some observation → observation.offlineSeenAt = some seenAt →
      ∃ earlier, ConfirmedAt (history updates) userId earlier ∧ seenAt - 120000 ≤ earlier ∧ earlier ≤ seenAt) ∧
      ((∀ earlier, ¬ ConfirmedAt (history updates) userId earlier) →
        ∀ observation, (track updates).observation userId = some observation → observation.offlineSeenAt = none) := by
  have justified := justified_run (happenings_ordered updates ordered)
  have entries : (track updates).entries = (updates.flatMap TrackerUpdate.happenings).foldl happen fun _ => none :=
    track_happens
  have seen : ∀ observation seenAt, (track updates).observation userId = some observation →
      observation.offlineSeenAt = some seenAt →
      ∃ earlier, ConfirmedAt (history updates) userId earlier ∧ seenAt - 120000 ≤ earlier ∧ earlier ≤ seenAt := by
    intro observation seenAt observed seen
    obtain ⟨entry, held, same⟩ := Option.map_eq_some_iff.mp observed
    rw [entries] at held
    have founded := justified_entry justified entry held
    rw [← same] at seen
    exact (founded.seen seenAt seen).2
  refine ⟨seen, fun never observation observed => ?_⟩
  cases held : observation.offlineSeenAt with
  | none => rfl
  | some seenAt =>
    obtain ⟨earlier, confirmed, _⟩ := seen observation seenAt observed held
    exact absurd confirmed (never earlier)

def ada : MatrixUserId := ⟨"@ada:example.org"⟩

def watchedUpdates : List TrackerUpdate :=
  [.sync ⟨⟨1000000, by decide⟩, true, [⟨ada, .online, some 0⟩]⟩, .sync ⟨⟨1030000, by decide⟩, false, []⟩,
    .sync ⟨⟨1060000, by decide⟩, false, [⟨ada, .offline, some 40000⟩]⟩]

theorem watched_offline_was_seen :
    ∃ earlier, ConfirmedAt (history watchedUpdates) ada earlier ∧ 1060000 - 120000 ≤ earlier ∧ earlier ≤ 1060000 :=
  (offline_moment_was_seen watchedUpdates (by decide) ada).1 ⟨.offline, some 1060000, some 1020000⟩ 1060000
    (by decide) rfl

end AgentRoom.Presence
