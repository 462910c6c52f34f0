import AgentRoom.Projection.Reading

namespace AgentRoom

open Library

theorem mem_timeline_steps (mutations : List MessageProjectionMutation) (index : Nat) (issues : List MessageSyncIssue)
    (item : TimelineStep) : item ∈ timelineSteps index mutations issues ↔
      (∃ issue ∈ issues, item = .isolate issue) ∨ ∃ mutation ∈ mutations, item = .write mutation := by
  induction mutations generalizing index issues with
  | nil => simp [timelineSteps, eq_comm]
  | cons mutation rest ih =>
    have split (due : MessageSyncIssue → Bool) :
        (∃ issue ∈ issues, item = .isolate issue) ↔
          (∃ issue ∈ issues.takeWhile due, item = .isolate issue) ∨ ∃ issue ∈ issues.dropWhile due, item = .isolate issue := by
      conv_lhs => rw [← List.takeWhile_append_dropWhile (p := due) (l := issues)]
      simp only [List.mem_append, or_and_right, exists_or]
    rw [timelineSteps, List.mem_append, List.mem_cons, ih, List.mem_map, split fun issue => issue.mutationsBefore ≤ index]
    simp only [List.mem_cons, exists_eq_or_imp, eq_comm (a := item)]
    grind

namespace Tables

-- What a stretch of timeline leaves: nothing that was there is gone, and what
-- is new comes from it.
structure TimelineWritten (tables next : Tables) (mutations : List MessageProjectionMutation)
    (issues : List MessageSyncIssue) : Prop where
  keepsEvents : ∀ row ∈ tables.events, row ∈ next.events
  keepsIssues : ∀ row ∈ tables.issues, row ∈ next.issues
  newEvents : ∀ row ∈ next.events, row ∈ tables.events ∨
    ∃ mutation ∈ mutations, row.eventId = mutation.eventId ∧ row.roomId = mutation.roomId
  newIssues : ∀ row ∈ next.issues, row ∈ tables.issues ∨ ∃ issue ∈ issues, row.eventId = issue.eventId ∧ row.roomId = issue.roomId
  written : ∀ mutation ∈ mutations, ∃ row ∈ next.events, row.eventId = mutation.eventId
  isolated : ∀ issue ∈ issues, ∃ row ∈ next.issues, row.roomId = issue.roomId ∧ row.eventId = issue.eventId

variable {tables : Tables}

theorem apply_timeline_written {next : Tables} {issues : List MessageSyncIssue}
    (run : tables.applyTimeline syncToken mutations issues = .ok next) : TimelineWritten tables next mutations issues := by
  rw [applyTimeline, apply_timeline_steps] at run
  let kept (reached : Tables) : Prop :=
    (∀ row ∈ tables.events, row ∈ reached.events) ∧ (∀ row ∈ tables.issues, row ∈ reached.issues) ∧
      (∀ row ∈ reached.events, row ∈ tables.events ∨
        ∃ mutation ∈ mutations, row.eventId = mutation.eventId ∧ row.roomId = mutation.roomId) ∧
      ∀ row ∈ reached.issues, row ∈ tables.issues ∨ ∃ issue ∈ issues, row.eventId = issue.eventId ∧ row.roomId = issue.roomId
  have initial : kept tables :=
    ⟨fun _ listed => listed, fun _ listed => listed, fun _ listed => .inl listed, fun _ listed => .inl listed⟩
  have final : kept next := by
    refine fold_ok_invariant (TimelineStep.perform syncToken) kept _ ?_ tables next initial run
    rintro item listed before after ⟨events, isolated, newEvents, newIssues⟩ stepped
    rcases (mem_timeline_steps mutations 0 issues item).mp listed with ⟨issue, given, same⟩ | ⟨mutation, given, same⟩
    · subst same
      obtain ⟨reserved, inserted⟩ := persist_issue_insert syncToken before stepped
      subst inserted
      refine ⟨events, fun row was => insert_or_ignore_subset (isolated row was), newEvents, fun row is => ?_⟩
      rcases insert_or_ignore_mem is with earlier | new
      · exact newIssues row earlier
      · exact .inr ⟨issue, given, by simp [new, issueRow]⟩
    · subst same
      obtain ⟨encoded, encodes, rest⟩ := unbind stepped
      obtain ⟨sequence, _, writes⟩ := unbind rest
      obtain ⟨eventId, roomId⟩ := encoded_ids encodes
      rcases write_mutation_log writes with ⟨still, _⟩ | ⟨event, named, room, logged⟩
      · subst still
        exact ⟨events, isolated, newEvents, newIssues⟩
      · rw [logged]
        refine ⟨fun row was => List.mem_append_left _ (events row was), isolated, fun row is => ?_, newIssues⟩
        rcases List.mem_append.mp is with earlier | new
        · exact newEvents row earlier
        · cases List.mem_singleton.mp new
          exact .inr ⟨mutation, given, named.trans eventId, room.trans roomId⟩
  have taken := loop_takes (timeline_absorbs syncToken) _ tables next run
  refine ⟨final.1, final.2.1, final.2.2.1, final.2.2.2, fun mutation listed => ?_, fun issue listed => ?_⟩
  · obtain ⟨encoded, encodes, _, row, logged, named⟩ :=
      taken (.write mutation) ((mem_timeline_steps ..).mpr (.inr ⟨mutation, listed, rfl⟩))
    exact ⟨row, logged, named.trans (encoded_ids encodes).1⟩
  · have has := taken (.isolate issue) ((mem_timeline_steps ..).mpr (.inl ⟨issue, listed, rfl⟩))
    obtain ⟨row, kept, same⟩ := List.any_eq_true.mp has
    obtain ⟨_, room, named, _⟩ := of_decide_eq_true same
    exact ⟨row, kept, room.symm, named.symm⟩

structure GapsKept (tables next : Tables) (batch : MessageProjectionBatch) : Prop where
  keepsGaps : ∀ row ∈ tables.gaps, row ∈ next.gaps
  keepsLosses : ∀ loss ∈ tables.losses, loss ∈ next.losses
  newGaps : ∀ row ∈ next.gaps, row ∈ tables.gaps ∨ ∃ gap ∈ batch.gaps, row = gapRow batch tables gap
  newLosses : ∀ loss ∈ next.losses, loss ∈ tables.losses ∨ ∃ gap ∈ batch.gaps, ∃ before, gap.previousBatch = none ∧
    firstNewMessage batch.mutations gap.roomId = some before ∧
    loss = ⟨gap.roomId, before, tables.latestEvent gap.roomId⟩
  recorded : ∀ gap ∈ batch.gaps, ∃ row ∈ next.gaps, row.roomId = gap.roomId ∧ row.previousBatch = gap.previousBatch
  lost : ∀ gap ∈ batch.gaps, gap.previousBatch = none → ∀ before, firstNewMessage batch.mutations gap.roomId = some before →
    ∃ loss ∈ next.losses, loss.roomId = gap.roomId ∧ loss.beforeEventId = before

theorem gaps_kept_beside (kept : GapsKept tables before batch) (gaps : next.gaps = before.gaps)
    (losses : next.losses = before.losses) : GapsKept tables next batch := by
  obtain ⟨keepsGaps, keepsLosses, newGaps, newLosses, recorded, lost⟩ := kept
  rw [← gaps] at keepsGaps newGaps recorded
  rw [← losses] at keepsLosses newLosses lost
  exact ⟨keepsGaps, keepsLosses, newGaps, newLosses, recorded, lost⟩

theorem persist_gaps_recorded (tables : Tables) (batch : MessageProjectionBatch) :
    Beside tables (tables.persistGaps batch) ∧ GapsKept tables (tables.persistGaps batch) batch := by
  let kept (reached : Tables) : Prop :=
    Beside tables reached ∧ (∀ row ∈ tables.gaps, row ∈ reached.gaps) ∧ (∀ loss ∈ tables.losses, loss ∈ reached.losses) ∧
      (∀ row ∈ reached.gaps, row ∈ tables.gaps ∨ ∃ gap ∈ batch.gaps, row = gapRow batch tables gap) ∧
      ∀ loss ∈ reached.losses, loss ∈ tables.losses ∨ ∃ gap ∈ batch.gaps, ∃ before, gap.previousBatch = none ∧
        firstNewMessage batch.mutations gap.roomId = some before ∧
        loss = ⟨gap.roomId, before, tables.latestEvent gap.roomId⟩
  have initial : kept tables := ⟨⟨rfl, rfl, rfl⟩, fun _ listed => listed, fun _ listed => listed,
    fun _ listed => .inl listed, fun _ listed => .inl listed⟩
  have final : kept (tables.persistGaps batch) := by
    refine List.foldlRecOn batch.gaps (persistGap batch) initial ?_
    rintro before ⟨beside, gaps, losses, newGaps, newLosses⟩ gap given
    have sameLatest : before.latestEvent gap.roomId = tables.latestEvent gap.roomId := by
      rw [latestEvent, latestEvent, beside.current]
    have sameRow : gapRow batch before gap = gapRow batch tables gap := by rw [gapRow, gapRow, sameLatest]
    have grown : ∀ row ∈ (gapRecorded batch before gap).gaps, row ∈ tables.gaps ∨
        ∃ gap ∈ batch.gaps, row = gapRow batch tables gap := by
      intro row is
      rcases insert_or_ignore_mem is with earlier | new
      · exact newGaps row earlier
      · exact .inr ⟨gap, given, new.trans sameRow⟩
    have stays : ∀ row ∈ tables.gaps, row ∈ (gapRecorded batch before gap).gaps :=
      fun row was => insert_or_ignore_subset (gaps row was)
    have moved := beside_trans beside (persist_gap_beside batch before gap)
    rcases persist_gap_cases batch before gap with ⟨first, absent, found, written⟩ | ⟨_, written⟩
    · rw [written] at moved ⊢
      refine ⟨moved, stays, fun loss was => insert_or_ignore_subset (losses loss was), grown, fun loss is => ?_⟩
      rcases insert_or_ignore_mem is with earlier | new
      · exact newLosses loss earlier
      · exact .inr ⟨gap, given, first, absent, found, sameLatest ▸ new⟩
    · rw [written] at moved ⊢
      exact ⟨moved, stays, losses, grown, newLosses⟩
  have taken := loop_takes (gaps_absorb batch) batch.gaps tables _ (persist_gaps_loop tables batch)
  refine ⟨final.1, final.2.1, final.2.2.1, final.2.2.2.1, final.2.2.2.2, fun gap given => ?_,
    fun gap given absent before first => ?_⟩
  · obtain ⟨row, listed, keyed⟩ := List.any_eq_true.mp (taken gap given).1
    obtain ⟨_, room, token⟩ := of_decide_eq_true keyed
    exact ⟨row, listed, room, token⟩
  · obtain ⟨loss, listed, keyed⟩ := List.any_eq_true.mp ((taken gap given).2 before absent first)
    obtain ⟨room, before⟩ := of_decide_eq_true keyed
    exact ⟨loss, listed, room, before⟩

theorem picked_listed {pick : Option α → α → Option α} (picks : ∀ best item, pick best item = some item ∨ pick best item = best)
    {items : List α} (item : α) (picked : items.foldl pick none = some item) : item ∈ items := by
  have within := List.foldlRecOn (motive := fun best => ∀ item, best = some item → item ∈ items) items pick
    (b := none) (fun item absent => by cases absent) (fun best held next listed other found => by
      rcases picks best next with taken | kept
      · rw [taken] at found
        exact Option.some.inj found ▸ listed
      · exact held other (kept ▸ found))
  exact within item picked

theorem latest_event_listed (latest : tables.latestEvent roomId = some eventId) :
    ∃ row ∈ tables.current, row.roomId = roomId ∧ row.baseEventId = eventId := by
  obtain ⟨row, picked, named⟩ := Option.map_eq_some_iff.mp latest
  have listed := picked_listed (fun best row => ?_) row picked
  · rw [List.mem_filter, decide_eq_true_eq] at listed
    exact ⟨row, listed.1, listed.2, named⟩
  · cases best with
    | none => exact .inl rfl
    | some held =>
      by_cases newest : newer row held = true
      · exact .inl (if_pos newest)
      · exact .inr (if_neg newest)

theorem first_new_message_listed (found : firstNewMessage mutations roomId = some eventId) :
    ∃ message, .preview message ∈ mutations ∧ message.roomId = roomId ∧ message.eventId = eventId := by
  obtain ⟨mutation, listed, named⟩ := List.exists_of_findSome?_eq_some found
  cases mutation with
  | revision edit => cases named
  | preview message =>
    dsimp only at named
    split at named
    · rename_i here
      exact ⟨message, listed, here, Option.some.inj named⟩
    · cases named

theorem first_new_message_some
    (listed : .preview message ∈ mutations) : ∃ eventId, firstNewMessage mutations message.roomId = some eventId := by
  rw [← Option.isSome_iff_exists, firstNewMessage, List.findSome?_isSome_iff]
  exact ⟨.preview message, listed, by simp⟩

end Tables

end AgentRoom

namespace AgentRoom.MessageSync

open Library

-- A room as a sequence read from its newest end.
def ledger (server : Homeserver) (tables : Tables) (roomId : MatrixRoomId) : Ledger Nat where
  known position := Known tables roomId (server.eventId roomId position)
  pending finish := ∃ row ∈ tables.gaps, row.roomId = roomId ∧
    ∃ token, row.previousBatch = some token ∧ finish = server.position roomId token
  lost after before := ∃ loss ∈ tables.losses, loss.roomId = roomId ∧
    loss.afterEventId = after.map (server.eventId roomId) ∧ loss.beforeEventId = server.eventId roomId before

theorem covered_iff (server : Homeserver) (tables : Tables) (roomId : MatrixRoomId) (position : Nat) :
    Covered server tables roomId position ↔ (ledger server tables roomId).Covers position := by
  constructor
  · rintro (known | ⟨row, listed, room, token, named, within, clear⟩ | ⟨loss, listed, room, after, before, first, second,
      within, behind⟩)
    · exact .inl known
    · exact .inr (.inl ⟨_, ⟨row, listed, room, token, named, rfl⟩, within, clear⟩)
    · exact .inr (.inr ⟨after, before, ⟨loss, listed, room, first, second⟩, within, behind⟩)
  · rintro (known | ⟨finish, ⟨row, listed, room, token, named, same⟩, within, clear⟩ | ⟨after, before,
      ⟨loss, listed, room, first, second⟩, within, behind⟩)
    · exact .inl known
    · subst same
      exact .inr (.inl ⟨row, listed, room, token, named, within, clear⟩)
    · exact .inr (.inr ⟨loss, listed, room, after, before, first, second, within, behind⟩)

-- What a stretch of served events made known: the range of positions it covers,
-- and nothing else.
structure Learns (server : Homeserver) (tables next : Tables) (range : MatrixRoomId → Nat → Prop) : Prop where
  keepsLogged : ∀ roomId eventId, Logged tables roomId eventId → Logged next roomId eventId
  keeps : ∀ roomId eventId, Known tables roomId eventId → Known next roomId eventId
  joined : ∀ roomId eventId, Known next roomId eventId →
    Known tables roomId eventId ∨ ∃ position, range roomId position ∧ eventId = server.eventId roomId position
  taken : ∀ roomId position, range roomId position → server.message roomId position = true →
    Known next roomId (server.eventId roomId position)

structure Shows (server : Homeserver) (seen : MatrixRoomId → MatrixTimelineEvent → Prop)
    (range : MatrixRoomId → Nat → Prop) : Prop where
  sound : ∀ roomId event, seen roomId event → ∃ position, range roomId position ∧ server.Delivers roomId position event
  whole : ∀ roomId position, range roomId position → ∃ event, seen roomId event ∧ server.Delivers roomId position event

section

variable {server : Homeserver} {tables next : Tables}

section

variable (placed : ∀ roomId eventId, Known tables roomId eventId → ∃ position, eventId = server.eventId roomId position)
include placed

theorem written_logged (shows : Shows server seen range) (reads : Reads authenticate seen found)
    (written : Tables.TimelineWritten tables next found.mutations found.issues) (listed : mutation ∈ found.mutations) :
    Logged next mutation.roomId mutation.eventId ∧
      ∃ position, range mutation.roomId position ∧ mutation.eventId = server.eventId mutation.roomId position := by
  have placedAt (other : MessageProjectionMutation) (given : other ∈ found.mutations) :
      ∃ position, range other.roomId position ∧ other.eventId = server.eventId other.roomId position := by
    obtain ⟨event, was, named⟩ := reads.writes other given
    obtain ⟨position, inside, delivers⟩ := shows.sound other.roomId event was
    exact ⟨position, inside, Option.some.inj (named.symm.trans delivers.1)⟩
  obtain ⟨position, inside, here⟩ := placedAt mutation listed
  obtain ⟨row, stored, named⟩ := written.written mutation listed
  have room : row.roomId = mutation.roomId := by
    rcases written.newEvents row stored with earlier | ⟨other, given, same, sameRoom⟩
    · obtain ⟨position', there⟩ := placed row.roomId row.eventId (.inl ⟨row, earlier, rfl, rfl⟩)
      exact (server.distinct _ _ _ _ (there.symm.trans (named.trans here))).1
    · obtain ⟨position', _, there⟩ := placedAt other given
      exact sameRoom.trans (server.distinct _ _ _ _ (there.symm.trans (same.symm.trans (named.trans here)))).1
  exact ⟨⟨row, stored, room, named⟩, position, inside, here⟩

theorem written_learns (shows : Shows server seen range) (reads : Reads authenticate seen found)
    (written : Tables.TimelineWritten tables next found.mutations found.issues) : Learns server tables next range where
  keepsLogged := fun roomId eventId ⟨row, listed, room, named⟩ => ⟨row, written.keepsEvents row listed, room, named⟩
  keeps := by
    rintro roomId eventId (⟨row, listed, room, named⟩ | ⟨row, listed, room, named⟩)
    · exact .inl ⟨row, written.keepsEvents row listed, room, named⟩
    · exact .inr ⟨row, written.keepsIssues row listed, room, named⟩
  joined := by
    rintro roomId eventId (⟨row, listed, room, named⟩ | ⟨row, listed, room, named⟩)
    · rcases written.newEvents row listed with earlier | ⟨mutation, given, same, sameRoom⟩
      · exact .inl (.inl ⟨row, earlier, room, named⟩)
      · obtain ⟨_, position, inside, here⟩ := written_logged placed shows reads written given
        have there : mutation.roomId = roomId := sameRoom.symm.trans room
        rw [there] at inside here
        exact .inr ⟨position, inside, named.symm.trans (same.trans here)⟩
    · rcases written.newIssues row listed with earlier | ⟨issue, given, same, sameRoom⟩
      · exact .inl (.inr ⟨row, earlier, room, named⟩)
      · obtain ⟨event, was, source⟩ := reads.isolates issue given
        rw [← sameRoom, room] at was
        obtain ⟨position, inside, delivers⟩ := shows.sound roomId event was
        refine .inr ⟨position, inside, Option.some.inj ?_⟩
        rw [← named, same, ← source, delivers.1]
  taken := by
    intro roomId position inside isMessage
    obtain ⟨event, was, named, carries⟩ := shows.whole roomId position inside
    have readable : readable event = true := by
      rw [readable, Bool.or_eq_true]
      exact carries isMessage
    rcases reads.takes roomId event was readable with ⟨mutation, given, room, same⟩ | ⟨issue, given, room, same⟩
    · have logged := (written_logged placed shows reads written given).1
      rw [room, Option.some.inj (same.symm.trans named)] at logged
      exact .inl logged
    · obtain ⟨row, listed, sameRoom, sameEvent⟩ := written.isolated issue given
      exact .inr ⟨row, listed, sameRoom.trans room, sameEvent.trans (same.trans named)⟩

theorem first_preview_logged (shows : Shows server seen range) (reads : Reads authenticate seen found)
    (written : Tables.TimelineWritten tables next found.mutations found.issues) (roomId : MatrixRoomId) (eventId : MatrixEventId)
    (first : Tables.firstNewMessage found.mutations roomId = some eventId) :
    Logged next roomId eventId ∧ ∃ position, range roomId position ∧ eventId = server.eventId roomId position := by
  obtain ⟨message, listed, room, named⟩ := Tables.first_new_message_listed first
  have logged := written_logged placed shows reads written listed
  simp only [MessageProjectionMutation.roomId, MessageProjectionMutation.eventId, room, named] at logged
  exact logged

end

theorem opened_preview_first (reads : Reads authenticate seen found) (roomId : MatrixRoomId)
    (opened : ∃ event, seen roomId event ∧ opensMessage authenticate roomId event = true) :
    ∃ eventId, Tables.firstNewMessage found.mutations roomId = some eventId := by
  obtain ⟨event, was, opens⟩ := opened
  obtain ⟨message, listed, room, _⟩ := reads.opens roomId event was opens
  exact room ▸ Tables.first_new_message_some listed

end

-- What holds of the store and what the syncs have shown of each room in every
-- state of a run.
structure Tracked (server : Homeserver) (state : SyncState) : Prop where
  consistent : Consistent state.tables
  placed : ∀ roomId eventId, Known state.tables roomId eventId →
    ∃ progress position, state.followed roomId = some progress ∧ position < progress.reached ∧
      eventId = server.eventId roomId position
  ordered : ∀ roomId progress, state.followed roomId = some progress → progress.shownFrom ≤ progress.reached
  gaps : ∀ row ∈ state.tables.gaps, ∀ token, row.previousBatch = some token →
    ∃ progress, state.followed row.roomId = some progress ∧ server.position row.roomId token ≤ progress.shownFrom
  afters : ∀ row ∈ state.tables.gaps, ∀ eventId, row.afterEventId = some eventId → Known state.tables row.roomId eventId
  befores : ∀ row ∈ state.tables.gaps, ∀ token, row.previousBatch = some token → ∀ eventId,
    row.beforeEventId = some eventId → Logged state.tables row.roomId eventId ∧
      ∃ position, eventId = server.eventId row.roomId position ∧ server.position row.roomId token ≤ position
  losses : ∀ loss ∈ state.tables.losses, Logged state.tables loss.roomId loss.beforeEventId ∧
    ∀ eventId, loss.afterEventId = some eventId → Known state.tables loss.roomId eventId
  nothingLost : NothingLost server state

theorem initial_tracked (server : Homeserver) : Tracked server .initial := by
  have nothing (roomId : MatrixRoomId) (eventId : MatrixEventId) : ¬ Known Tables.empty roomId eventId := by
    simp [Known, Logged, Isolated, Tables.empty]
  exact {
    consistent := empty_consistent
    placed := fun roomId eventId known => (nothing roomId eventId known).elim
    ordered := by simp [SyncState.initial]
    gaps := by simp [SyncState.initial, Tables.empty]
    afters := by simp [SyncState.initial, Tables.empty]
    befores := by simp [SyncState.initial, Tables.empty]
    losses := by simp [SyncState.initial, Tables.empty]
    nothingLost := ⟨by simp [SyncState.initial], by simp [SyncState.initial]⟩ }

theorem known_position (tracked : Tracked server state) (roomId : MatrixRoomId) (eventId : MatrixEventId)
    (known : Known state.tables roomId eventId) : ∃ position, eventId = server.eventId roomId position := by
  obtain ⟨_, position, _, _, here⟩ := tracked.placed roomId eventId known
  exact ⟨position, here⟩

theorem known_below (tracked : Tracked server state) (followed : state.followed roomId = some progress)
    (known : Known state.tables roomId (server.eventId roomId position)) : position < progress.reached := by
  obtain ⟨progress', position', followed', below, here⟩ := tracked.placed roomId _ known
  rw [followed] at followed'
  cases followed'
  rwa [(server.distinct _ _ _ _ here).2]

theorem latest_known (tracked : Tracked server state)
    (latest : state.tables.latestEvent roomId = some eventId) : Known state.tables roomId eventId := by
  obtain ⟨row, listed, room, named⟩ := Tables.latest_event_listed latest
  obtain ⟨base, stored, shown⟩ := tracked.consistent.rows row listed
  exact .inl ⟨base, stored, shown.room.symm.trans room, shown.baseEvent.symm.trans named⟩

end AgentRoom.MessageSync
