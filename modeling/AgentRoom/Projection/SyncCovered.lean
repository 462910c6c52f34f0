import AgentRoom.Projection.Covered

namespace AgentRoom.MessageSync

open Library

def shown (batch : MatrixSyncBatch) (shownFrom : MatrixRoomId → Nat) (roomId : MatrixRoomId) (position : Nat) : Prop :=
  ∃ room ∈ batch.joined, room.roomId = roomId ∧ shownFrom roomId ≤ position ∧ position < shownFrom roomId + room.timeline.length

theorem answers_show (server : Homeserver) (answers : server.Answers followed batch shownFrom) :
    Shows server (seenIn batch.joined) (shown batch shownFrom) where
  sound := by
    rintro roomId event ⟨room, listed, same, given⟩
    subst same
    obtain ⟨index, here⟩ := List.getElem?_of_mem given
    have within : index < room.timeline.length := (List.getElem?_eq_some_iff.mp here).1
    exact ⟨shownFrom room.roomId + index, ⟨room, listed, rfl, Nat.le_add_right _ _, Nat.add_lt_add_left within _⟩,
      answers.shows room listed index event here⟩
  whole := by
    rintro roomId position ⟨room, listed, same, above, below⟩
    subst same
    obtain ⟨event, here⟩ : ∃ event, room.timeline[position - shownFrom room.roomId]? = some event :=
      ⟨_, List.getElem?_eq_getElem (by omega)⟩
    have delivers := answers.shows room listed _ event here
    rw [Nat.add_sub_cancel' above] at delivers
    exact ⟨event, ⟨room, listed, rfl, List.mem_of_getElem? here⟩, delivers⟩

theorem advance_room (followed : MatrixRoomId → Option RoomProgress) (shownFrom : MatrixRoomId → Nat)
    (distinct : (batch.joined.map MatrixRoomSync.roomId).Nodup) (listed : room ∈ batch.joined) :
    advance followed batch shownFrom room.roomId = some {
      start := ((followed room.roomId).map RoomProgress.start).getD (shownFrom room.roomId)
      shownFrom := shownFrom room.roomId
      reached := shownFrom room.roomId + room.timeline.length } := by
  have found : batch.joined.find? (·.roomId = room.roomId) = some room := by
    cases first : batch.joined.find? (·.roomId = room.roomId) with
    | none => simpa using List.find?_eq_none.mp first room listed
    | some other =>
      have same : other.roomId = room.roomId := by simpa using List.find?_some first
      exact congrArg some (List.inj_on_of_nodup_map distinct (List.mem_of_find?_eq_some first) listed same)
  rw [advance, found]

theorem advance_other (followed : MatrixRoomId → Option RoomProgress) (batch : MatrixSyncBatch)
    (shownFrom : MatrixRoomId → Nat) (roomId : MatrixRoomId) (absent : ∀ room ∈ batch.joined, room.roomId ≠ roomId) :
    advance followed batch shownFrom roomId = followed roomId := by
  have none : batch.joined.find? (·.roomId = roomId) = none := by
    rw [List.find?_eq_none]
    intro room listed
    simpa using absent room listed
  rw [advance, none]

theorem mem_room_gaps (tables : Tables) (rooms : List MatrixRoomSync) :
    gap ∈ rooms.flatMap (roomGap tables) ↔ ∃ room ∈ rooms, room.timelineLimited = true ∧
      roomHasMessages tables room.roomId = true ∧ gap = ⟨room.roomId, room.previousBatch⟩ := by
  rw [List.mem_flatMap]
  refine exists_congr fun room => and_congr_right fun _ => ?_
  rw [roomGap]
  by_cases counts : (room.timelineLimited && roomHasMessages tables room.roomId) = true
  · rw [if_pos counts, List.mem_singleton]
    rw [Bool.and_eq_true] at counts
    simp [counts]
  · rw [if_neg counts]
    rw [Bool.and_eq_true, not_and] at counts
    simp only [List.not_mem_nil, false_iff]
    rintro ⟨limited, has, _⟩
    exact counts limited has

structure SyncEffect (server : Homeserver) (tables next : Tables) (authenticate : MessageEventAuthenticator)
    (batch : MatrixSyncBatch) (shownFrom : MatrixRoomId → Nat) (written : MessageProjectionBatch) : Prop
    extends Tables.GapsKept tables next written where
  consistent : Consistent next
  learns : Learns server tables next (shown batch shownFrom)
  gaps : written.gaps = batch.joined.flatMap (roomGap tables)
  first : ∀ roomId eventId, Tables.firstNewMessage written.mutations roomId = some eventId →
    Logged next roomId eventId ∧ ∃ position, shown batch shownFrom roomId position ∧ eventId = server.eventId roomId position
  opened : ∀ room ∈ batch.joined, (∃ event ∈ room.timeline, opensMessage authenticate room.roomId event = true) →
    ∃ eventId, Tables.firstNewMessage written.mutations room.roomId = some eventId

section

variable {server : Homeserver} {state : SyncState} {batch : MatrixSyncBatch} {shownFrom : MatrixRoomId → Nat}

theorem process_effect (tracked : Tracked server state) (answers : server.Answers state.followed batch shownFrom)
    (run : process reconciled authenticate state.tables batch = .ok (next, outcome)) :
    ∃ written, SyncEffect server state.tables next authenticate batch shownFrom written := by
  obtain ⟨_, _, rest⟩ := unbind run
  obtain ⟨gathered, gathers, rest'⟩ := unbind rest
  obtain ⟨tables, applies, built⟩ := unbind rest'
  cases built
  have applied : state.tables.applyBatch (gathered.batch batch.nextBatch) = .ok next := by
    cases ran : state.tables.applyBatch (gathered.batch batch.nextBatch) with
    | error failure => simp [ran, Except.mapError] at applies
    | ok result => simpa [ran, Except.mapError] using applies
  obtain ⟨reads, gaps⟩ := gather_reads gathers
  obtain ⟨after, timeline, moved⟩ := unbind applied
  cases moved
  obtain ⟨beside, recorded⟩ := Tables.persist_gaps_recorded state.tables (gathered.batch batch.nextBatch)
  obtain ⟨sameGaps, sameLosses⟩ := Tables.apply_timeline_beside timeline
  have wrote := Tables.apply_timeline_written timeline
  have fromTables : Tables.TimelineWritten state.tables after gathered.projected.mutations gathered.projected.issues := by
    obtain ⟨keepsEvents, keepsIssues, newEvents, newIssues, written, isolated⟩ := wrote
    rw [beside.events] at keepsEvents newEvents
    rw [beside.issues] at keepsIssues newIssues
    exact ⟨keepsEvents, keepsIssues, newEvents, newIssues, written, isolated⟩
  have placed := known_position tracked
  have shows := answers_show server answers
  have whole := written_learns placed shows reads fromTables
  exact ⟨gathered.batch batch.nextBatch, {
    toGapsKept := Tables.gaps_kept_beside recorded sameGaps sameLosses
    consistent := perform_consistent (.apply (gathered.batch batch.nextBatch)) tracked.consistent applied
    learns := ⟨whole.keepsLogged, whole.keeps, whole.joined, whole.taken⟩
    gaps
    first := fun roomId eventId found => first_preview_logged placed shows reads fromTables roomId eventId found
    opened := fun room listed ⟨event, given, opens⟩ =>
      opened_preview_first reads room.roomId ⟨event, ⟨room, listed, rfl, given⟩, opens⟩ }⟩

theorem followed_on (answers : server.Answers state.followed batch shownFrom) (followed : state.followed roomId = some progress) :
    ∃ later, advance state.followed batch shownFrom roomId = some later ∧ later.start = progress.start ∧
      progress.shownFrom ≤ later.shownFrom ∧ progress.reached ≤ later.reached := by
  by_cases here : ∃ room ∈ batch.joined, room.roomId = roomId
  · obtain ⟨room, listed, same⟩ := here
    subst same
    obtain ⟨forward, further⟩ := answers.onwards room listed progress followed
    refine ⟨_, advance_room state.followed shownFrom answers.rooms listed, ?_, forward, further⟩
    simp [followed]
  · have absent : ∀ room ∈ batch.joined, room.roomId ≠ roomId := fun room listed same => here ⟨room, listed, same⟩
    exact ⟨progress, (advance_other state.followed batch shownFrom roomId absent).trans followed, rfl, Nat.le_refl _,
      Nat.le_refl _⟩

theorem written_gap_room (effect : SyncEffect server state.tables next authenticate batch shownFrom written)
    (given : gap ∈ written.gaps) :
    ∃ room ∈ batch.joined, room.timelineLimited = true ∧ roomHasMessages state.tables room.roomId = true ∧
      gap = ⟨room.roomId, room.previousBatch⟩ := by
  rw [effect.gaps] at given
  exact (mem_room_gaps state.tables batch.joined).mp given

theorem shown_above (inside : shown batch shownFrom roomId position) : shownFrom roomId ≤ position := by
  obtain ⟨room, _, _, above, _⟩ := inside
  exact above

section

variable (tracked : Tracked server state)
include tracked

theorem sync_keeps_covered (answers : server.Answers state.followed batch shownFrom)
    (effect : SyncEffect server state.tables next authenticate batch shownFrom written)
    (covered : Covered server state.tables roomId position) : Covered server next roomId position := by
  rw [covered_iff] at covered ⊢
  refine Ledger.covers_extended (fun other => effect.learns.keeps roomId _) (fun other known => ?_)
    (fun finish => ?_) (fun after before => ?_) covered
  · rcases effect.learns.joined roomId _ known with earlier | ⟨place, inside, same⟩
    · exact .inl earlier
    · rw [(server.distinct _ _ _ _ same).2]
      refine .inr fun finish ⟨row, listed, room, token, named, ends⟩ => ?_
      subst room
      obtain ⟨progress, followed, within⟩ := tracked.gaps row listed token named
      obtain ⟨shownRoom, member, sameRoom, above, _⟩ := inside
      have forward := (answers.onwards shownRoom member progress (sameRoom ▸ followed)).1
      rw [sameRoom] at forward
      omega
  · rintro ⟨row, listed, room, token, named, ends⟩
    exact ⟨row, effect.keepsGaps row listed, room, token, named, ends⟩
  · rintro ⟨loss, listed, room, first, second⟩
    exact ⟨loss, effect.keepsLosses loss listed, room, first, second⟩

variable (anchored : Anchored server state (.sync reconciled authenticate batch shownFrom))
variable (effect : SyncEffect server state.tables next authenticate batch shownFrom written)
include anchored effect

theorem sync_reports (given : gap ∈ state.abandoned ++ unfillable state.tables batch shownFrom) :
    ∃ loss ∈ next.losses, loss.roomId = gap.roomId ∧ ∃ before,
      loss.beforeEventId = server.eventId gap.roomId before ∧ gap.stop ≤ before ∧ Logged next gap.roomId loss.beforeEventId := by
  rcases List.mem_append.mp given with earlier | new
  · obtain ⟨loss, listed, room, before, named, above, logged⟩ := tracked.nothingLost.reported gap earlier
    exact ⟨loss, effect.keepsLosses loss listed, room, before, named, above, effect.learns.keepsLogged _ _ logged⟩
  · obtain ⟨source, kept, same⟩ := List.mem_map.mp new
    rw [List.mem_filter, decide_eq_true_eq] at kept
    obtain ⟨room, listed, limited, has, built⟩ := (mem_room_gaps state.tables batch.joined).mp kept.1
    subst built
    subst same
    have token : room.previousBatch = none := kept.2
    obtain ⟨eventId, found⟩ := effect.opened room listed ((anchored room listed limited).2 has token)
    obtain ⟨logged, place, inside, here⟩ := effect.first room.roomId eventId found
    have member : ⟨room.roomId, room.previousBatch⟩ ∈ written.gaps := by
      rw [effect.gaps]
      exact kept.1
    obtain ⟨loss, stored, sameRoom, named⟩ := effect.lost _ member token eventId found
    exact ⟨loss, stored, sameRoom, place, named.trans here, shown_above inside, named ▸ logged⟩

variable (answers : server.Answers state.followed batch shownFrom)
include answers

theorem left_out_covered
    (listed : room ∈ batch.joined) (followed : state.followed room.roomId = some progress)
    (after : progress.reached ≤ position) (before : position < shownFrom room.roomId)
    (isMessage : server.message room.roomId position = true) : Covered server next room.roomId position := by
  have limited := answers.limited room listed progress followed (Nat.lt_of_le_of_lt after before)
  obtain ⟨counted, fetched⟩ := anchored room listed limited
  have has : roomHasMessages state.tables room.roomId = true := by
    rcases counted with has | silent
    · exact has
    · rw [silent progress followed position after before] at isMessage
      cases isMessage
  have given : ⟨room.roomId, room.previousBatch⟩ ∈ written.gaps := by
    rw [effect.gaps]
    exact (mem_room_gaps state.tables batch.joined).mpr ⟨room, listed, limited, has, rfl⟩
  have reachedBelow (place : Nat) (known : Known state.tables room.roomId (server.eventId room.roomId place)) :
      place < progress.reached := known_below tracked followed known
  cases token : room.previousBatch with
  | some previous =>
    obtain ⟨row, stored, sameRoom, sameToken⟩ := effect.recorded _ given
    have finish := answers.token room listed previous token
    refine .inr (.inl ⟨row, stored, sameRoom, previous, sameToken.trans token, finish ▸ before, ?_⟩)
    intro between above below known
    rcases effect.learns.joined room.roomId _ known with earlier | ⟨place, inside, same⟩
    · have early := reachedBelow between earlier
      omega
    · have late := shown_above inside
      have level := (server.distinct _ _ _ _ same).2
      omega
  | none =>
    obtain ⟨eventId, found⟩ := effect.opened room listed (fetched has token)
    obtain ⟨logged, place, inside, here⟩ := effect.first room.roomId eventId found
    have late := shown_above inside
    obtain ⟨loss, stored, sameRoom, named⟩ := effect.lost _ given token eventId found
    rcases effect.newLosses loss stored with earlier | ⟨gap, _, first, _, _, built⟩
    · have known := (tracked.losses loss earlier).1
      rw [sameRoom, named, here] at known
      have early := reachedBelow place (.inl known)
      omega
    · have gapRoom : gap.roomId = room.roomId := by
        rw [built] at sameRoom
        exact sameRoom
      cases latest : state.tables.latestEvent room.roomId with
      | none =>
        refine .inr (.inr ⟨loss, stored, sameRoom, none, place, ?_, named.trans here, by omega, by simp⟩)
        rw [built, gapRoom, latest]
        rfl
      | some newest =>
        have known := latest_known tracked latest
        obtain ⟨earlier, there⟩ := known_position tracked room.roomId newest known
        have early := reachedBelow earlier (there ▸ known)
        refine .inr (.inr ⟨loss, stored, sameRoom, some earlier, place, ?_, named.trans here, by omega, ?_⟩)
        · rw [built, gapRoom, latest, there]
          rfl
        · intro other same
          cases same
          omega

theorem sync_covers (followed : advance state.followed batch shownFrom roomId = some progress)
    (started : progress.start ≤ position) (below : position < progress.reached)
    (isMessage : server.message roomId position = true) : Covered server next roomId position := by
  by_cases here : ∃ room ∈ batch.joined, room.roomId = roomId
  · obtain ⟨room, listed, same⟩ := here
    subst same
    rw [advance_room state.followed shownFrom answers.rooms listed] at followed
    cases followed
    dsimp only at started below
    by_cases late : shownFrom room.roomId ≤ position
    · exact .inl (effect.learns.taken room.roomId position ⟨room, listed, rfl, late, below⟩ isMessage)
    · cases earlier : state.followed room.roomId with
      | none =>
        rw [earlier] at started
        exact (late started).elim
      | some previous =>
        rw [earlier] at started
        by_cases reached : position < previous.reached
        · exact sync_keeps_covered tracked answers effect
            (tracked.nothingLost.covered room.roomId previous earlier position started reached isMessage)
        · exact left_out_covered tracked anchored effect answers listed earlier
            (Nat.le_of_not_lt reached) (Nat.lt_of_not_le late) isMessage
  · have absent : ∀ room ∈ batch.joined, room.roomId ≠ roomId := fun room listed same => here ⟨room, listed, same⟩
    rw [advance_other state.followed batch shownFrom roomId absent] at followed
    exact sync_keeps_covered tracked answers effect
      (tracked.nothingLost.covered roomId progress followed position started below isMessage)

theorem sync_tracked : Tracked server {
      tables := next
      followed := advance state.followed batch shownFrom
      abandoned := state.abandoned ++ unfillable state.tables batch shownFrom } where
  consistent := effect.consistent
  placed := by
    intro roomId eventId known
    rcases effect.learns.joined roomId eventId known with earlier | ⟨position, ⟨room, listed, same, above, below⟩, here⟩
    · obtain ⟨progress, position, followed, within, here⟩ := tracked.placed roomId eventId earlier
      obtain ⟨later, advanced, _, _, further⟩ := followed_on answers followed
      exact ⟨later, position, advanced, Nat.lt_of_lt_of_le within further, here⟩
    · subst same
      exact ⟨_, position, advance_room state.followed shownFrom answers.rooms listed, below, here⟩
  ordered := by
    intro roomId progress followed
    by_cases here : ∃ room ∈ batch.joined, room.roomId = roomId
    · obtain ⟨room, listed, same⟩ := here
      subst same
      have advanced := advance_room state.followed shownFrom answers.rooms listed
      rw [show advance state.followed batch shownFrom room.roomId = some progress from followed] at advanced
      cases advanced
      exact Nat.le_add_right _ _
    · have absent : ∀ room ∈ batch.joined, room.roomId ≠ roomId := fun room listed same => here ⟨room, listed, same⟩
      have still := advance_other state.followed batch shownFrom roomId absent
      exact tracked.ordered roomId progress (still.symm.trans followed)
  gaps := by
    intro row listed token named
    rcases effect.newGaps row listed with earlier | ⟨gap, given, built⟩
    · obtain ⟨progress, followed, within⟩ := tracked.gaps row earlier token named
      obtain ⟨later, advanced, _, forward, _⟩ := followed_on answers followed
      exact ⟨later, advanced, Nat.le_trans within forward⟩
    · obtain ⟨room, member, _, _, same⟩ := written_gap_room effect given
      subst same
      subst built
      refine ⟨_, advance_room state.followed shownFrom answers.rooms member, Nat.le_of_eq ?_⟩
      exact answers.token room member token named
  afters := by
    intro row listed eventId named
    rcases effect.newGaps row listed with earlier | ⟨gap, given, built⟩
    · exact effect.learns.keeps _ _ (tracked.afters row earlier eventId named)
    · subst built
      exact effect.learns.keeps _ _ (latest_known tracked named)
  befores := by
    intro row listed token previous eventId named
    rcases effect.newGaps row listed with earlier | ⟨gap, given, built⟩
    · obtain ⟨logged, placed⟩ := tracked.befores row earlier token previous eventId named
      exact ⟨effect.learns.keepsLogged _ _ logged, placed⟩
    · obtain ⟨room, member, _, _, same⟩ := written_gap_room effect given
      subst same
      subst built
      obtain ⟨logged, position, inside, here⟩ := effect.first room.roomId eventId named
      have begins : server.position room.roomId token = shownFrom room.roomId := answers.token room member token previous
      exact ⟨logged, position, here, Nat.le_trans (Nat.le_of_eq begins) (shown_above inside)⟩
  losses := by
    intro loss listed
    rcases effect.newLosses loss listed with earlier | ⟨gap, _, before, _, found, built⟩
    · obtain ⟨logged, after⟩ := tracked.losses loss earlier
      exact ⟨effect.learns.keepsLogged _ _ logged, fun eventId named => effect.learns.keeps _ _ (after eventId named)⟩
    · subst built
      exact ⟨(effect.first gap.roomId before found).1, fun eventId named => effect.learns.keeps _ _ (latest_known tracked named)⟩
  nothingLost := {
    covered := fun roomId progress followed position started below isMessage =>
      sync_covers tracked anchored effect answers followed started below isMessage
    reported := fun gap given => sync_reports tracked anchored effect given }

end

theorem synced_tracked (tracked : Tracked server state) (answers : server.Answers state.followed batch shownFrom)
    (anchored : Anchored server state (.sync reconciled authenticate batch shownFrom)) :
    Tracked server (synced state reconciled authenticate batch shownFrom) := by
  unfold synced
  cases run : process reconciled authenticate state.tables batch with
  | error failure => exact tracked
  | ok result =>
    obtain ⟨next, outcome⟩ := result
    obtain ⟨written, effect⟩ := process_effect tracked answers run
    exact sync_tracked tracked anchored effect answers

end

end AgentRoom.MessageSync
