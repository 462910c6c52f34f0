import AgentRoom.Projection.SyncCovered

namespace AgentRoom.MessageSync

open Library

theorem known_event_iff (tables : Tables) (roomId : MatrixRoomId) (eventId : MatrixEventId) :
    knownEvent tables roomId eventId = true ↔ Known tables roomId eventId := by
  simp [knownEvent, Known, Logged, Isolated]

variable {α : Type} {finish position : Nat}

theorem unknown_delivered {server : Homeserver} (tables : Tables)
    {event : MatrixTimelineEvent} (delivers : server.Delivers roomId position event) :
    unknownEvent tables roomId event = true ↔ ¬ Known tables roomId (server.eventId roomId position) := by
  rw [unknownEvent, delivers.1, ← known_event_iff]
  simp

theorem take_while_stops {items : List α} (short : (items.takeWhile keeps).length < items.length) :
    ∃ item, items[(items.takeWhile keeps).length]? = some item ∧ keeps item = false := by
  induction items with
  | nil => simp at short
  | cons first rest ih =>
    by_cases kept : keeps first = true
    · rw [List.takeWhile_cons_of_pos kept] at short ⊢
      obtain ⟨item, here, refused⟩ := ih (by simpa using short)
      exact ⟨item, by simpa using here, refused⟩
    · rw [List.takeWhile_cons_of_neg kept]
      exact ⟨first, rfl, by simpa using kept⟩

theorem take_while_prefix (items : List α) {index : Nat}
    (here : (items.takeWhile keeps)[index]? = some item) : items[index]? = some item ∧ keeps item = true := by
  have kept : keeps item = true := List.all_eq_true.mp List.all_takeWhile item (List.mem_of_getElem? here)
  obtain ⟨rest, whole⟩ := List.takeWhile_prefix (p := keeps) (l := items)
  refine ⟨?_, kept⟩
  rw [← whole, List.getElem?_append_left (List.getElem?_eq_some_iff.mp here).1]
  exact here

-- A walk back from an end: the events right before it, from new to old, none
-- of them known.
structure Walked (server : Homeserver) (tables : Tables) (roomId : MatrixRoomId) (finish : Nat)
    (newestFirst : List MatrixTimelineEvent) : Prop where
  within : newestFirst.length ≤ finish
  backwards : ∀ (index : Nat) (event : MatrixTimelineEvent), newestFirst[index]? = some event →
    server.Delivers roomId (finish - 1 - index) event ∧ unknownEvent tables roomId event = true

-- Where a walk that is complete has come to: the start of the room, or a known event.
def Met (server : Homeserver) (tables : Tables) (roomId : MatrixRoomId) (finish length : Nat) : Prop :=
  length = finish ∨ (length < finish ∧ Known tables roomId (server.eventId roomId (finish - 1 - length)))

section

variable {server : Homeserver} {roomId : MatrixRoomId} {source : BackfillSource}

section

variable (serves : server.Serves roomId source)
include serves

theorem walked_page {finish : Nat} (walked : Walked server tables roomId finish newestFirst)
    (begins : server.position roomId request.start = finish - newestFirst.length) (answered : source page request = .ok answer) :
    Walked server tables roomId finish (newestFirst ++ answer.events.takeWhile (unknownEvent tables roomId)) := by
  have bounded := serves.within page request answer answered
  have shorter : (answer.events.takeWhile (unknownEvent tables roomId)).length ≤ answer.events.length :=
    (List.takeWhile_prefix _).length_le
  have room := walked.within
  refine ⟨by rw [List.length_append]; omega, fun index event here => ?_⟩
  by_cases early : index < newestFirst.length
  · rw [List.getElem?_append_left early] at here
    exact walked.backwards index event here
  · rw [List.getElem?_append_right (Nat.le_of_not_lt early)] at here
    obtain ⟨there, unknown⟩ := take_while_prefix answer.events here
    have delivers := serves.backwards page request answer answered _ event there
    have place : server.position roomId request.start - 1 - (index - newestFirst.length) = finish - 1 - index := by omega
    rw [place] at delivers
    exact ⟨delivers, unknown⟩

theorem walk_stops {finish : Nat} (within : newestFirst.length ≤ finish)
    (begins : server.position roomId request.start = finish - newestFirst.length) (answered : source page request = .ok answer)
    (short : (answer.events.takeWhile (unknownEvent tables roomId)).length < answer.events.length) :
    Met server tables roomId finish (newestFirst ++ answer.events.takeWhile (unknownEvent tables roomId)).length := by
  obtain ⟨event, here, known⟩ := take_while_stops short
  have delivers := serves.backwards page request answer answered _ event here
  have bounded := serves.within page request answer answered
  have place : server.position roomId request.start - 1 - (answer.events.takeWhile (unknownEvent tables roomId)).length =
      finish - 1 - (newestFirst ++ answer.events.takeWhile (unknownEvent tables roomId)).length := by
    rw [List.length_append]
    omega
  rw [place] at delivers
  refine .inr ⟨by rw [List.length_append]; omega, ?_⟩
  by_contra strange
  rw [(unknown_delivered tables delivers).mpr strange] at known
  cases known

theorem collect_from_walks (left page : Nat) (start : MatrixBackfillToken)
    (newestFirst events : List MatrixTimelineEvent) (complete : Bool) (walked : Walked server tables roomId finish newestFirst)
    (begins : server.position roomId start = finish - newestFirst.length)
    (ends : EmptyAtTheStart server tables source roomId page start left)
    (run : collectFrom tables source roomId page start newestFirst left = .collected events complete) :
    ∃ newest, events = newest.reverse ∧ Walked server tables roomId finish newest ∧
      (complete = true → Met server tables roomId finish newest.length) := by
  induction left generalizing page start newestFirst with
  | zero =>
    cases run
    exact ⟨newestFirst, rfl, walked, by simp⟩
  | succ left ih =>
    unfold collectFrom at run
    cases built : MatrixBackfillRequest.new start pageEvents with
    | none =>
      simp only [built] at run
      cases run
      exact ⟨newestFirst, rfl, walked, by simp⟩
    | some request =>
      simp only [built] at run
      have from' : request.start = start := by
        rw [MatrixBackfillRequest.new] at built
        split at built
        · cases built
          rfl
        · cases built
      have begins' : server.position roomId request.start = finish - newestFirst.length := from' ▸ begins
      cases answered : source page request with
      | error failure =>
        simp only [answered] at run
        split at run
        · cases run
        · cases run
          exact ⟨newestFirst, rfl, walked, by simp⟩
      | ok answer =>
        simp only [answered] at run
        have longer := walked_page serves walked begins' answered
        by_cases short : (answer.events.takeWhile (unknownEvent tables roomId)).length < answer.events.length
        · rw [if_pos short] at run
          cases run
          exact ⟨_, rfl, longer, fun _ =>
            walk_stops serves walked.within begins' answered short⟩
        · rw [if_neg short] at run
          have whole : (answer.events.takeWhile (unknownEvent tables roomId)).length = answer.events.length :=
            Nat.le_antisymm (List.takeWhile_prefix _).length_le (Nat.le_of_not_lt short)
          have room := walked.within
          have bounded := serves.within page request answer answered
          cases next : answer.finish with
          | none =>
            simp only [next] at run
            cases run
            have history := serves.history page request answer answered next
            refine ⟨_, rfl, longer, fun _ => .inl ?_⟩
            rw [List.length_append]
            omega
          | some token =>
            simp only [next] at run
            by_cases empty : answer.events.isEmpty = true
            · rw [if_pos empty] at run
              cases run
              have none := List.isEmpty_iff.mp empty
              have history := (ends request answer built answered).1 none
              exact ⟨newestFirst, rfl, walked, fun _ => .inl (by omega)⟩
            · rw [if_neg empty] at run
              have moved := serves.finish page request answer answered token next
              refine ih (page + 1) token _ longer ?_ ((ends request answer built answered).2 token next ?_) run
              · rw [List.length_append]
                omega
              · exact List.all_eq_true.mpr (List.takeWhile_eq_self_iff.mp ((List.takeWhile_prefix _).eq_of_length whole))

theorem collect_gap_walks (gap : PendingTimelineGap) (room : gap.roomId = roomId) (events : List MatrixTimelineEvent)
    (complete : Bool) (ends : EmptyAtTheStart server tables source gap.roomId 0 gap.previousBatch maxPages) (run : collectGap tables source gap = .collected events complete) :
    ∃ newest, events = newest.reverse ∧ Walked server tables roomId (server.position roomId gap.previousBatch) newest ∧
      (complete = true → Met server tables roomId (server.position roomId gap.previousBatch) newest.length) := by
  subst room
  exact collect_from_walks serves maxPages 0 gap.previousBatch [] events complete ⟨Nat.zero_le _, by simp⟩ rfl ends run

end

end

def walkedRange (gap : PendingTimelineGap) (stop finish : Nat) (roomId : MatrixRoomId) (position : Nat) : Prop :=
  roomId = gap.roomId ∧ stop ≤ position ∧ position < finish

theorem walked_shows (gap : PendingTimelineGap) (walked : Walked server tables gap.roomId finish newest) :
    Shows server (seenAlso (fun _ _ => False) gap.roomId newest.reverse)
      (walkedRange gap (finish - newest.length) finish) where
  sound := by
    rintro roomId event (absurd | ⟨room, listed⟩)
    · exact absurd.elim
    · obtain ⟨index, here⟩ := List.getElem?_of_mem (List.mem_reverse.mp listed)
      have within : index < newest.length := (List.getElem?_eq_some_iff.mp here).1
      have bounded := walked.within
      exact ⟨finish - 1 - index, ⟨room, by omega, by omega⟩, room ▸ (walked.backwards index event here).1⟩
  whole := by
    rintro roomId position ⟨room, above, below⟩
    have bounded := walked.within
    obtain ⟨event, here⟩ : ∃ event, newest[finish - 1 - position]? = some event :=
      ⟨_, List.getElem?_eq_getElem (by omega)⟩
    have delivers := (walked.backwards _ event here).1
    rw [show finish - 1 - (finish - 1 - position) = position by omega] at delivers
    exact ⟨event, .inr ⟨room, List.mem_reverse.mpr (List.mem_of_getElem? here)⟩, room ▸ delivers⟩

theorem walked_unknown {server : Homeserver} {roomId : MatrixRoomId}
    (walked : Walked server tables roomId finish newest) (above : finish - newest.length ≤ position) (below : position < finish) :
    ¬ Known tables roomId (server.eventId roomId position) := by
  have bounded := walked.within
  obtain ⟨event, here⟩ : ∃ event, newest[finish - 1 - position]? = some event :=
    ⟨_, List.getElem?_eq_getElem (by omega)⟩
  obtain ⟨delivers, unknown⟩ := walked.backwards _ event here
  rw [show finish - 1 - (finish - 1 - position) = position by omega] at delivers
  exact (unknown_delivered tables delivers).mp unknown

-- Where a gap that is given up hangs its loss.
def lossAnchor (mutations : List MessageProjectionMutation) (gap : PendingTimelineGap) (row : GapRow) : Option MatrixEventId :=
  (Tables.firstNewMessage mutations gap.roomId).or row.beforeEventId

structure FillEffect (server : Homeserver) (tables next : Tables) (gap : PendingTimelineGap) (row : GapRow)
    (mutations : List MessageProjectionMutation) (complete : Bool) (range : MatrixRoomId → Nat → Prop) : Prop where
  consistent : Consistent next
  learns : Learns server tables next range
  keepsGaps : ∀ other ∈ tables.gaps, Tables.sameGap gap other = true ∨ other ∈ next.gaps
  oldGaps : ∀ other ∈ next.gaps, other ∈ tables.gaps
  keepsLosses : ∀ loss ∈ tables.losses, loss ∈ next.losses
  newLosses : ∀ loss ∈ next.losses, loss ∈ tables.losses ∨ (complete = false ∧
    ∃ before, lossAnchor mutations gap row = some before ∧ loss = ⟨gap.roomId, before, row.afterEventId⟩)
  lost : complete = false → ∀ before, lossAnchor mutations gap row = some before →
    ∃ loss ∈ next.losses, loss.roomId = gap.roomId ∧ loss.beforeEventId = before
  first : ∀ roomId eventId, Tables.firstNewMessage mutations roomId = some eventId →
    Logged next roomId eventId ∧ ∃ position, range roomId position ∧ eventId = server.eventId roomId position

theorem truncated_cases {written : Tables} {row : GapRow} (found : written.gaps.find? (Tables.sameGap batch.gap) = some row) :
    ((batch.complete = false → lossAnchor batch.mutations batch.gap row = none) ∧
        written.recordTruncatedBackfill batch = written) ∨
      (batch.complete = false ∧ ∃ before, lossAnchor batch.mutations batch.gap row = some before ∧
        written.recordTruncatedBackfill batch = { written with
          losses := insertOrIgnore (Tables.lossKey batch.gap.roomId before) written.losses
            ⟨batch.gap.roomId, before, row.afterEventId⟩ }) := by
  cases whole : batch.complete with
  | true => exact .inl ⟨nofun, by simp [Tables.recordTruncatedBackfill, whole]⟩
  | false =>
    cases anchor : lossAnchor batch.mutations batch.gap row with
    | none =>
      have kept : written.recordTruncatedBackfill batch = written := by
        simp only [Tables.recordTruncatedBackfill, whole, found, Bool.false_eq_true, if_false, Option.bind_some]
        rw [lossAnchor] at anchor
        rw [anchor]
      exact .inl ⟨fun _ => rfl, kept⟩
    | some before =>
      have recorded : written.recordTruncatedBackfill batch =
          written.recordLoss batch.gap.roomId row.afterEventId before := by
        simp only [Tables.recordTruncatedBackfill, whole, found, Bool.false_eq_true, if_false, Option.bind_some]
        rw [lossAnchor] at anchor
        rw [anchor]
      refine .inr ⟨rfl, before, rfl, ?_⟩
      rw [recorded]
      exact Tables.record_loss_insert

theorem settle_effect (tracked : Tracked server state) (row : GapRow)
    (found : state.tables.gaps.find? (Tables.sameGap gap) = some row) (events : List MatrixTimelineEvent) (complete : Bool)
    (range : MatrixRoomId → Nat → Prop) (shows : Shows server (seenAlso (fun _ _ => False) gap.roomId events) range)
    (next : Tables) (projected : Projected)
    (run : settleGap authenticate state.tables gap events complete = .ok (next, projected)) :
    Reads authenticate (seenAlso (fun _ _ => False) gap.roomId events) projected ∧
      FillEffect server state.tables next gap row projected.mutations complete range := by
  obtain ⟨gathered, projects, rest⟩ := unbind run
  obtain ⟨tables, applies, built⟩ := unbind rest
  cases built
  have nothing : Reads authenticate (fun _ _ => False) Projected.nothing := by
    constructor <;> simp [Projected.nothing]
  have reads := project_room_events_reads authenticate gap.roomId events _ _ projected nothing projects
  let batch : MessageBackfillBatch := { gap, mutations := projected.mutations, issues := projected.issues, complete }
  have applied : state.tables.applyBackfillBatch batch = .ok next := by
    cases ran : state.tables.applyBackfillBatch batch with
    | error failure => simp [batch, ran, Except.mapError] at applies
    | ok result => simpa [batch, ran, Except.mapError] using applies
  have consistent := perform_consistent (.applyBackfill batch) tracked.consistent applied
  obtain ⟨written, timeline, moved⟩ := unbind applied
  cases moved
  obtain ⟨sameGaps, sameLosses⟩ := Tables.apply_timeline_beside timeline
  have wrote := Tables.apply_timeline_written timeline
  have placed := known_position tracked
  have whole := written_learns placed shows reads wrote
  have first := fun roomId eventId found => first_preview_logged placed shows reads wrote roomId eventId found
  have found' : written.gaps.find? (Tables.sameGap batch.gap) = some row := sameGaps ▸ found
  have beside := Tables.truncated_beside written batch
  have keptGaps : ∀ other ∈ state.tables.gaps, Tables.sameGap gap other = true ∨
      other ∈ written.gaps.filter fun row => !Tables.sameGap gap row := by
    intro other listed
    by_cases mine : Tables.sameGap gap other = true
    · exact .inl mine
    · exact .inr (List.mem_filter.mpr ⟨sameGaps ▸ listed, by simpa using mine⟩)
  have oldGaps : ∀ other ∈ written.gaps.filter (fun row => !Tables.sameGap gap row), other ∈ state.tables.gaps :=
    fun other listed => sameGaps ▸ (List.mem_filter.mp listed).1
  refine ⟨reads, ?_⟩
  rcases truncated_cases found' with ⟨absent, same⟩ | ⟨open', before, anchor, same⟩
  · simp only [same] at consistent ⊢
    exact {
      consistent
      learns := ⟨whole.keepsLogged, whole.keeps, whole.joined, whole.taken⟩
      keepsGaps := keptGaps
      oldGaps
      keepsLosses := fun loss listed => sameLosses ▸ listed
      newLosses := fun loss listed => .inl (sameLosses ▸ listed)
      lost := fun cut before anchor => by
        rw [show lossAnchor projected.mutations gap row = none from absent cut] at anchor
        cases anchor
      first }
  · simp only [same] at consistent ⊢
    exact {
      consistent
      learns := ⟨whole.keepsLogged, whole.keeps, whole.joined, whole.taken⟩
      keepsGaps := keptGaps
      oldGaps
      keepsLosses := fun loss listed => insert_or_ignore_subset (sameLosses ▸ listed)
      newLosses := fun loss listed => by
        rcases insert_or_ignore_mem listed with earlier | new
        · exact .inl (sameLosses ▸ earlier)
        · exact .inr ⟨open', before, anchor, new⟩
      lost := fun _ other anchor' => by
        rw [show lossAnchor projected.mutations gap row = some before from anchor] at anchor'
        cases anchor'
        have kept := insert_or_ignore_any (Tables.lossKey gap.roomId before) written.losses
          ⟨gap.roomId, before, row.afterEventId⟩ (by simp [Tables.lossKey])
        obtain ⟨loss, listed, keyed⟩ := List.any_eq_true.mp kept
        obtain ⟨room, named⟩ := of_decide_eq_true keyed
        exact ⟨loss, listed, room, named⟩
      first }

section

variable (tracked : Tracked server state) (listed : row ∈ state.tables.gaps) (own : Tables.sameGap gap row = true)
variable (walked : Walked server state.tables gap.roomId (server.position gap.roomId gap.previousBatch) newest)
variable (effect : FillEffect server state.tables next gap row mutations complete
    (walkedRange gap (server.position gap.roomId gap.previousBatch - newest.length)
      (server.position gap.roomId gap.previousBatch)))
include tracked listed own walked effect

theorem given_up_around (ends : EndsFit server state.tables gap row) (cut : complete = false)
    (anchor : lossAnchor mutations gap row = some eventId) : ∃ loss ∈ next.losses, loss.roomId = gap.roomId ∧ ∃ after before,
      loss.afterEventId = Option.map (server.eventId gap.roomId) after ∧
      loss.beforeEventId = server.eventId gap.roomId before ∧ Logged next gap.roomId loss.beforeEventId ∧
      server.position gap.roomId gap.previousBatch - newest.length ≤ before ∧
      ∀ earlier, after = some earlier → Known state.tables gap.roomId (server.eventId gap.roomId earlier) ∧
        earlier < server.position gap.roomId gap.previousBatch := by
  obtain ⟨_, room, token⟩ := of_decide_eq_true own
  -- Where the anchor is, and that a loss that was already told there fits as well.
  have placed : ∃ before, eventId = server.eventId gap.roomId before ∧ Logged next gap.roomId eventId ∧
      server.position gap.roomId gap.previousBatch - newest.length ≤ before ∧
      ∀ loss ∈ state.tables.losses, loss.roomId = gap.roomId → loss.beforeEventId = eventId →
        ∀ earlier, loss.afterEventId = some (server.eventId gap.roomId earlier) →
          earlier < server.position gap.roomId gap.previousBatch := by
    cases first : Tables.firstNewMessage mutations gap.roomId with
    | some found =>
      rw [lossAnchor, first, Option.some_or, Option.some.injEq] at anchor
      subst anchor
      obtain ⟨logged, before, ⟨_, above, below⟩, here⟩ := effect.first gap.roomId found first
      refine ⟨before, here, logged, above, fun loss was sameRoom named => ?_⟩
      have known := (tracked.losses loss was).1
      rw [sameRoom, named, here] at known
      exact (walked_unknown walked above below (.inl known)).elim
    | none =>
      rw [lossAnchor, first, Option.none_or] at anchor
      obtain ⟨logged, before, here, above⟩ := tracked.befores row listed gap.previousBatch token eventId anchor
      rw [room] at logged here above
      refine ⟨before, here, effect.learns.keepsLogged _ _ logged, by omega, fun loss was sameRoom named => ?_⟩
      exact ends.2 loss was sameRoom (named ▸ anchor)
  obtain ⟨before, here, logged, above, fits⟩ := placed
  obtain ⟨loss, stored, sameRoom, named⟩ := effect.lost cut eventId anchor
  have told : (∀ found, loss.afterEventId = some found → Known state.tables gap.roomId found) ∧
      ∀ earlier, loss.afterEventId = some (server.eventId gap.roomId earlier) →
        earlier < server.position gap.roomId gap.previousBatch := by
    rcases effect.newLosses loss stored with was | ⟨_, other, _, built⟩
    · refine ⟨fun found after => sameRoom ▸ (tracked.losses loss was).2 found after, fits loss was sameRoom named⟩
    · rw [built]
      exact ⟨fun found after => room ▸ tracked.afters row listed found after, ends.1⟩
  cases after : loss.afterEventId with
  | none => exact ⟨loss, stored, sameRoom, none, before, after, named.trans here, named ▸ logged, above, by simp⟩
  | some found =>
    have known := told.1 found after
    obtain ⟨earlier, there⟩ := known_position tracked gap.roomId found known
    refine ⟨loss, stored, sameRoom, some earlier, before, by rw [after, there]; rfl, named.trans here, named ▸ logged, above, ?_⟩
    intro other same
    cases same
    exact ⟨there ▸ known, told.2 earlier (there ▸ after)⟩

variable (met : complete = true → Met server state.tables gap.roomId (server.position gap.roomId gap.previousBatch) newest.length)
variable (anchored : complete = false → (∃ eventId, lossAnchor mutations gap row = some eventId) ∧ EndsFit server state.tables gap row)
include met anchored

theorem fill_keeps_covered (isMessage : server.message roomId position = true)
    (covered : Covered server state.tables roomId position) : Covered server next roomId position := by
  have bounded := walked.within
  have keptLosses : ∀ after before, (ledger server state.tables roomId).lost after before →
      (ledger server next roomId).lost after before := by
    rintro after before ⟨loss, was, room, first, second⟩
    exact ⟨loss, effect.keepsLosses loss was, room, first, second⟩
  rw [covered_iff] at covered ⊢
  by_cases here : roomId = gap.roomId
  · subst here
    have read : Ledger.Read (ledger server state.tables gap.roomId) (ledger server next gap.roomId)
        (fun other => server.message gap.roomId other = true)
        (server.position gap.roomId gap.previousBatch)
        (server.position gap.roomId gap.previousBatch - newest.length) := by
      refine ⟨fun other => effect.learns.keeps gap.roomId _, fun other known => ?_, fun other above below => ?_,
        fun other above below wanted => effect.learns.taken gap.roomId other ⟨rfl, above, below⟩ wanted, ?_, keptLosses⟩
      · rcases effect.learns.joined gap.roomId _ known with earlier | ⟨place, ⟨_, above, below⟩, same⟩
        · exact .inl earlier
        · rw [(server.distinct _ _ _ _ same).2]
          exact .inr ⟨above, below⟩
      · exact walked_unknown walked above below
      · rintro finish ⟨other, was, room, token, named, ends⟩
        rcases effect.keepsGaps other was with mine | stays
        · obtain ⟨_, _, token'⟩ := of_decide_eq_true mine
          rw [named, Option.some.injEq] at token'
          exact .inl (token' ▸ ends)
        · exact .inr ⟨other, stays, room, token, named, ends⟩
    have settles : Ledger.Settles (ledger server state.tables gap.roomId) (ledger server next gap.roomId)
        (server.position gap.roomId gap.previousBatch)
        (server.position gap.roomId gap.previousBatch - newest.length) := by
      cases whole : complete with
      | true =>
        refine .met fun other below => ?_
        rcases met whole with start | ⟨short, known⟩
        · omega
        · exact ⟨_, known, by omega, by omega⟩
      | false =>
        obtain ⟨⟨eventId, anchor⟩, ends⟩ := anchored whole
        obtain ⟨loss, stored, room, after, before, first, second, _, above, behind⟩ :=
          given_up_around tracked listed own walked effect ends whole anchor
        exact .gaveUp after before ⟨loss, stored, room, first, second⟩ above behind
    exact Ledger.covers_read read settles (Nat.sub_le _ _) isMessage covered
  · refine Ledger.covers_extended (fun other => effect.learns.keeps roomId _) (fun other known => ?_)
      (fun finish => ?_) keptLosses covered
    · rcases effect.learns.joined roomId _ known with earlier | ⟨_, ⟨room, _, _⟩, _⟩
      · exact .inl earlier
      · exact (here room).elim
    · rintro ⟨other, was, room, token, named, ends⟩
      rcases effect.keepsGaps other was with mine | stays
      · exact (here (room.symm.trans (of_decide_eq_true mine).2.1)).elim
      · exact ⟨other, stays, room, token, named, ends⟩

theorem settled_tracked :
    Tracked server {
      tables := next
      followed := state.followed
      abandoned := state.abandoned ++
        if complete then [] else [⟨gap.roomId, server.position gap.roomId gap.previousBatch - newest.length⟩] } where
  consistent := effect.consistent
  placed := by
    intro roomId eventId known
    rcases effect.learns.joined roomId eventId known with earlier | ⟨position, ⟨room, _, below⟩, here⟩
    · exact tracked.placed roomId eventId earlier
    · obtain ⟨_, sameRoom, token⟩ := of_decide_eq_true own
      obtain ⟨progress, followed, within⟩ := tracked.gaps row listed gap.previousBatch token
      rw [sameRoom] at followed within
      have reached := tracked.ordered gap.roomId progress followed
      exact ⟨progress, position, room ▸ followed, by omega, here⟩
  ordered := tracked.ordered
  gaps := fun other was token named => tracked.gaps other (effect.oldGaps other was) token named
  afters := fun other was eventId named =>
    effect.learns.keeps _ _ (tracked.afters other (effect.oldGaps other was) eventId named)
  befores := by
    intro other was token previous eventId named
    obtain ⟨logged, placed⟩ := tracked.befores other (effect.oldGaps other was) token previous eventId named
    exact ⟨effect.learns.keepsLogged _ _ logged, placed⟩
  losses := by
    intro loss is
    rcases effect.newLosses loss is with was | ⟨cut, before, anchor, built⟩
    · obtain ⟨logged, after⟩ := tracked.losses loss was
      exact ⟨effect.learns.keepsLogged _ _ logged, fun eventId named => effect.learns.keeps _ _ (after eventId named)⟩
    · obtain ⟨_, sameRoom, token⟩ := of_decide_eq_true own
      subst built
      constructor
      · cases first : Tables.firstNewMessage mutations gap.roomId with
        | some found =>
          rw [lossAnchor, first, Option.some_or, Option.some.injEq] at anchor
          exact anchor ▸ (effect.first gap.roomId found first).1
        | none =>
          rw [lossAnchor, first, Option.none_or] at anchor
          have logged := (tracked.befores row listed gap.previousBatch token before anchor).1
          exact effect.learns.keepsLogged _ _ (sameRoom ▸ logged)
      · intro eventId named
        exact effect.learns.keeps _ _ (sameRoom ▸ tracked.afters row listed eventId named)
  nothingLost := {
    covered := fun roomId progress followed position started below isMessage =>
      fill_keeps_covered tracked listed own walked effect met anchored isMessage
        (tracked.nothingLost.covered roomId progress followed position started below isMessage)
    reported := by
      intro lost given
      rcases List.mem_append.mp given with earlier | new
      · obtain ⟨loss, was, room, before, named, above, logged⟩ := tracked.nothingLost.reported lost earlier
        exact ⟨loss, effect.keepsLosses loss was, room, before, named, above, effect.learns.keepsLogged _ _ logged⟩
      · cases whole : complete with
        | true => simp [whole] at new
        | false =>
          simp only [whole, Bool.false_eq_true, if_false, List.mem_singleton] at new
          subst new
          obtain ⟨⟨eventId, anchor⟩, ends⟩ := anchored whole
          obtain ⟨loss, stored, room, _, before, _, named, logged, above, _⟩ :=
            given_up_around tracked listed own walked effect ends whole anchor
          exact ⟨loss, stored, room, before, named, above, logged⟩ }

end

theorem filled_tracked (tracked : Tracked server state) (pending : Pending state.tables gap)
    (serves : server.Serves gap.roomId source) (anchored : Anchored server state (.fill authenticate source gap)) :
    Tracked server (filled server state authenticate source gap) := by
  unfold filled
  cases collects : collectGap state.tables source gap with
  | deferred => exact tracked
  | collected events complete =>
    dsimp only
    cases run : settleGap authenticate state.tables gap events complete with
    | error failure => exact tracked
    | ok result =>
      obtain ⟨next, projected⟩ := result
      obtain ⟨newest, same, walked, met⟩ := collect_gap_walks serves gap rfl events complete anchored.1 collects
      obtain ⟨row, found⟩ : ∃ row, state.tables.gaps.find? (Tables.sameGap gap) = some row := by
        obtain ⟨row, listed, own⟩ := pending
        exact Option.isSome_iff_exists.mp (List.find?_isSome.mpr ⟨row, listed, own⟩)
      have listed := List.mem_of_find?_eq_some found
      have own := List.find?_some found
      subst same
      obtain ⟨reads, effect⟩ := settle_effect tracked row found newest.reverse complete _
        (walked_shows gap walked) next projected run
      have length : newest.reverse.length = newest.length := List.length_reverse
      rw [length]
      refine settled_tracked tracked listed own walked effect met fun cut => ?_
      subst cut
      obtain ⟨anchor, ends⟩ := anchored.2 newest.reverse collects row listed own
      refine ⟨?_, ends⟩
      rcases anchor with ⟨event, given, opens⟩ | recorded
      · obtain ⟨eventId, first⟩ := opened_preview_first reads gap.roomId ⟨event, .inr ⟨rfl, given⟩, opens⟩
        exact ⟨eventId, by rw [lossAnchor, first, Option.some_or]⟩
      · rw [← Option.isSome_iff_exists, lossAnchor, Option.isSome_or, recorded, Bool.or_true]

end AgentRoom.MessageSync
