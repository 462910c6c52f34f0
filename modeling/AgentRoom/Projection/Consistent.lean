import AgentRoom.Projection.Writes

namespace AgentRoom

open Library

variable {encoded : EncodedMutation}

theorem encoded_preview (encodes : EncodedMutation.fromMutation (.preview message) = .ok encoded) :
    encoded.eventId = message.eventId ∧ encoded.roomId = message.roomId ∧ encoded.messageId = message.messageId ∧
      encoded.revisionKind = none ∧ encoded.actorSubjectKey = message.actorSubjectKey ∧
      encoded.preview = some message.preview ∧ encoded.content = some message.content := by
  obtain ⟨timestamp, _, built⟩ := unbind encodes
  cases built
  exact ⟨rfl, rfl, rfl, rfl, rfl, rfl, rfl⟩

theorem encoded_revision (encodes : EncodedMutation.fromMutation (.revision edit) = .ok encoded) :
    encoded.eventId = edit.eventId ∧ encoded.roomId = edit.roomId ∧ encoded.messageId = edit.targetMessageId ∧
      encoded.revisionKind = some edit.kind ∧ encoded.actorSubjectKey = edit.actorSubjectKey ∧
      encoded.preview = edit.preview ∧ encoded.content = edit.content := by
  obtain ⟨timestamp, _, built⟩ := unbind encodes
  cases built
  exact ⟨rfl, rfl, rfl, rfl, rfl, rfl, rfl⟩

theorem encoded_ids (encodes : EncodedMutation.fromMutation mutation = .ok encoded) :
    encoded.eventId = mutation.eventId ∧ encoded.roomId = mutation.roomId := by
  cases mutation with
  | preview message =>
    obtain ⟨event, room, _⟩ := encoded_preview encodes
    exact ⟨event, room⟩
  | revision edit =>
    obtain ⟨event, room, _⟩ := encoded_revision encodes
    exact ⟨event, room⟩

namespace Tables

-- The log with one fresh event, before the current rows have heard of it.
structure Appended (tables logged : Tables) (encoded : EncodedMutation) (sequence : Nat) (event : EventRow) : Prop where
  logs : Logged encoded sequence event
  fresh : ∀ old ∈ tables.events, old.eventId ≠ encoded.eventId
  unplaced : ∀ old ∈ tables.events, old.roomId = encoded.roomId → old.sequence ≠ sequence
  events : logged.events = tables.events ++ [event]

variable {tables logged next : Tables} {event : EventRow} {sequence : Nat}

theorem appended_distinct (appended : Appended tables logged encoded sequence event) (consistent : Consistent tables) :
    DistinctEvents logged.events ∧ logged.events.Pairwise fun first second =>
      first.roomId = second.roomId → first.sequence ≠ second.sequence := by
  rw [appended.events]
  constructor
  · rw [DistinctEvents]
    rw [List.map_append, List.nodup_append]
    refine ⟨consistent.distinctEvents, by simp, ?_⟩
    simp only [List.mem_map, List.map_cons, List.map_nil, List.mem_singleton]
    rintro id ⟨old, listed, rfl⟩ other rfl
    exact appended.logs.eventId ▸ appended.fresh old listed
  · rw [List.pairwise_append]
    refine ⟨consistent.distinctSequences, List.pairwise_singleton _ _, ?_⟩
    intro old listed new same room
    cases List.mem_singleton.mp same
    rw [appended.logs.sequence]
    exact appended.unplaced old listed (room.trans appended.logs.room)

theorem revision_consistent (tables logged next : Tables) (edit : ProjectedMessageRevision) (encoded : EncodedMutation)
    (sequence : Nat) (event : EventRow) (encodes : EncodedMutation.fromMutation (.revision edit) = .ok encoded)
    (consistent : Consistent tables) (appended : Appended tables logged encoded sequence event)
    (current : logged.current = tables.current) (run : logged.applyRevision encoded sequence = .ok next) :
    Consistent next ∧ next.events = logged.events ∧ next.issues = logged.issues := by
  have kind := (encoded_revision encodes).2.2.2.1
  simp only [applyRevision, kind] at run
  have logs := appended.logs
  have described : Describes
      { eventId := encoded.eventId, roomId := encoded.roomId, messageId := encoded.messageId, sequence := sequence,
        revisionKind := edit.kind, actorSubjectKey := encoded.actorSubjectKey, preview := encoded.preview,
        content := encoded.content } event :=
    ⟨logs.eventId.symm, logs.room.symm, logs.message.symm, logs.sequence.symm, logs.kind.trans kind, logs.subject.symm,
      logs.preview.symm, logs.content.symm⟩
  obtain ⟨distinct, sequences⟩ := appended_distinct appended consistent
  have rows : ∀ row ∈ logged.current, ∃ base ∈ logged.events, RowOf (· ∈ tables.events) base row := by
    intro row listed
    obtain ⟨base, stored, shown⟩ := consistent.rows row (current ▸ listed)
    exact ⟨base, appended.events ▸ List.mem_append_left _ stored, shown⟩
  have within : ∀ (_ : MessageId) (other : EventRow), other ∈ tables.events → other ∈ logged.events :=
    fun _ other listed => appended.events ▸ List.mem_append_left _ listed
  have touched := touched_rows logged next (fun _ other => other ∈ tables.events) distinct within described rows run
  obtain ⟨sameEvents, sameIssues⟩ := touched_events logged next run
  have sameKeys := touched_keys logged next run
  refine ⟨⟨?_, ?_, ?_, ?_, ?_⟩, sameEvents, sameIssues⟩
  · rw [sameEvents]
    exact distinct
  · rw [sameEvents]
    exact sequences
  · rw [keys_messages sameKeys, current]
    exact consistent.distinctMessages
  · intro row listed
    obtain ⟨base, stored, shown⟩ := touched row listed
    refine ⟨base, sameEvents ▸ stored, row_of_congr _ (fun other _ => ?_) shown⟩
    rw [sameEvents, appended.events, List.mem_append, List.mem_singleton]
  · intro messageId
    have quiet : previewOf messageId event = false := by simp [previewOf, logs.kind, kind]
    rw [keys_bases sameKeys messageId, current, consistent.bases messageId, sameEvents, appended.events, List.find?_append]
    simp [quiet]

theorem opened_consistent (tables logged shown next : Tables) (encoded : EncodedMutation) (sequence : Nat)
    (event : EventRow) (row : CurrentRow) (preview : encoded.revisionKind = none) (consistent : Consistent tables)
    (appended : Appended tables logged encoded sequence event) (current : logged.current = tables.current)
    (unknown : ∀ old ∈ logged.current, old.messageId ≠ encoded.messageId) (opens : Opens encoded sequence row)
    (inserted : shown = { logged with current := logged.current ++ [row] })
    (run : shown.applyPendingRevisions encoded.roomId encoded.messageId = .ok next) :
    Consistent next ∧ next.events = logged.events ∧ next.issues = logged.issues := by
  have logs := appended.logs
  obtain ⟨distinct, sequences⟩ := appended_distinct appended consistent
  have shownEvents : shown.events = logged.events := by rw [inserted]
  have shownCurrent : shown.current = tables.current ++ [row] := by rw [inserted, ← current]
  have isPreview : event.revisionKind = none := logs.kind.trans preview
  have notRevision (kind : MessageRevisionKind) (base : EventRow) : ¬ OwnRevision kind base event := by
    intro own
    rw [OwnRevision, isPreview] at own
    cases own.1
  -- The new row has seen nothing yet, all others have seen the whole log.
  let seen : MessageId → EventRow → Prop := fun messageId other =>
    messageId ≠ encoded.messageId ∧ other ∈ shown.events
  have rows : ∀ old ∈ shown.current, ∃ base ∈ shown.events, RowOf (seen old.messageId) base old := by
    intro old listed
    rw [shownCurrent, List.mem_append, List.mem_singleton] at listed
    rcases listed with earlier | new
    · obtain ⟨base, stored, rowOf⟩ := consistent.rows old earlier
      have stored' : base ∈ shown.events := by
        rw [shownEvents, appended.events]
        exact List.mem_append_left _ stored
      refine ⟨base, stored', row_of_congr _ (fun other own => ?_) rowOf⟩
      have apart : old.messageId ≠ encoded.messageId := unknown old (current ▸ earlier)
      have other_ne : other ≠ event := by
        intro same
        subst same
        rcases own with own | own
        · exact notRevision _ _ own
        · exact notRevision _ _ own
      simp [seen, apart, shownEvents, appended.events, other_ne]
    · subst new
      have stored : event ∈ shown.events := by
        rw [shownEvents, appended.events]
        exact List.mem_append_right _ (List.mem_singleton_self event)
      refine ⟨event, stored, ?_⟩
      refine ⟨isPreview, opens.baseEvent.trans logs.eventId.symm, opens.room.trans logs.room.symm,
        opens.message.trans logs.message.symm, opens.subject.trans logs.subject.symm, opens.first.trans logs.sequence.symm, ?_⟩
      simp only [Shows, opens.active, seen, opens.message]
      refine ⟨by simp, none, by simp [Tracks], opens.untouched, ?_, ?_⟩
      · exact opens.preview.trans logs.preview.symm
      · exact opens.content.trans logs.content.symm
  have pendingListed : ∀ other ∈ ((shown.events.filter fun row =>
      row.roomId = encoded.roomId ∧ row.messageId = encoded.messageId).insertionSort
        fun first second => first.sequence ≤ second.sequence), other ∈ shown.events := by
    intro other listed
    exact (List.mem_filter.mp ((List.mem_insertionSort _).mp listed)).1
  obtain ⟨⟨sameEvents, sameIssues⟩, sameKeys, after⟩ :=
    pending_loop shown next seen pendingListed (shownEvents ▸ distinct) (fun _ _ listed => listed.2) rows run
  have nextEvents : next.events = logged.events := sameEvents.trans shownEvents
  refine ⟨⟨?_, ?_, ?_, ?_, ?_⟩, nextEvents, by rw [sameIssues, inserted]⟩
  · rw [nextEvents]
    exact distinct
  · rw [nextEvents]
    exact sequences
  · rw [keys_messages sameKeys, shownCurrent, List.map_append, List.nodup_append]
    refine ⟨consistent.distinctMessages, by simp, ?_⟩
    simp only [List.mem_map, List.map_cons, List.map_nil, List.mem_singleton]
    rintro id ⟨old, listed, rfl⟩ other rfl
    exact opens.message ▸ unknown old (current ▸ listed)
  · intro old listed
    obtain ⟨base, stored, rowOf⟩ := after old listed
    refine ⟨base, sameEvents ▸ stored, row_of_congr _ (fun other own => ?_) rowOf⟩
    rw [List.mem_insertionSort, List.mem_filter, sameEvents]
    by_cases mine : old.messageId = encoded.messageId
    · have here : old.roomId = encoded.roomId := by
        obtain ⟨earlier, earlierListed, message, room⟩ := keys_rooms sameKeys listed
        rw [shownCurrent, List.mem_append, List.mem_singleton] at earlierListed
        rcases earlierListed with before | same
        · exact (unknown earlier (current ▸ before) (message.trans mine)).elim
        · exact room.symm.trans (same ▸ opens.room)
      have place : other.roomId = encoded.roomId ∧ other.messageId = encoded.messageId := by
        rw [← here, ← mine, rowOf.room, rowOf.message]
        rcases own with own | own
        · exact ⟨own.2.1, own.2.2.1⟩
        · exact ⟨own.2.1, own.2.2.1⟩
      simp [seen, mine, place]
    · simp only [seen, ne_eq, mine, not_false_eq_true, true_and]
      constructor
      · rintro (listed | ⟨listed, _⟩)
        · exact listed
        · exact listed
      · exact .inl
  · intro messageId
    rw [keys_bases sameKeys messageId, shownCurrent, nextEvents, appended.events, List.find?_append, List.find?_append]
    by_cases mine : messageId = encoded.messageId
    · subst mine
      have absent : tables.current.find? (·.messageId = encoded.messageId) = none := by
        rw [List.find?_eq_none]
        intro old listed
        simpa using unknown old (current ▸ listed)
      have bases := consistent.bases encoded.messageId
      rw [absent] at bases
      have unseen : tables.events.find? (previewOf encoded.messageId) = none := by simpa using bases.symm
      have named : previewOf encoded.messageId event = true := by simp [previewOf, isPreview, logs.message]
      simp [absent, unseen, named, opens.message, opens.baseEvent, logs.eventId]
    · have quiet : previewOf messageId event = false := by simp [previewOf, logs.message, Ne.symm mine]
      have elsewhere : ¬ row.messageId = messageId := fun same => mine (same.symm.trans opens.message)
      simpa [quiet, elsewhere] using consistent.bases messageId

theorem repeated_consistent (preview : encoded.revisionKind = none) (consistent : Consistent tables)
    (appended : Appended tables logged encoded sequence event) (current : logged.current = tables.current)
    (known : ∃ old ∈ logged.current, old.messageId = encoded.messageId) : Consistent logged := by
  have logs := appended.logs
  obtain ⟨distinct, sequences⟩ := appended_distinct appended consistent
  refine ⟨distinct, sequences, by rw [current]; exact consistent.distinctMessages, ?_, ?_⟩
  · intro old listed
    obtain ⟨base, stored, shown⟩ := consistent.rows old (current ▸ listed)
    refine ⟨base, appended.events ▸ List.mem_append_left _ stored, row_of_congr _ (fun other own => ?_) shown⟩
    have other_ne : other ≠ event := by
      rintro rfl
      rcases own with own | own
      · simp [OwnRevision, logs.kind, preview] at own
      · simp [OwnRevision, logs.kind, preview] at own
    simp [appended.events, other_ne]
  · intro messageId
    rw [current, consistent.bases messageId, appended.events, List.find?_append]
    by_cases mine : messageId = encoded.messageId
    · obtain ⟨old, listed, named⟩ := known
      have based : ((tables.current.find? (·.messageId = messageId)).map CurrentRow.baseEventId).isSome = true := by
        rw [Option.isSome_map, List.find?_isSome]
        exact ⟨old, current ▸ listed, by simp [named, mine]⟩
      rw [consistent.bases messageId, Option.isSome_map] at based
      rw [Option.or_of_isSome based]
    · have quiet : previewOf messageId event = false := by simp [previewOf, logs.message, Ne.symm mine]
      simp [quiet]

structure Wrote (tables next : Tables) (encoded : EncodedMutation) (sequence : Nat) : Prop where
  issues : next.issues = tables.issues
  log : ((∃ old ∈ tables.events, old.eventId = encoded.eventId) ∧ next = tables) ∨
    ∃ event, Appended tables next encoded sequence event

theorem write_mutation_ok (encodes : EncodedMutation.fromMutation mutation = .ok encoded) (consistent : Consistent tables)
    (run : tables.writeMutation mutation encoded sequence = .ok next) : Consistent next ∧ Wrote tables next encoded sequence := by
  obtain ⟨⟨logged, inserted⟩, insert, rest⟩ := unbind run
  rcases insert_event_cases tables insert with
    ⟨none, same, known⟩ | ⟨one, fresh, unplaced, event, logs, appends⟩
  · simp only [none, if_pos] at rest
    cases rest
    subst same
    exact ⟨consistent, rfl, .inl ⟨known, rfl⟩⟩
  · have appended : Appended tables logged encoded sequence event := ⟨logs, fresh, unplaced, by rw [appends]⟩
    have current : logged.current = tables.current := by rw [appends]
    have issues : logged.issues = tables.issues := by rw [appends]
    subst one
    cases mutation with
    | revision edit =>
      obtain ⟨kept, sameEvents, sameIssues⟩ := revision_consistent tables logged next edit encoded sequence event encodes
        consistent appended current rest
      exact ⟨kept, sameIssues.trans issues, .inr ⟨event, { appended with events := sameEvents.trans appended.events }⟩⟩
    | preview message =>
      have kind := (encoded_preview encodes).2.2.2.1
      obtain ⟨⟨shown, opened⟩, insert', rest'⟩ := unbind rest
      rcases insert_current_cases logged insert' with
        ⟨none, same, known⟩ | ⟨one, unknown, row, opens, opensRow⟩
      · simp only [none] at rest'
        cases rest'
        subst same
        exact ⟨repeated_consistent kind consistent appended current known, issues, .inr ⟨event, appended⟩⟩
      · simp only [one] at rest'
        obtain ⟨kept, sameEvents, sameIssues⟩ := opened_consistent tables logged shown next encoded sequence event row kind
          consistent appended current unknown opens opensRow rest'
        exact ⟨kept, sameIssues.trans issues, .inr ⟨event, { appended with events := sameEvents.trans appended.events }⟩⟩

theorem apply_mutation_ok (consistent : Consistent tables) (run : tables.applyMutation mutation = .ok next) :
    Consistent next ∧ ∃ encoded sequence, EncodedMutation.fromMutation mutation = .ok encoded ∧
      tables.nextSequence encoded.roomId = .ok sequence ∧ Wrote tables next encoded sequence := by
  obtain ⟨encoded, encodes, rest⟩ := unbind run
  obtain ⟨sequence, placed, writes⟩ := unbind rest
  obtain ⟨kept, wrote⟩ := write_mutation_ok encodes consistent writes
  exact ⟨kept, encoded, sequence, encodes, placed, wrote⟩

theorem record_issue_shown (tables : Tables) :
    (tables.recordIssue row).events = tables.events ∧ (tables.recordIssue row).current = tables.current := by
  rw [recordIssue]
  split
  · exact ⟨rfl, rfl⟩
  · exact ⟨rfl, rfl⟩

theorem persist_issue_ok (run : persistIssue syncToken tables issue = .ok next) :
    next.events = tables.events ∧ next.current = tables.current := by
  obtain ⟨reserved, _, rest⟩ := unbind run
  cases rest
  exact record_issue_shown tables

-- The rule for a stretch of timeline: what each issue and each mutation keeps, the stretch keeps.
theorem apply_timeline_invariant (syncToken : MatrixSyncToken) (invariant : Tables → Prop)
    (isolates : ∀ tables next issue, invariant tables → persistIssue syncToken tables issue = .ok next → invariant next)
    (mutations : List MessageProjectionMutation)
    (mutates : ∀ mutation ∈ mutations, ∀ tables next, invariant tables → tables.applyMutation mutation = .ok next →
      invariant next) (index : Nat) (issues : List MessageSyncIssue) (tables next : Tables) (initial : invariant tables)
    (run : applyTimelineFrom syncToken index tables mutations issues = .ok next) : invariant next := by
  have loop (some : List MessageSyncIssue) (before after : Tables) (held : invariant before)
      (ran : some.foldlM (persistIssue syncToken) before = .ok after) : invariant after :=
    fold_ok_invariant (persistIssue syncToken) invariant some (fun issue _ before after => isolates before after issue)
      before after held ran
  induction mutations generalizing index issues tables with
  | nil => exact loop issues tables next initial run
  | cons mutation rest ih =>
    obtain ⟨isolated, waited, later⟩ := unbind run
    obtain ⟨written, applied, remaining⟩ := unbind later
    have held := loop _ tables isolated initial waited
    exact ih (fun other listed => mutates other (List.mem_cons_of_mem _ listed)) (index + 1) _ written
      (mutates mutation List.mem_cons_self isolated written held applied) remaining

theorem apply_timeline_consistent {issues : List MessageSyncIssue}
    (consistent : Consistent tables) (run : tables.applyTimeline syncToken mutations issues = .ok next) : Consistent next := by
  refine apply_timeline_invariant syncToken Consistent ?_ mutations ?_ 0 issues tables next consistent run
  · intro before after issue held persisted
    obtain ⟨events, current⟩ := persist_issue_ok persisted
    exact consistent_of_same before after events current held
  · intro mutation _ before after held applied
    exact (apply_mutation_ok held applied).1

structure Beside (tables next : Tables) : Prop where
  events : next.events = tables.events
  current : next.current = tables.current
  issues : next.issues = tables.issues

theorem beside_trans (earlier : Beside first second) (later : Beside second third) : Beside first third :=
  ⟨later.events.trans earlier.events, later.current.trans earlier.current, later.issues.trans earlier.issues⟩

theorem beside_consistent (beside : Beside tables next) (consistent : Consistent tables) :
    Consistent next := consistent_of_same tables next beside.events beside.current consistent

theorem record_loss_beside
    : Beside tables (tables.recordLoss roomId afterEventId beforeEventId) := by
  rw [recordLoss]
  split
  · exact ⟨rfl, rfl, rfl⟩
  · exact ⟨rfl, rfl, rfl⟩

theorem record_gap_beside (tables : Tables) : Beside tables (tables.recordGap row) := by
  rw [recordGap]
  split
  · exact ⟨rfl, rfl, rfl⟩
  · exact ⟨rfl, rfl, rfl⟩

theorem persist_gap_beside (batch : MessageProjectionBatch) (tables : Tables) (gap : MessageTimelineGap) :
    Beside tables (persistGap batch tables gap) := by
  dsimp only [persistGap]
  split
  · exact beside_trans (record_gap_beside tables) (record_loss_beside)
  · exact record_gap_beside tables

theorem persist_gaps_beside (tables : Tables) (batch : MessageProjectionBatch) : Beside tables (tables.persistGaps batch) := by
  rw [persistGaps]
  induction batch.gaps generalizing tables with
  | nil => exact ⟨rfl, rfl, rfl⟩
  | cons gap rest ih => exact beside_trans (persist_gap_beside batch tables gap) (ih (persistGap batch tables gap))

theorem truncated_beside (tables : Tables) (batch : MessageBackfillBatch) :
    Beside tables (tables.recordTruncatedBackfill batch) := by
  rw [recordTruncatedBackfill]
  split
  · exact ⟨rfl, rfl, rfl⟩
  · dsimp only
    split
    · exact ⟨rfl, rfl, rfl⟩
    · exact record_loss_beside

theorem apply_batch_ok (run : tables.applyBatch batch = .ok next) : ∃ gapped written : Tables, Beside tables gapped ∧
      gapped.applyTimeline batch.nextBatch batch.mutations batch.issues = .ok written ∧ Beside written next := by
  obtain ⟨written, applied, rest⟩ := unbind run
  cases rest
  exact ⟨tables.persistGaps batch, written, persist_gaps_beside tables batch, applied, rfl, rfl, rfl⟩

theorem apply_backfill_ok (run : tables.applyBackfillBatch batch = .ok next) :
    ∃ written : Tables, tables.applyTimeline batch.gap.syncToken batch.mutations batch.issues = .ok written ∧
      Beside written next := by
  obtain ⟨written, applied, rest⟩ := unbind run
  cases rest
  obtain ⟨events, current, issues⟩ := truncated_beside written batch
  exact ⟨written, applied, events, current, issues⟩

theorem recover_mutation_ok (consistent : Consistent tables) (run : recoverMutation roomId tables mutation = .ok next) :
    Consistent next ∧ mutation.roomId = roomId ∧ ((tables.reservedSequence roomId mutation.eventId = none ∧ next = tables) ∨
        ∃ sequence encoded written, tables.reservedSequence roomId mutation.eventId = some sequence ∧
          EncodedMutation.fromMutation mutation = .ok encoded ∧ Consistent written ∧ Wrote tables written encoded sequence ∧
          next = written.forgetUndecryptable roomId mutation.eventId) := by
  unfold recoverMutation at run
  split at run
  · cases run
  · rename_i same
    have room : mutation.roomId = roomId := not_not.mp same
    cases reserved : tables.reservedSequence roomId mutation.eventId with
    | none =>
      simp only [reserved] at run
      cases run
      exact ⟨consistent, room, .inl ⟨rfl, rfl⟩⟩
    | some sequence =>
      simp only [reserved] at run
      obtain ⟨encoded, encodes, rest⟩ := unbind run
      obtain ⟨written, writes, rest'⟩ := unbind rest
      cases rest'
      obtain ⟨kept, wrote⟩ := write_mutation_ok encodes consistent writes
      exact ⟨consistent_of_same written _ rfl rfl kept, room, .inr ⟨sequence, encoded, written, rfl, encodes, kept, wrote, rfl⟩⟩

theorem reclassify_same (roomId : MatrixRoomId) (tables : Tables) (issue : MessageSyncIssue) :
    (reclassifyIssue roomId tables issue).events = tables.events ∧
      (reclassifyIssue roomId tables issue).current = tables.current := by
  rw [reclassifyIssue]
  split
  · exact ⟨rfl, rfl⟩
  · exact ⟨rfl, rfl⟩

theorem apply_recovery_consistent (consistent : Consistent tables)
    (run : tables.applyRecoveryBatch batch = .ok next) : Consistent next := by
  obtain ⟨recovered, writes, rest⟩ := unbind run
  cases rest
  have kept : Consistent recovered := by
    refine fold_ok_invariant (recoverMutation batch.roomId) Consistent batch.recovered ?_ tables recovered consistent writes
    intro mutation _ before after held ran
    exact (recover_mutation_ok held ran).1
  have reclassified : Consistent (batch.reclassified.foldl (reclassifyIssue batch.roomId) recovered) := by
    refine List.foldlRecOn batch.reclassified _ kept ?_
    intro before held issue _
    obtain ⟨events, current⟩ := reclassify_same batch.roomId before issue
    exact consistent_of_same before _ events current held
  refine List.foldlRecOn batch.dismissed _ reclassified ?_
  intro before held eventId _
  exact consistent_of_same before _ rfl rfl held

end Tables

def deliver (tables : Tables) (call : StoreCall) : Tables :=
  match call.perform tables with
  | .ok next => next
  | .error _ => tables

def runCalls (calls : List StoreCall) : Tables := calls.foldl deliver Tables.empty

theorem perform_consistent (call : StoreCall) (consistent : Consistent tables)
    (run : call.perform tables = .ok next) : Consistent next := by
  cases call with
  | apply batch =>
    obtain ⟨gapped, written, before, applied, after⟩ := Tables.apply_batch_ok run
    have held := Tables.beside_consistent before consistent
    exact Tables.beside_consistent after (Tables.apply_timeline_consistent held applied)
  | applyBackfill batch =>
    obtain ⟨written, applied, after⟩ := Tables.apply_backfill_ok run
    exact Tables.beside_consistent after
      (Tables.apply_timeline_consistent consistent applied)
  | applyRecovery batch => exact Tables.apply_recovery_consistent consistent run

theorem deliver_consistent (call : StoreCall) (consistent : Consistent tables) : Consistent (deliver tables call) := by
  rw [deliver]
  cases run : call.perform tables with
  | ok next => exact perform_consistent call consistent run
  | error failure => exact consistent

theorem run_calls_consistent (calls : List StoreCall) : Consistent (runCalls calls) :=
  List.foldlRecOn calls deliver empty_consistent fun _ held call _ => deliver_consistent call held

end AgentRoom
