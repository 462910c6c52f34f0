import AgentRoom.Library.Replay
import AgentRoom.Projection.Timeline

namespace AgentRoom

open Library

inductive TimelineStep where
  | isolate (issue : MessageSyncIssue)
  | write (mutation : MessageProjectionMutation)

def TimelineStep.perform (syncToken : MatrixSyncToken) (tables : Tables) : TimelineStep → StoreResult Tables
  | .isolate issue => tables.persistIssue syncToken issue
  | .write mutation => tables.applyMutation mutation

def timelineSteps (index : Nat) : List MessageProjectionMutation → List MessageSyncIssue → List TimelineStep
  | [], issues => issues.map .isolate
  | mutation :: rest, issues =>
    let due (issue : MessageSyncIssue) : Bool := issue.mutationsBefore ≤ index
    (issues.takeWhile due).map .isolate ++ .write mutation :: timelineSteps (index + 1) rest (issues.dropWhile due)

theorem isolate_steps {syncToken : MatrixSyncToken} {issues : List MessageSyncIssue} {tables : Tables} :
    (issues.map TimelineStep.isolate).foldlM (TimelineStep.perform syncToken) tables =
      issues.foldlM (Tables.persistIssue syncToken) tables := by
  rw [List.foldlM_map]
  rfl

theorem apply_timeline_steps (syncToken : MatrixSyncToken) (mutations : List MessageProjectionMutation) (index : Nat)
    (issues : List MessageSyncIssue) (tables : Tables) : Tables.applyTimelineFrom syncToken index tables mutations issues =
      (timelineSteps index mutations issues).foldlM (TimelineStep.perform syncToken) tables := by
  induction mutations generalizing index issues tables with
  | nil => exact (isolate_steps).symm
  | cons mutation rest ih =>
    rw [timelineSteps, List.foldlM_append, isolate_steps]
    simp only [List.foldlM_cons, ← ih]
    rfl

namespace Tables

theorem record_issue_insert (tables : Tables) (row : IssueRow) :
    tables.recordIssue row = { tables with issues := insertOrIgnore (sameIssue row) tables.issues row } := by
  rw [recordIssue, insertOrIgnore]
  split <;> rfl

def gapKey (row old : GapRow) : Bool :=
  old.syncToken = row.syncToken ∧ old.roomId = row.roomId ∧ old.previousBatch = row.previousBatch

theorem record_gap_insert {tables : Tables} :
    tables.recordGap row = { tables with gaps := insertOrIgnore (gapKey row) tables.gaps row } := by
  rw [recordGap, insertOrIgnore]
  unfold gapKey
  split <;> rfl

def lossKey (roomId : MatrixRoomId) (beforeEventId : MatrixEventId) (row : LossRow) : Bool :=
  row.roomId = roomId ∧ row.beforeEventId = beforeEventId

variable {roomId : MatrixRoomId} {gap : MessageTimelineGap}

theorem record_loss_insert {tables : Tables} {beforeEventId : MatrixEventId} :
    tables.recordLoss roomId afterEventId beforeEventId =
      { tables with
        losses := insertOrIgnore (lossKey roomId beforeEventId) tables.losses { roomId, beforeEventId, afterEventId } } := by
  rw [recordLoss, insertOrIgnore]
  unfold lossKey
  split <;> rfl

-- Writing an event that is not in the log yet adds it and touches nothing but the current rows.
theorem pending_revisions_current (tables : Tables)
    (run : tables.applyPendingRevisions roomId messageId = .ok next) : next = { tables with current := next.current } := by
  refine fold_ok_invariant applyRevisionFields (fun reached => reached = { tables with current := reached.current }) _
    ?_ tables next rfl run
  intro revision _ before after held stepped
  rw [apply_revision_fields_ok before stepped]
  dsimp only
  rw [held]

variable {encoded : EncodedMutation} {sequence : Nat}

theorem apply_revision_current (tables : Tables)
    (run : tables.applyRevision encoded sequence = .ok next) : next = { tables with current := next.current } := by
  unfold applyRevision at run
  split at run
  · cases run
  · rw [apply_revision_fields_ok tables run]

theorem write_mutation_log {tables : Tables} {mutation : MessageProjectionMutation} (run : tables.writeMutation mutation encoded sequence = .ok next) :
    (next = tables ∧ ∃ old ∈ tables.events, old.eventId = encoded.eventId) ∨
      ∃ event : EventRow, event.eventId = encoded.eventId ∧ event.roomId = encoded.roomId ∧
        next = { tables with events := tables.events ++ [event], current := next.current } := by
  obtain ⟨⟨logged, inserted⟩, insert, rest⟩ := unbind run
  rcases insert_event_cases tables insert with
    ⟨none, same, known⟩ | ⟨one, _, _, event, logs, appends⟩
  · simp only [none, if_pos] at rest
    cases rest
    exact .inl ⟨same, known⟩
  · subst one
    refine .inr ⟨event, logs.eventId, logs.room, ?_⟩
    cases mutation with
    | revision edit =>
      rw [apply_revision_current logged rest, appends]
    | preview message =>
      obtain ⟨⟨shown, opened⟩, insert', rest'⟩ := unbind rest
      rcases insert_current_cases logged insert' with
        ⟨none, same, _⟩ | ⟨one, _, row, _, opensRow⟩
      · simp only [none] at rest'
        cases rest'
        rw [same, appends]
      · simp only [one] at rest'
        rw [pending_revisions_current shown rest', opensRow, appends]

def Exhausted (tables : Tables) : Prop := ∃ roomId, tables.nextSequence roomId = .error .corrupt

theorem next_sequence_or_exhausted (tables : Tables) (roomId : MatrixRoomId) :
    (∃ sequence, tables.nextSequence roomId = .ok sequence) ∨
      (tables.nextSequence roomId = .error .corrupt ∧ tables.Exhausted) := by
  cases next : tables.nextSequence roomId with
  | ok sequence => exact .inl ⟨sequence, rfl⟩
  | error failure =>
    have same : failure = .corrupt := by
      simp only [nextSequence] at next
      split at next
      · cases next
      · exact (Except.error.inj next).symm
    exact .inr ⟨congrArg _ same, roomId, same ▸ next⟩

def issueRow (syncToken : MatrixSyncToken) (issue : MessageSyncIssue) (reserved : Option Nat) : IssueRow where
  syncToken
  roomId := issue.roomId
  eventId := issue.eventId
  reason := issue.reason
  reservedSequence := reserved
  session := issueSession issue

theorem place_or_exhausted (tables : Tables) (issue : MessageSyncIssue) :
    (∃ reserved, tables.placeFor issue = .ok reserved) ∨ (tables.placeFor issue = .error .corrupt ∧ tables.Exhausted) := by
  unfold placeFor
  split
  · rename_i eventId _ _
    rw [reserveSequence]
    split
    · exact .inl ⟨none, rfl⟩
    · rcases next_sequence_or_exhausted tables issue.roomId with ⟨sequence, placed⟩ | ⟨refused, full⟩
      · exact .inl ⟨some sequence, by rw [placed]; rfl⟩
      · exact .inr ⟨by rw [refused]; rfl, full⟩
  · exact .inl ⟨none, rfl⟩

def HasStep (syncToken : MatrixSyncToken) (tables : Tables) : TimelineStep → Prop
  | .isolate issue => tables.issues.any (sameIssue (issueRow syncToken issue none)) = true
  | .write mutation => ∃ encoded, EncodedMutation.fromMutation mutation = .ok encoded ∧
      columnsFit encoded.revisionKind encoded.preview encoded.content = true ∧
      ∃ old ∈ tables.events, old.eventId = encoded.eventId

variable (syncToken : MatrixSyncToken)

section

variable (tables : Tables)
include tables

theorem persist_issue_insert (run : tables.persistIssue syncToken issue = .ok next) : ∃ reserved, next = { tables with
      issues := insertOrIgnore (sameIssue (issueRow syncToken issue none)) tables.issues (issueRow syncToken issue reserved) } := by
  obtain ⟨reserved, _, rest⟩ := unbind run
  cases rest
  exact ⟨reserved, record_issue_insert tables (issueRow syncToken issue reserved)⟩

theorem insert_event_fits (run : tables.insertEvent encoded sequence = .ok (logged, inserted)) :
    columnsFit encoded.revisionKind encoded.preview encoded.content = true := by
  by_contra unfit
  simp only [insertEvent, dif_neg unfit] at run
  cases run

variable (item : TimelineStep)

theorem step_takes (next : Tables) (run : item.perform syncToken tables = .ok next) : HasStep syncToken next item := by
  cases item with
  | isolate issue =>
    obtain ⟨reserved, inserted⟩ := persist_issue_insert syncToken tables run
    rw [inserted]
    exact insert_or_ignore_any _ _ _ (by simp [sameIssue, issueRow])
  | write mutation =>
    obtain ⟨encoded, encodes, rest⟩ := unbind run
    obtain ⟨sequence, _, writes⟩ := unbind rest
    obtain ⟨⟨logged, inserted⟩, insert, _⟩ := unbind writes
    refine ⟨encoded, encodes, insert_event_fits tables insert, ?_⟩
    rcases write_mutation_log writes with ⟨same, known⟩ | ⟨event, named, _, logged⟩
    · exact same ▸ known
    · rw [logged]
      exact ⟨event, by simp, named⟩

theorem step_keeps (next : Tables)
    (other : TimelineStep) (run : item.perform syncToken tables = .ok next) (known : HasStep syncToken tables other) :
    HasStep syncToken next other := by
  cases item with
  | isolate issue =>
    obtain ⟨reserved, inserted⟩ := persist_issue_insert syncToken tables run
    rw [inserted]
    cases other with
    | isolate earlier => exact insert_or_ignore_mono _ _ _ known
    | write mutation => exact known
  | write mutation =>
    obtain ⟨encoded, _, rest⟩ := unbind run
    obtain ⟨sequence, _, writes⟩ := unbind rest
    rcases write_mutation_log writes with ⟨same, _⟩ | ⟨event, _, _, logged⟩
    · exact same ▸ known
    · rw [logged]
      cases other with
      | isolate earlier => exact known
      | write earlier =>
        obtain ⟨encoded', encodes, fits, old, listed, named⟩ := known
        exact ⟨encoded', encodes, fits, old, List.mem_append_left _ listed, named⟩

theorem known_mutation_idle (mutation : MessageProjectionMutation)
    (sequence : Nat) (fits : columnsFit encoded.revisionKind encoded.preview encoded.content = true)
    (known : ∃ old ∈ tables.events, old.eventId = encoded.eventId) :
    tables.writeMutation mutation encoded sequence = .ok tables := by
  have logged : (tables.events.any fun row => row.eventId = encoded.eventId) = true := by simpa using known
  have ignored : tables.insertEvent encoded sequence = .ok (tables, 0) := by
    rw [insertEvent, dif_pos fits, if_pos logged]
  rw [writeMutation, ignored]
  rfl

theorem step_idle (known : HasStep syncToken tables item) :
    item.perform syncToken tables = .ok tables ∨ (item.perform syncToken tables = .error .corrupt ∧ tables.Exhausted) := by
  cases item with
  | isolate issue =>
    rw [TimelineStep.perform, persistIssue]
    rcases place_or_exhausted tables issue with ⟨reserved, placed⟩ | ⟨refused, full⟩
    · have ignored := record_issue_insert tables (issueRow syncToken issue reserved)
      have again := insert_or_ignore_again (sameIssue (issueRow syncToken issue reserved)) tables.issues
        (issueRow syncToken issue reserved) known
      rw [again] at ignored
      rw [placed]
      exact .inl (congrArg Except.ok ignored)
    · rw [refused]
      exact .inr ⟨rfl, full⟩
  | write mutation =>
    obtain ⟨encoded, encodes, fits, logged⟩ := known
    rw [TimelineStep.perform, applyMutation, encodes]
    rcases next_sequence_or_exhausted tables encoded.roomId with ⟨sequence, placed⟩ | ⟨refused, full⟩
    · have idle := known_mutation_idle tables mutation sequence fits logged
      simp only [bind, Except.bind, placed, idle]
      exact .inl trivial
    · simp only [bind, Except.bind, refused]
      exact .inr ⟨trivial, full⟩

end

theorem timeline_absorbs : Absorbs (TimelineStep.perform syncToken) (HasStep syncToken) .corrupt Exhausted where
  takes := step_takes syncToken
  keeps := step_keeps syncToken
  idle := step_idle syncToken

section

variable (batch : MessageProjectionBatch)

def gapRow (tables : Tables) (gap : MessageTimelineGap) : GapRow where
  syncToken := batch.nextBatch
  roomId := gap.roomId
  previousBatch := gap.previousBatch
  afterEventId := tables.latestEvent gap.roomId
  beforeEventId := firstNewMessage batch.mutations gap.roomId

-- A gap was recorded, and its loss with it where nothing can be fetched. Both
-- ends of a gap are data of its row, not of its key.
def HasGap (tables : Tables) (gap : MessageTimelineGap) : Prop :=
  tables.gaps.any (gapKey (gapRow batch Tables.empty gap)) = true ∧
    ∀ before, gap.previousBatch = none → firstNewMessage batch.mutations gap.roomId = some before →
      tables.losses.any (lossKey gap.roomId before) = true

def gapRecorded (tables : Tables) (gap : MessageTimelineGap) : Tables :=
  { tables with
    gaps := insertOrIgnore (gapKey (gapRow batch Tables.empty gap)) tables.gaps (gapRow batch tables gap) }

theorem persist_gap_eq (tables : Tables) (gap : MessageTimelineGap) : persistGap batch tables gap =
      match gap.previousBatch, firstNewMessage batch.mutations gap.roomId with
      | none, some before =>
        (tables.recordGap (gapRow batch tables gap)).recordLoss gap.roomId (tables.latestEvent gap.roomId) before
      | _, _ => tables.recordGap (gapRow batch tables gap) := rfl

theorem persist_gap_cases (tables : Tables) (gap : MessageTimelineGap) :
    (∃ before, gap.previousBatch = none ∧ firstNewMessage batch.mutations gap.roomId = some before ∧
        persistGap batch tables gap = { gapRecorded batch tables gap with
          losses := insertOrIgnore (lossKey gap.roomId before) tables.losses
            ⟨gap.roomId, before, tables.latestEvent gap.roomId⟩ }) ∨
      ((∀ before, gap.previousBatch = none → firstNewMessage batch.mutations gap.roomId ≠ some before) ∧
        persistGap batch tables gap = gapRecorded batch tables gap) := by
  have recorded : tables.recordGap (gapRow batch tables gap) = gapRecorded batch tables gap :=
    record_gap_insert
  rw [persist_gap_eq, recorded]
  cases token : gap.previousBatch with
  | some previous => exact .inr ⟨fun before absent => by simp at absent, rfl⟩
  | none =>
    cases first : firstNewMessage batch.mutations gap.roomId with
    | none => exact .inr ⟨fun before _ found => by simp at found, rfl⟩
    | some before =>
      refine .inl ⟨before, rfl, rfl, ?_⟩
      exact record_loss_insert

end

theorem gap_takes {tables : Tables} : HasGap batch (persistGap batch tables gap) gap := by
  have listed : (gapRecorded batch tables gap).gaps.any (gapKey (gapRow batch Tables.empty gap)) = true :=
    insert_or_ignore_any _ tables.gaps _ (by simp [gapKey, gapRow])
  rcases persist_gap_cases batch tables gap with ⟨before, _, first, written⟩ | ⟨whole, written⟩
  · rw [written]
    refine ⟨listed, fun other _ found => ?_⟩
    rw [first] at found
    cases found
    exact insert_or_ignore_any _ tables.losses _ (by simp [lossKey])
  · rw [written]
    exact ⟨listed, fun before absent found => (whole before absent found).elim⟩

variable {tables next : Tables} {batch : MessageProjectionBatch}

theorem gap_keeps (gap : MessageTimelineGap)
    (known : HasGap batch tables other) : HasGap batch (persistGap batch tables gap) other := by
  have listed := insert_or_ignore_mono (gapKey (gapRow batch Tables.empty gap)) tables.gaps (gapRow batch tables gap)
    known.1
  rcases persist_gap_cases batch tables gap with ⟨before, _, _, written⟩ | ⟨_, written⟩
  · rw [written]
    exact ⟨listed, fun earlier absent found => insert_or_ignore_mono _ tables.losses _ (known.2 earlier absent found)⟩
  · rw [written]
    exact ⟨listed, known.2⟩

theorem gap_idle (known : HasGap batch tables gap) : persistGap batch tables gap = tables := by
  have still : gapRecorded batch tables gap = tables := by
    rw [gapRecorded, insert_or_ignore_again _ _ _ known.1]
  rcases persist_gap_cases batch tables gap with ⟨before, absent, first, written⟩ | ⟨_, written⟩
  · rw [written, still, insert_or_ignore_again _ _ _ (known.2 before absent first)]
  · rw [written, still]

theorem gaps_absorb (batch : MessageProjectionBatch) :
    Absorbs (fun tables gap => .ok (persistGap batch tables gap)) (HasGap batch)
      MessageProjectionStoreFailureKind.corrupt fun _ => False where
  takes := by
    intro tables gap next run
    cases run
    exact gap_takes
  keeps := by
    intro tables gap next other run known
    cases run
    exact gap_keeps gap known
  idle := fun tables gap known => .inl (congrArg Except.ok (gap_idle known))

theorem persist_gaps_loop (tables : Tables) (batch : MessageProjectionBatch) :
    (batch.gaps.foldlM (fun tables gap => .ok (persistGap batch tables gap)) tables : StoreResult Tables) =
      .ok (tables.persistGaps batch) := List.foldlM_pure

theorem persisted_gaps_idle (batch : MessageProjectionBatch) (known : ∀ gap ∈ batch.gaps, HasGap batch tables gap)
    (gaps : next.gaps = tables.gaps) (losses : next.losses = tables.losses) : next.persistGaps batch = next := by
  have known' : ∀ gap ∈ batch.gaps, HasGap batch next gap := by
    intro gap listed
    rw [HasGap, gaps, losses]
    exact known gap listed
  rcases loop_idle (gaps_absorb batch) known' with still | ⟨_, full⟩
  · exact Except.ok.inj ((persist_gaps_loop next batch).symm.trans still)
  · exact full.elim

theorem apply_timeline_beside {syncToken : MatrixSyncToken}
    {issues : List MessageSyncIssue} (run : tables.applyTimeline syncToken mutations issues = .ok next) :
    next.gaps = tables.gaps ∧ next.losses = tables.losses := by
  refine apply_timeline_invariant syncToken (fun reached => reached.gaps = tables.gaps ∧ reached.losses = tables.losses)
    ?_ mutations ?_ 0 issues tables next ⟨rfl, rfl⟩ run
  · intro before after issue held persisted
    obtain ⟨reserved, inserted⟩ := persist_issue_insert syncToken before persisted
    rw [inserted]
    exact held
  · intro mutation _ before after held applied
    obtain ⟨encoded, _, rest⟩ := unbind applied
    obtain ⟨sequence, _, writes⟩ := unbind rest
    rcases write_mutation_log writes with ⟨same, _⟩ | ⟨event, _, _, logged⟩
    · exact same ▸ held
    · rw [logged]
      exact held

theorem applied_batch_idle {tables : Tables} {batch : MessageProjectionBatch} (run : tables.applyBatch batch = .ok next) :
    next.applyBatch batch = .ok next ∨ (next.applyBatch batch = .error .corrupt ∧ next.Exhausted) := by
  obtain ⟨written, applied, rest⟩ := unbind run
  cases rest
  obtain ⟨gaps, losses⟩ := apply_timeline_beside applied
  have taken := loop_takes (gaps_absorb batch) batch.gaps tables _ (persist_gaps_loop tables batch)
  have gapped : ({ written with cursor := some batch.nextBatch } : Tables).persistGaps batch =
      { written with cursor := some batch.nextBatch } := persisted_gaps_idle batch taken gaps losses
  have known : ∀ item ∈ timelineSteps 0 batch.mutations batch.issues,
      HasStep batch.nextBatch { written with cursor := some batch.nextBatch } item := by
    rw [applyTimeline, apply_timeline_steps] at applied
    intro item listed
    have has := loop_takes (timeline_absorbs batch.nextBatch) _ _ written applied item listed
    cases item with
    | isolate issue => exact has
    | write mutation => exact has
  have again := loop_idle (timeline_absorbs batch.nextBatch) known
  rw [← apply_timeline_steps, ← applyTimeline] at again
  rw [applyBatch, gapped]
  rcases again with still | ⟨refused, full⟩
  · rw [still]
    exact .inl rfl
  · rw [refused]
    exact .inr ⟨rfl, full⟩

end Tables

-- A batch delivered twice leaves what it leaves once, whether it is written or
-- refused; and a batch that was written is acknowledged again, unless its
-- second run finds a room with no sequence left to hand out.
theorem replayed_batch_changes_nothing (calls : List StoreCall) (batch : MessageProjectionBatch) :
    runCalls (calls ++ [.apply batch, .apply batch]) = runCalls (calls ++ [.apply batch]) ∧
      ∀ next, (runCalls calls).applyBatch batch = .ok next → next.applyBatch batch = .ok next ∨
          (next.applyBatch batch = .error .corrupt ∧ ∃ roomId, next.nextSequence roomId = .error .corrupt) := by
  refine ⟨?_, fun next run => Tables.applied_batch_idle run⟩
  simp only [runCalls, List.foldl_append, List.foldl_cons, List.foldl_nil]
  generalize calls.foldl deliver Tables.empty = reached
  cases run : reached.applyBatch batch with
  | error failure =>
    have once : deliver reached (.apply batch) = reached := by rw [deliver, StoreCall.perform, run]
    rw [once, once]
  | ok next =>
    have once : deliver reached (.apply batch) = next := by rw [deliver, StoreCall.perform, run]
    rw [once]
    rcases Tables.applied_batch_idle run with still | ⟨refused, _⟩
    · rw [deliver, StoreCall.perform, still]
    · rw [deliver, StoreCall.perform, refused]

def limitedSync : MessageProjectionBatch where
  nextBatch := ⟨"s1"⟩
  mutations := [previewAt "$1" 7 "alice" 1]
  issues := [⟨⟨"!room:x"⟩, some ⟨"$2"⟩, .undecryptable, 1, some ⟨"@bob:x", none, "megolm"⟩⟩]
  gaps := [⟨⟨"!room:x"⟩, none⟩]

theorem limited_sync_replays : runCalls [.apply limitedSync, .apply limitedSync] = runCalls [.apply limitedSync] ∧
      ∃ next, (runCalls []).applyBatch limitedSync = .ok next ∧
        next.issues.map IssueRow.reservedSequence = [some 2] ∧ next.losses.length = 1 ∧
        (next.applyBatch limitedSync = .ok next ∨
          (next.applyBatch limitedSync = .error .corrupt ∧ ∃ roomId, next.nextSequence roomId = .error .corrupt)) := by
  obtain ⟨next, run, placed, lost⟩ : ∃ next, (runCalls []).applyBatch limitedSync = .ok next ∧
      next.issues.map IssueRow.reservedSequence = [some 2] ∧ next.losses.length = 1 :=
    ⟨_, rfl, by decide, by decide⟩
  obtain ⟨same, acknowledged⟩ := replayed_batch_changes_nothing [] limitedSync
  exact ⟨same, next, run, placed, lost, acknowledged next run⟩

end AgentRoom
