import AgentRoom.Projection.Consistent
import Mathlib.Data.List.Pairwise

namespace AgentRoom

open Library

variable {tables : Tables}

theorem shows_redacted_iff (base : EventRow) (row : CurrentRow) (shown : RowOf (· ∈ tables.events) base row) :
    row.visibility = .redacted ↔ ∃ event ∈ tables.events, OwnRevision .redact base event := by
  have shows := shown.shows
  unfold Shows at shows
  cases visible : row.visibility with
  | redacted =>
    simp only [visible] at shows
    simp only [true_iff]
    exact shows.2
  | active =>
    simp only [visible] at shows
    constructor
    · intro absurd
      cases absurd
    · rintro ⟨event, listed, own⟩
      exact (shows.1 event listed own).elim

-- Two edits of one message never share a sequence.
theorem own_sequences_differ (consistent : Consistent tables)
    (listed : first ∈ tables.events) (listed' : second ∈ tables.events) (own : OwnRevision .replace base first)
    (own' : OwnRevision .replace base second) (level : first.sequence = second.sequence) : first = second := by
  by_contra apart
  have symmetric : Std.Symm fun a b : EventRow => a.roomId = b.roomId → a.sequence ≠ b.sequence :=
    ⟨fun _ _ differs room => Ne.symm (differs room.symm)⟩
  have differs := List.Pairwise.forall consistent.distinctSequences listed listed' apart
  exact differs (own.2.1.trans own'.2.1.symm) level

theorem shows_active (consistent : Consistent tables) (base : EventRow)
    (shown : RowOf (· ∈ tables.events) base row) (active : row.visibility = .active) :
    (∃ latest ∈ tables.events, OwnRevision .replace base latest ∧
        (∀ event ∈ tables.events, OwnRevision .replace base event → event = latest ∨ event.sequence < latest.sequence) ∧
        row.lastRevisionEventId = some latest.eventId ∧ some row.preview = latest.preview ∧ row.content = latest.content) ∨
      ((∀ event ∈ tables.events, ¬ OwnRevision .replace base event) ∧
        row.lastRevisionEventId = none ∧ some row.preview = base.preview ∧ row.content = base.content) := by
  have shows := shown.shows
  unfold Shows at shows
  simp only [active] at shows
  obtain ⟨_, held, tracked, named, preview, content⟩ := shows
  cases held with
  | none => exact .inr ⟨fun event listed own => tracked event ⟨listed, own⟩, named, preview, content⟩
  | some latest =>
    obtain ⟨⟨listed, own⟩, highest⟩ := tracked
    refine .inl ⟨latest, listed, own, ?_, named, preview, content⟩
    intro event listed' own'
    by_cases level : event.sequence = latest.sequence
    · exact .inl (own_sequences_differ consistent listed' listed own' own level)
    · have below := highest event ⟨listed', own'⟩
      omega

-- Neither a moderation nor a revision of another message, room or subject moves a row.
def Foreign (edit : ProjectedMessageRevision) (row : CurrentRow) : Prop :=
  edit.kind = .moderate ∨ edit.roomId ≠ row.roomId ∨ edit.targetMessageId ≠ row.messageId ∨
    edit.actorSubjectKey ≠ row.actorSubjectKey

theorem foreign_untouched (tables : Tables) (revision : Tables.RevisionFields) (edit : ProjectedMessageRevision)
    (row : CurrentRow) (foreign : Foreign edit row) (kind : revision.revisionKind = edit.kind)
    (room : revision.roomId = edit.roomId) (message : revision.messageId = edit.targetMessageId)
    (subject : revision.actorSubjectKey = edit.actorSubjectKey) : tables.touched revision row = row := by
  rcases foreign with moderates | elsewhere
  · simp [Tables.touched, kind, moderates]
  · have quiet : Tables.ownActive revision row = false := by
      simp only [Tables.ownActive, decide_eq_false_iff_not, room, message, subject]
      rintro ⟨sameRoom, sameMessage, sameSubject, _⟩
      rcases elsewhere with differs | differs | differs
      · exact differs sameRoom.symm
      · exact differs sameMessage.symm
      · exact differs sameSubject.symm
    rw [Tables.touched]
    split <;> simp [quiet]

theorem foreign_write_keeps_row {sequence : Nat} (listed : row ∈ tables.current) (foreign : Foreign edit row)
    (encodes : EncodedMutation.fromMutation (.revision edit) = .ok encoded)
    (run : tables.writeMutation (.revision edit) encoded sequence = .ok next) : row ∈ next.current := by
  obtain ⟨_, room, message, kind, subject, _⟩ := encoded_revision encodes
  obtain ⟨⟨logged, inserted⟩, insert, rest⟩ := unbind run
  rcases Tables.insert_event_cases tables insert with
    ⟨none, same, _⟩ | ⟨one, _, _, event, _, appends⟩
  · simp only [none, if_pos] at rest
    cases rest
    exact same ▸ listed
  · subst one
    have member : row ∈ logged.current := by
      rw [appends]
      exact listed
    have applied : logged.applyRevision encoded sequence = .ok next := rest
    simp only [Tables.applyRevision, kind] at applied
    rw [Tables.apply_revision_fields_ok logged applied]
    exact List.mem_map.mpr ⟨row, member, foreign_untouched logged _ edit row foreign rfl room message subject⟩

theorem current_rows_are_functions_of_the_log (calls : List StoreCall) (row : CurrentRow)
    (listed : row ∈ (runCalls calls).current) :
    ∃ base ∈ (runCalls calls).events, base.eventId = row.baseEventId ∧ base.revisionKind = none ∧
      base.roomId = row.roomId ∧ base.messageId = row.messageId ∧ base.actorSubjectKey = row.actorSubjectKey ∧
      (row.visibility = .redacted ↔ ∃ event ∈ (runCalls calls).events, OwnRevision .redact base event) ∧
      (row.visibility = .active → (∃ latest ∈ (runCalls calls).events, OwnRevision .replace base latest ∧
          (∀ event ∈ (runCalls calls).events, OwnRevision .replace base event →
            event = latest ∨ event.sequence < latest.sequence) ∧
          some row.preview = latest.preview ∧ row.content = latest.content) ∨
        ((∀ event ∈ (runCalls calls).events, ¬ OwnRevision .replace base event) ∧
          some row.preview = base.preview ∧ row.content = base.content)) ∧
      ∀ edit encoded sequence next, Foreign edit row → EncodedMutation.fromMutation (.revision edit) = .ok encoded →
        (runCalls calls).writeMutation (.revision edit) encoded sequence = .ok next → row ∈ next.current := by
  have consistent := run_calls_consistent calls
  obtain ⟨base, stored, shown⟩ := consistent.rows row listed
  refine ⟨base, stored, shown.baseEvent.symm, shown.isPreview, shown.room.symm, shown.message.symm, shown.subject.symm,
    shows_redacted_iff base row shown, ?_, ?_⟩
  · intro active
    rcases shows_active consistent base shown active with
      ⟨latest, member, own, highest, _, preview, content⟩ | ⟨unedited, _, preview, content⟩
    · exact .inl ⟨latest, member, own, highest, preview, content⟩
    · exact .inr ⟨unedited, preview, content⟩
  · intro edit encoded sequence next foreign encodes run
    exact foreign_write_keeps_row listed foreign encodes run

def previewAt (event : String) (message : Nat) (subject : String) (content : Nat) : MessageProjectionMutation :=
  .preview {
    eventId := ⟨event⟩
    roomId := ⟨"!room:x"⟩
    messageId := ⟨message⟩
    originServerTimestamp := none
    actorSubjectKey := subject
    preview := event
    content := ⟨⟨content⟩, event⟩ }

def editAt (event : String) (message : Nat) (subject : String) (content : Nat) : MessageProjectionMutation :=
  .revision {
    eventId := ⟨event⟩
    roomId := ⟨"!room:x"⟩
    targetMessageId := ⟨message⟩
    originServerTimestamp := none
    actorSubjectKey := subject
    kind := .replace
    preview := some event
    content := some ⟨⟨content⟩, event⟩ }

-- An edit waits for its base, a stranger's edit is ignored, a later edit takes over.
def editedRun : List StoreCall :=
  [.apply ⟨⟨"s1"⟩, [editAt "$1" 7 "alice" 1, previewAt "$2" 7 "alice" 2], [], []⟩,
    .apply ⟨⟨"s2"⟩, [editAt "$3" 7 "mallory" 3, editAt "$4" 7 "alice" 4], [], []⟩]

def editedRow : CurrentRow where
  messageId := ⟨7⟩
  roomId := ⟨"!room:x"⟩
  baseEventId := ⟨"$2"⟩
  firstSequence := 2
  lastSequence := 4
  originServerTimestamp := none
  actorSubjectKey := "alice"
  preview := "$4"
  content := some ⟨⟨4⟩, "$4"⟩
  visibility := .active
  lastRevisionEventId := some ⟨"$4"⟩

theorem edited_row_is_a_function_of_the_log : ∃ base ∈ (runCalls editedRun).events, base.eventId = ⟨"$2"⟩ := by
  obtain ⟨base, stored, named, _⟩ := current_rows_are_functions_of_the_log editedRun editedRow (by decide)
  exact ⟨base, stored, named⟩

open Library

-- What a reader sees of a message, and which event it comes from.
inductive VisibleContent where
  | redacted
  | active (shownBy : MatrixEventId) (preview : Option String) (content : Option EncodedContent)
deriving DecidableEq

def CurrentRow.visibleContent (row : CurrentRow) : VisibleContent :=
  match row.visibility with
  | .redacted => .redacted
  | .active => .active (row.lastRevisionEventId.getD row.baseEventId) (some row.preview) row.content

def Tables.visibleContent (tables : Tables) (messageId : MessageId) : Option VisibleContent :=
  (tables.current.find? (·.messageId = messageId)).map CurrentRow.visibleContent

-- The same, read off a timeline of mutations alone: the first preview opens the
-- message, its author may withdraw it, and the author's last edit is shown.
def named (messageId : MessageId) : MessageProjectionMutation → Option ProjectedMessagePreview
  | .preview message => if message.messageId = messageId then some message else none
  | .revision _ => none

def firstPreview (messageId : MessageId) (timeline : List MessageProjectionMutation) : Option ProjectedMessagePreview :=
  timeline.findSome? (named messageId)

def ownRevision (kind : MessageRevisionKind) (base : ProjectedMessagePreview) :
    MessageProjectionMutation → Option ProjectedMessageRevision
  | .preview _ => none
  | .revision edit =>
    if edit.kind = kind ∧ edit.roomId = base.roomId ∧ edit.targetMessageId = base.messageId ∧
        edit.actorSubjectKey = base.actorSubjectKey then some edit
    else none

def revisions (kind : MessageRevisionKind) (base : ProjectedMessagePreview) (timeline : List MessageProjectionMutation) :
    List ProjectedMessageRevision := timeline.filterMap (ownRevision kind base)

def showing (base : ProjectedMessagePreview) : Option ProjectedMessageRevision → VisibleContent
  | none => .active base.eventId (some base.preview) (some base.content)
  | some edit => .active edit.eventId edit.preview edit.content

def lastEdit (base : ProjectedMessagePreview) (timeline : List MessageProjectionMutation) : Option ProjectedMessageRevision :=
  (revisions .replace base timeline).getLast?

def reading (timeline : List MessageProjectionMutation) (base : ProjectedMessagePreview) : VisibleContent :=
  if revisions .redact base timeline ≠ [] then .redacted else showing base (lastEdit base timeline)

def timelineView (timeline : List MessageProjectionMutation) (messageId : MessageId) : Option VisibleContent :=
  (firstPreview messageId timeline).map (reading timeline)

def Recorded (mutation : MessageProjectionMutation) (event : EventRow) : Prop :=
  ∃ encoded sequence, EncodedMutation.fromMutation mutation = .ok encoded ∧ Logged encoded sequence event

def Ordered (events : List EventRow) : Prop :=
  events.Pairwise fun first second => first.roomId = second.roomId → first.sequence < second.sequence

theorem recorded_event_id (recorded : Recorded mutation event) : event.eventId = mutation.eventId := by
  obtain ⟨encoded, _, encodes, logs⟩ := recorded
  exact logs.eventId.trans (encoded_ids encodes).1

variable {timeline : List MessageProjectionMutation} {event : EventRow} {tables next : Tables}

theorem recorded_preview (recorded : Recorded (.preview message) event) :
    event.eventId = message.eventId ∧ event.roomId = message.roomId ∧ event.messageId = message.messageId ∧
      event.revisionKind = none ∧ event.actorSubjectKey = message.actorSubjectKey ∧
      event.preview = some message.preview ∧ event.content = some message.content := by
  obtain ⟨encoded, _, encodes, logs⟩ := recorded
  obtain ⟨id, room, named, kind, subject, preview, content⟩ := encoded_preview encodes
  exact ⟨logs.eventId.trans id, logs.room.trans room, logs.message.trans named, logs.kind.trans kind,
    logs.subject.trans subject, logs.preview.trans preview, logs.content.trans content⟩

theorem recorded_revision (recorded : Recorded (.revision edit) event) :
    event.eventId = edit.eventId ∧ event.roomId = edit.roomId ∧ event.messageId = edit.targetMessageId ∧
      event.revisionKind = some edit.kind ∧ event.actorSubjectKey = edit.actorSubjectKey ∧
      event.preview = edit.preview ∧ event.content = edit.content := by
  obtain ⟨encoded, _, encodes, logs⟩ := recorded
  obtain ⟨id, room, named, kind, subject, preview, content⟩ := encoded_revision encodes
  exact ⟨logs.eventId.trans id, logs.room.trans room, logs.message.trans named, logs.kind.trans kind,
    logs.subject.trans subject, logs.preview.trans preview, logs.content.trans content⟩

theorem le_maximum (listed : value ∈ values) : value ≤ Tables.maximum values := by
  induction values with
  | nil => simp at listed
  | cons first rest ih =>
    rcases List.mem_cons.mp listed with same | later
    · exact same ▸ Nat.le_max_left ..
    · exact Nat.le_trans (ih later) (Nat.le_max_right ..)

theorem maximum_le (values : List Nat) (bound : Nat) (below : ∀ value ∈ values, value ≤ bound) :
    Tables.maximum values ≤ bound := by
  induction values with
  | nil => exact Nat.zero_le bound
  | cons first rest ih =>
    exact Nat.max_le.mpr ⟨below first List.mem_cons_self, ih fun value later => below value (List.mem_cons_of_mem _ later)⟩

theorem next_sequence_above {sequence : Nat} (placed : tables.nextSequence roomId = .ok sequence) :
    (∀ event ∈ tables.events, event.roomId = roomId → event.sequence < sequence) ∧
      ∀ row ∈ tables.issues, row.roomId = roomId → ∀ reserved, row.reservedSequence = some reserved → reserved < sequence := by
  unfold Tables.nextSequence at placed
  dsimp only at placed
  split at placed
  · cases placed
    constructor
    · intro event listed room
      have member : event.sequence ∈ tables.eventSequences roomId := by
        simp only [Tables.eventSequences, List.mem_map, List.mem_filter, decide_eq_true_eq]
        exact ⟨event, ⟨listed, room⟩, rfl⟩
      have below := le_maximum member
      omega
    · intro row listed room reserved kept
      have member : reserved ∈ tables.reservedSequences roomId := by
        simp only [Tables.reservedSequences, List.mem_filterMap, List.mem_filter, decide_eq_true_eq]
        exact ⟨row, ⟨listed, room⟩, kept⟩
      have below := le_maximum member
      omega
  · cases placed

theorem ordered_append (event : EventRow) (ordered : Ordered events)
    (above : ∀ old ∈ events, old.roomId = event.roomId → old.sequence < event.sequence) : Ordered (events ++ [event]) := by
  rw [Ordered]
  rw [List.pairwise_append]
  refine ⟨ordered, List.pairwise_singleton _ _, ?_⟩
  intro old listed new same room
  cases List.mem_singleton.mp same
  exact above old listed room

structure Records (timeline : List MessageProjectionMutation) (tables : Tables) : Prop where
  consistent : Consistent tables
  ordered : Ordered tables.events
  recorded : List.Forall₂ Recorded timeline tables.events

theorem empty_records : Records [] Tables.empty := ⟨empty_consistent, List.Pairwise.nil, List.Forall₂.nil⟩

theorem records_beside
    (events : next.events = tables.events) (current : next.current = tables.current) (records : Records timeline tables) :
    Records timeline next :=
  ⟨consistent_of_same tables next events current records.consistent, events ▸ records.ordered, events ▸ records.recorded⟩

theorem recorded_ids (recorded : List.Forall₂ Recorded timeline events) :
    events.map EventRow.eventId = timeline.map MessageProjectionMutation.eventId := by
  induction recorded with
  | nil => rfl
  | cons first _ ih => rw [List.map_cons, List.map_cons, recorded_event_id first, ih]

theorem apply_mutation_records (records : Records timeline tables)
    (fresh : mutation.eventId ∉ timeline.map MessageProjectionMutation.eventId)
    (run : tables.applyMutation mutation = .ok next) : Records (timeline ++ [mutation]) next := by
  obtain ⟨kept, encoded, sequence, encodes, placed, wrote⟩ :=
    Tables.apply_mutation_ok records.consistent run
  rcases wrote.log with ⟨⟨old, listed, same⟩, _⟩ | ⟨event, appended⟩
  · have member : old.eventId ∈ tables.events.map EventRow.eventId := List.mem_map_of_mem listed
    rw [recorded_ids records.recorded, same, (encoded_ids encodes).1] at member
    exact (fresh member).elim
  · refine ⟨kept, ?_, ?_⟩
    · rw [appended.events]
      refine ordered_append event records.ordered ?_
      intro old listed room
      rw [appended.logs.sequence]
      exact (next_sequence_above placed).1 old listed (room.trans appended.logs.room)
    · rw [appended.events]
      exact List.rel_append records.recorded (.cons ⟨encoded, sequence, encodes, appended.logs⟩ .nil)

theorem apply_timeline_records (syncToken : MatrixSyncToken) (timeline mutations : List MessageProjectionMutation)
    (index : Nat) (issues : List MessageSyncIssue) (tables next : Tables) (records : Records timeline tables)
    (distinct : ((timeline ++ mutations).map MessageProjectionMutation.eventId).Nodup)
    (run : Tables.applyTimelineFrom syncToken index tables mutations issues = .ok next) :
    Records (timeline ++ mutations) next := by
  have waits (waiting : List MessageSyncIssue) (before after : Tables) (covered : List MessageProjectionMutation)
      (held : Records covered before) (ran : waiting.foldlM (Tables.persistIssue syncToken) before = .ok after) :
      Records covered after := by
    refine fold_ok_invariant (Tables.persistIssue syncToken) (Records covered) waiting ?_ before after held ran
    intro issue _ one two one' persisted
    obtain ⟨events, current⟩ := Tables.persist_issue_ok persisted
    exact records_beside events current one'
  induction mutations generalizing index issues tables timeline with
  | nil =>
    rw [List.append_nil]
    exact waits issues tables next timeline records run
  | cons mutation rest ih =>
    obtain ⟨isolated, waited, later⟩ := unbind run
    obtain ⟨written, applied, remaining⟩ := unbind later
    have fresh : mutation.eventId ∉ timeline.map MessageProjectionMutation.eventId := by
      rw [List.map_append, List.map_cons, List.nodup_append] at distinct
      intro member
      exact distinct.2.2 _ member _ List.mem_cons_self rfl
    have recorded := apply_mutation_records (waits _ _ _ _ records waited) fresh applied
    have shifted : timeline ++ mutation :: rest = (timeline ++ [mutation]) ++ rest := by simp
    rw [shifted] at distinct ⊢
    exact ih (timeline ++ [mutation]) (index + 1) _ written recorded distinct remaining

def StoreCall.mutations : StoreCall → List MessageProjectionMutation
  | .apply batch => batch.mutations
  | .applyBackfill batch => batch.mutations
  | .applyRecovery batch => batch.recovered

def StoreCall.isFresh : StoreCall → Bool
  | .apply _ | .applyBackfill _ => true
  | .applyRecovery _ => false

def deliverAll (tables : Tables) (calls : List StoreCall) : StoreResult Tables := calls.foldlM StoreCall.perform tables

theorem perform_records (call : StoreCall) (fresh : call.isFresh = true) (records : Records timeline tables)
    (distinct : ((timeline ++ call.mutations).map MessageProjectionMutation.eventId).Nodup)
    (run : call.perform tables = .ok next) : Records (timeline ++ call.mutations) next := by
  cases call with
  | apply batch =>
    obtain ⟨gapped, written, before, applied, after⟩ := Tables.apply_batch_ok run
    have started := records_beside before.events before.current records
    exact records_beside after.events after.current
      (apply_timeline_records _ timeline batch.mutations 0 _ gapped written started distinct applied)
  | applyBackfill batch =>
    obtain ⟨written, applied, after⟩ := Tables.apply_backfill_ok run
    exact records_beside after.events after.current
      (apply_timeline_records _ timeline batch.mutations 0 _ tables written records distinct applied)
  | applyRecovery batch => cases fresh

theorem delivered_records (calls : List StoreCall) (timeline : List MessageProjectionMutation) (tables next : Tables)
    (fresh : ∀ call ∈ calls, call.isFresh = true) (records : Records timeline tables)
    (distinct : ((timeline ++ calls.flatMap StoreCall.mutations).map MessageProjectionMutation.eventId).Nodup)
    (run : deliverAll tables calls = .ok next) : Records (timeline ++ calls.flatMap StoreCall.mutations) next := by
  induction calls generalizing timeline tables with
  | nil =>
    have same := (fold_ok_nil _ _ _).mp run
    subst same
    simpa using records
  | cons call rest ih =>
    obtain ⟨middle, performed, later⟩ := (fold_ok_cons _ _ _ _ _).mp run
    rw [List.flatMap_cons, ← List.append_assoc] at distinct ⊢
    have here : ((timeline ++ call.mutations).map MessageProjectionMutation.eventId).Nodup := by
      rw [List.map_append] at distinct
      exact (List.nodup_append.mp distinct).1
    have recorded := perform_records call (fresh call List.mem_cons_self) records here performed
    exact ih (timeline ++ call.mutations) middle (fun other listed => fresh other (List.mem_cons_of_mem _ listed)) recorded
      distinct later

end AgentRoom
