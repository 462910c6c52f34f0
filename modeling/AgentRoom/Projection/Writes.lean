import AgentRoom.Library.Ranking
import AgentRoom.Projection.Store

namespace AgentRoom

open Library

-- A revision that may touch the message of a base event: same room, same
-- message, same subject.
def OwnRevision (kind : MessageRevisionKind) (base event : EventRow) : Prop :=
  event.revisionKind = some kind ∧ event.roomId = base.roomId ∧ event.messageId = base.messageId ∧
    event.actorSubjectKey = base.actorSubjectKey

instance (kind : MessageRevisionKind) (base event : EventRow) : Decidable (OwnRevision kind base event) :=
  inferInstanceAs (Decidable (_ ∧ _ ∧ _ ∧ _))

-- What a row shows once the events of `seen` have been taken into account.
def Shows (seen : EventRow → Prop) (base : EventRow) (row : CurrentRow) : Prop :=
  match row.visibility with
  | .redacted => row.content = none ∧ ∃ event, seen event ∧ OwnRevision .redact base event
  | .active =>
    (∀ event, seen event → ¬ OwnRevision .redact base event) ∧
      ∃ held, Tracks EventRow.sequence (fun event => seen event ∧ OwnRevision .replace base event) held ∧
        row.lastRevisionEventId = held.map EventRow.eventId ∧
        some row.preview = (held.getD base).preview ∧ row.content = (held.getD base).content

structure RowOf (seen : EventRow → Prop) (base : EventRow) (row : CurrentRow) : Prop where
  isPreview : base.revisionKind = none
  baseEvent : row.baseEventId = base.eventId
  room : row.roomId = base.roomId
  message : row.messageId = base.messageId
  subject : row.actorSubjectKey = base.actorSubjectKey
  first : row.firstSequence = base.sequence
  shows : Shows seen base row

-- The fields a revision is applied with are those of its row in the log.
structure Describes (revision : Tables.RevisionFields) (event : EventRow) : Prop where
  eventId : revision.eventId = event.eventId
  room : revision.roomId = event.roomId
  message : revision.messageId = event.messageId
  sequence : revision.sequence = event.sequence
  kind : event.revisionKind = some revision.revisionKind
  subject : revision.actorSubjectKey = event.actorSubjectKey
  preview : revision.preview = event.preview
  content : revision.content = event.content

def DistinctEvents (events : List EventRow) : Prop := (events.map EventRow.eventId).Nodup

theorem distinct_events_eq (distinct : DistinctEvents events)
    (listed : first ∈ events) (listed' : second ∈ events) (same : first.eventId = second.eventId) : first = second :=
  List.inj_on_of_nodup_map distinct listed listed' same

variable (seen : EventRow → Prop)

variable {row : CurrentRow}

theorem shows_congr {base : EventRow}
    (same : ∀ event, OwnRevision .redact base event ∨ OwnRevision .replace base event → (seen event ↔ others event))
    (shows : Shows seen base row) : Shows others base row := by
  unfold Shows at shows ⊢
  cases visible : row.visibility with
  | redacted =>
    simp only [visible] at shows ⊢
    obtain ⟨cleared, event, listed, own⟩ := shows
    exact ⟨cleared, event, (same event (.inl own)).mp listed, own⟩
  | active =>
    simp only [visible] at shows ⊢
    obtain ⟨kept, held, tracked, named, preview, content⟩ := shows
    refine ⟨fun event listed own => kept event ((same event (.inl own)).mpr listed) own, held, ?_, named, preview, content⟩
    refine tracks_congr _ _ (fun event => ?_) tracked
    constructor
    · rintro ⟨listed, own⟩
      exact ⟨(same event (.inr own)).mp listed, own⟩
    · rintro ⟨listed, own⟩
      exact ⟨(same event (.inr own)).mpr listed, own⟩

theorem row_of_congr {base : EventRow}
    (same : ∀ event, OwnRevision .redact base event ∨ OwnRevision .replace base event → (seen event ↔ others event))
    (shown : RowOf seen base row) : RowOf others base row :=
  { shown with shows := shows_congr seen same shown.shows }

theorem redacted_stays {base : EventRow} (redacted : row.visibility = .redacted) (shows : Shows seen base row) :
    Shows (fun other => seen other ∨ other = event) base row := by
  unfold Shows at shows ⊢
  simp only [redacted] at shows ⊢
  obtain ⟨cleared, earlier, listed, own⟩ := shows
  exact ⟨cleared, earlier, .inl listed, own⟩

theorem foreign_stays {base : EventRow}
    (foreign : ¬ (OwnRevision .redact base event ∨ OwnRevision .replace base event)) (shows : Shows seen base row) :
    Shows (fun other => seen other ∨ other = event) base row := by
  refine shows_congr seen (fun other own => ?_) shows
  constructor
  · exact .inl
  · rintro (listed | same)
    · exact listed
    · exact (foreign (same ▸ own)).elim

namespace Tables

-- The row update both UPDATE statements come down to.
def touched (tables : Tables) (revision : RevisionFields) (row : CurrentRow) : CurrentRow :=
  match revision.revisionKind, revision.preview, revision.content with
  | .replace, some preview, some content =>
    if ownActive revision row && !tables.appliedLater revision row then replaceRow revision preview content row
    else row
  | .redact, _, _ => if ownActive revision row then redactRow revision row else row
  | _, _, _ => row

variable (tables : Tables) (seen : EventRow → Prop) (revision : RevisionFields) (base : EventRow)

theorem apply_revision_fields_ok {next : Tables} {revision : RevisionFields}
    (applied : tables.applyRevisionFields revision = .ok next) :
    next = { tables with current := tables.current.map (tables.touched revision) } := by
  cases kind : revision.revisionKind with
  | moderate =>
    simp only [applyRevisionFields, kind] at applied
    cases applied
    have still : tables.touched revision = id := by
      funext row
      simp [touched, kind]
    simp [still]
  | redact =>
    simp only [applyRevisionFields, kind, applyRedaction] at applied
    cases applied
    simp [touched, kind]
  | replace =>
    simp only [applyRevisionFields, kind, applyReplacement] at applied
    cases preview : revision.preview with
    | none => simp [preview] at applied
    | some text =>
      cases content : revision.content with
      | none => simp [preview, content] at applied
      | some reference =>
        simp only [preview, content] at applied
        split at applied
        · cases applied
        · cases applied
          simp [touched, kind, preview, content]

theorem own_active_iff {row : CurrentRow} {seen : EventRow → Prop}
    (described : Describes revision event) (shown : RowOf seen base row) : ownActive revision row = true ↔
      OwnRevision revision.revisionKind base event ∧ row.visibility = .active := by
  simp only [ownActive, OwnRevision, decide_eq_true_eq, described.kind, described.room, described.message,
    described.subject, shown.room, shown.message, shown.subject, true_and]
  constructor
  · rintro ⟨room, message, subject, active⟩
    exact ⟨⟨room.symm, message.symm, subject.symm⟩, active⟩
  · rintro ⟨⟨room, message, subject⟩, active⟩
    exact ⟨room.symm, message.symm, subject.symm, active⟩

-- The guard of the replacement sees exactly the edit the row shows.
theorem applied_later_iff (distinct : DistinctEvents tables.events)
    (listed : ∀ top, held = some top → top ∈ tables.events) (named : row.lastRevisionEventId = held.map EventRow.eventId) :
    tables.appliedLater revision row = true ↔ ∃ top, held = some top ∧ revision.sequence < top.sequence := by
  simp only [appliedLater, List.any_eq_true, decide_eq_true_eq, named]
  constructor
  · rintro ⟨applied, member, same, later⟩
    cases held with
    | none => simp at same
    | some top =>
      have equal : applied = top :=
        distinct_events_eq distinct member (listed top rfl) (by simpa using same)
      exact ⟨top, rfl, equal ▸ later⟩
  · rintro ⟨top, same, later⟩
    exact ⟨top, listed top same, by simp [same], later⟩

theorem redact_row_shows {row : CurrentRow} {revision : RevisionFields} (own : OwnRevision .redact base event) :
    Shows (fun other => seen other ∨ other = event) base (redactRow revision row) := by
  simp only [Shows, redactRow]
  exact ⟨trivial, event, .inr rfl, own⟩

theorem replace_row_shows {row : CurrentRow} {revision : RevisionFields}
    {content : EncodedContent} (distinct : DistinctEvents tables.events) (within : ∀ event, seen event → event ∈ tables.events)
    (described : Describes revision event) (own : OwnRevision .replace base event) (text : revision.preview = some preview)
    (reference : revision.content = some content) (active : row.visibility = .active) (shows : Shows seen base row) :
    Shows (fun other => seen other ∨ other = event) base
      (if tables.appliedLater revision row then row else replaceRow revision preview content row) := by
  simp only [Shows, active] at shows
  obtain ⟨kept, held, tracked, named, previewed, contented⟩ := shows
  have listed : ∀ top, held = some top → top ∈ tables.events := by
    intro top same
    subst same
    exact within top (tracks_member _ _ top tracked).1
  have still : ∀ other, seen other ∨ other = event → ¬ OwnRevision .redact base other := by
    rintro other (earlier | same)
    · exact kept other earlier
    · rw [same]
      intro redacts
      have kinds := own.1.symm.trans redacts.1
      cases kinds
  have tracks' : Tracks EventRow.sequence
      (fun other => (seen other ∨ other = event) ∧ OwnRevision .replace base other)
      (offer EventRow.sequence held event) := by
    refine tracks_congr _ _ (fun other => ?_) (tracks_offer _ _ tracked)
    constructor
    · rintro (⟨earlier, owned⟩ | same)
      · exact ⟨.inl earlier, owned⟩
      · exact ⟨.inr same, same ▸ own⟩
    · rintro ⟨earlier | same, owned⟩
      · exact .inl ⟨earlier, owned⟩
      · exact .inr same
  by_cases later : tables.appliedLater revision row = true
  · obtain ⟨top, same, above⟩ := (applied_later_iff tables revision distinct listed named).mp later
    have offered : offer EventRow.sequence held event = some top := by
      rw [described.sequence] at above
      simp [offer, same, above]
    simp only [if_pos later, Shows, active]
    exact ⟨still, some top, offered ▸ tracks', same ▸ named, same ▸ previewed, same ▸ contented⟩
  · have offered : offer EventRow.sequence held event = some event := by
      cases same : held with
      | none => rfl
      | some top =>
        have level : ¬ event.sequence < top.sequence := by
          intro above
          rw [← described.sequence] at above
          exact later ((applied_later_iff tables revision distinct listed named).mpr ⟨top, same, above⟩)
        simp [offer, level]
    simp only [if_neg later, Shows, replaceRow, active]
    refine ⟨still, some event, offered ▸ tracks', ?_, ?_, ?_⟩
    · simp [described.eventId]
    · simp [← described.preview, text]
    · simp [← described.content, reference]

theorem touched_shows {row : CurrentRow} {revision : RevisionFields} (distinct : DistinctEvents tables.events)
    (within : ∀ event, seen event → event ∈ tables.events) (described : Describes revision event) (shown : RowOf seen base row) :
    Shows (fun other => seen other ∨ other = event) base (tables.touched revision row) := by
  have mine := own_active_iff revision base described shown
  have kind := described.kind
  have other (quiet : ownActive revision row = false) :
      Shows (fun other => seen other ∨ other = event) base row := by
    by_cases active : row.visibility = .active
    · refine foreign_stays seen ?_ shown.shows
      rintro (own | own)
      · have same : revision.revisionKind = .redact := Option.some.inj (kind.symm.trans own.1)
        simp [mine.mpr ⟨same.symm ▸ own, active⟩] at quiet
      · have same : revision.revisionKind = .replace := Option.some.inj (kind.symm.trans own.1)
        simp [mine.mpr ⟨same.symm ▸ own, active⟩] at quiet
    · have redacted : row.visibility = .redacted := by
        cases visible : row.visibility with
        | active => exact (active visible).elim
        | redacted => rfl
      exact redacted_stays seen redacted shown.shows
  cases revised : revision.revisionKind with
  | moderate =>
    have still : tables.touched revision row = row := by simp [touched, revised]
    rw [still]
    refine foreign_stays seen ?_ shown.shows
    rintro (own | own)
    · simp [OwnRevision, kind, revised] at own
    · simp [OwnRevision, kind, revised] at own
  | redact =>
    by_cases owned : ownActive revision row = true
    · have own := (mine.mp owned).1
      rw [revised] at own
      simpa [touched, revised, owned] using redact_row_shows seen base own
    · simpa [touched, revised, owned] using other (by simpa using owned)
  | replace =>
    have checked := event.checked
    rw [kind, revised] at checked
    simp only [columnsFit, Bool.and_eq_true] at checked
    obtain ⟨preview, text⟩ := Option.isSome_iff_exists.mp checked.1
    obtain ⟨content, reference⟩ := Option.isSome_iff_exists.mp checked.2
    have text' : revision.preview = some preview := described.preview.trans text
    have reference' : revision.content = some content := described.content.trans reference
    by_cases owned : ownActive revision row = true
    · obtain ⟨own, active⟩ := mine.mp owned
      rw [revised] at own
      have shows := replace_row_shows tables seen base distinct within described own
        text' reference' active shown.shows
      by_cases later : tables.appliedLater revision row = true
      · simpa [touched, revised, text', reference', owned, later] using shows
      · simpa [touched, revised, text', reference', owned, later] using shows
    · simpa [touched, revised, text', reference', owned] using other (by simpa using owned)

structure SameRow (first second : CurrentRow) : Prop where
  message : second.messageId = first.messageId
  room : second.roomId = first.roomId
  baseEvent : second.baseEventId = first.baseEventId
  subject : second.actorSubjectKey = first.actorSubjectKey
  first : second.firstSequence = first.firstSequence

theorem touched_same (row : CurrentRow) : SameRow row (tables.touched revision row) := by
  rw [touched]
  split
  · split <;> exact ⟨rfl, rfl, rfl, rfl, rfl⟩
  · split <;> exact ⟨rfl, rfl, rfl, rfl, rfl⟩
  · exact ⟨rfl, rfl, rfl, rfl, rfl⟩

theorem touched_row_of {row : CurrentRow} {revision : RevisionFields} (distinct : DistinctEvents tables.events)
    (within : ∀ event, seen event → event ∈ tables.events) (described : Describes revision event) (shown : RowOf seen base row) :
    RowOf (fun other => seen other ∨ other = event) base (tables.touched revision row) := by
  have same := touched_same tables revision row
  exact ⟨shown.isPreview, same.baseEvent.trans shown.baseEvent, same.room.trans shown.room,
    same.message.trans shown.message, same.subject.trans shown.subject, same.first.trans shown.first,
    touched_shows tables seen base distinct within described shown⟩

end Tables

open Library

def previewOf (messageId : MessageId) (event : EventRow) : Bool :=
  event.revisionKind = none ∧ event.messageId = messageId

structure Logged (encoded : EncodedMutation) (sequence : Nat) (row : EventRow) : Prop where
  eventId : row.eventId = encoded.eventId
  room : row.roomId = encoded.roomId
  sequence : row.sequence = sequence
  message : row.messageId = encoded.messageId
  kind : row.revisionKind = encoded.revisionKind
  subject : row.actorSubjectKey = encoded.actorSubjectKey
  preview : row.preview = encoded.preview
  content : row.content = encoded.content

-- What holds between the log and the current rows after every transaction.
structure Consistent (tables : Tables) : Prop where
  distinctEvents : DistinctEvents tables.events
  distinctSequences : tables.events.Pairwise fun first second =>
    first.roomId = second.roomId → first.sequence ≠ second.sequence
  distinctMessages : (tables.current.map CurrentRow.messageId).Nodup
  rows : ∀ row ∈ tables.current, ∃ base ∈ tables.events, RowOf (· ∈ tables.events) base row
  bases : ∀ messageId : MessageId, (tables.current.find? (·.messageId = messageId)).map CurrentRow.baseEventId =
      (tables.events.find? (previewOf messageId)).map EventRow.eventId

theorem empty_consistent : Consistent Tables.empty := by
  constructor <;> simp [Tables.empty, DistinctEvents]

theorem consistent_of_same (tables next : Tables) (events : next.events = tables.events)
    (current : next.current = tables.current) (consistent : Consistent tables) : Consistent next := by
  obtain ⟨distinctEvents, distinctSequences, distinctMessages, rows, bases⟩ := consistent
  constructor
  · rw [events]
    exact distinctEvents
  · rw [events]
    exact distinctSequences
  · rw [current]
    exact distinctMessages
  · rw [events, current]
    exact rows
  · rw [events, current]
    exact bases

namespace Tables

variable {second first : List CurrentRow} {inserted sequence : Nat} {encoded : EncodedMutation}

variable (tables next : Tables)

theorem insert_event_cases (run : tables.insertEvent encoded sequence = .ok (logged, inserted)) :
    (inserted = 0 ∧ logged = tables ∧ ∃ old ∈ tables.events, old.eventId = encoded.eventId) ∨
      (inserted = 1 ∧ (∀ old ∈ tables.events, old.eventId ≠ encoded.eventId) ∧
        (∀ old ∈ tables.events, old.roomId = encoded.roomId → old.sequence ≠ sequence) ∧
        ∃ row, Logged encoded sequence row ∧ logged = { tables with events := tables.events ++ [row] }) := by
  unfold insertEvent at run
  by_cases checked : columnsFit encoded.revisionKind encoded.preview encoded.content = true
  · simp only [dif_pos checked] at run
    by_cases known : (tables.events.any fun row => row.eventId = encoded.eventId) = true
    · simp only [if_pos known] at run
      cases run
      exact .inl ⟨rfl, rfl, by simpa using known⟩
    · simp only [if_neg known] at run
      by_cases taken : (tables.events.any fun row => row.roomId = encoded.roomId ∧ row.sequence = sequence) = true
      · simp only [if_pos taken] at run
        cases run
      · simp only [if_neg taken] at run
        cases run
        refine .inr ⟨rfl, by simpa using known, ?_, _, ⟨rfl, rfl, rfl, rfl, rfl, rfl, rfl, rfl⟩, rfl⟩
        simpa using taken
  · simp only [dif_neg checked] at run
    cases run

structure Opens (encoded : EncodedMutation) (sequence : Nat) (row : CurrentRow) : Prop where
  message : row.messageId = encoded.messageId
  room : row.roomId = encoded.roomId
  baseEvent : row.baseEventId = encoded.eventId
  first : row.firstSequence = sequence
  subject : row.actorSubjectKey = encoded.actorSubjectKey
  preview : some row.preview = encoded.preview
  content : row.content = encoded.content
  active : row.visibility = .active
  untouched : row.lastRevisionEventId = none

theorem insert_current_cases (run : tables.insertCurrent encoded sequence = .ok (shown, inserted)) :
    (inserted = 0 ∧ shown = tables ∧ ∃ old ∈ tables.current, old.messageId = encoded.messageId) ∨
      (inserted = 1 ∧ (∀ old ∈ tables.current, old.messageId ≠ encoded.messageId) ∧
        ∃ row, Opens encoded sequence row ∧ shown = { tables with current := tables.current ++ [row] }) := by
  unfold insertCurrent at run
  cases preview : encoded.preview with
  | none => simp [preview] at run
  | some text =>
    cases content : encoded.content with
    | none => simp [preview, content] at run
    | some reference =>
      simp only [preview, content] at run
      by_cases known : (tables.current.any fun row => row.messageId = encoded.messageId) = true
      · simp only [if_pos known] at run
        cases run
        exact .inl ⟨rfl, rfl, by simpa using known⟩
      · simp only [if_neg known] at run
        split at run
        · cases run
        · split at run
          · cases run
          · cases run
            exact .inr ⟨rfl, by simpa using known, _, ⟨rfl, rfl, rfl, rfl, rfl, preview.symm, content.symm, rfl, rfl⟩, rfl⟩

theorem pending_fields_some (pending : pendingFields event = some revision) : Describes revision event := by
  unfold pendingFields at pending
  split at pending
  · cases pending
  · cases pending
  · rename_i kind revised
    cases pending
    exact ⟨rfl, rfl, rfl, rfl, revised, rfl, rfl, rfl⟩

theorem pending_fields_none (quiet : pendingFields event = none) (base : EventRow) :
    ¬ (OwnRevision .redact base event ∨ OwnRevision .replace base event) := by
  rintro (own | own)
  · simp [pendingFields, own.1] at quiet
  · simp [pendingFields, own.1] at quiet

theorem touched_rows (seen : MessageId → EventRow → Prop) (distinct : DistinctEvents tables.events)
    (within : ∀ messageId event, seen messageId event → event ∈ tables.events) (described : Describes revision event)
    (rows : ∀ row ∈ tables.current, ∃ base ∈ tables.events, RowOf (seen row.messageId) base row)
    (applied : tables.applyRevisionFields revision = .ok next) : ∀ row ∈ next.current, ∃ base ∈ tables.events,
      RowOf (fun other => seen row.messageId other ∨ other = event) base row := by
  rw [apply_revision_fields_ok tables applied]
  intro row listed
  obtain ⟨old, oldListed, moved⟩ := List.mem_map.mp listed
  obtain ⟨base, stored, shown⟩ := rows old oldListed
  refine ⟨base, stored, ?_⟩
  have named : row.messageId = old.messageId := moved ▸ (touched_same tables revision old).message
  rw [named, ← moved]
  exact touched_row_of tables (seen old.messageId) base distinct (within old.messageId) described shown

theorem touched_events (applied : tables.applyRevisionFields revision = .ok next) :
    next.events = tables.events ∧ next.issues = tables.issues := by
  rw [apply_revision_fields_ok tables applied]
  exact ⟨rfl, rfl⟩

-- What no update of a row ever moves.
def key (row : CurrentRow) : MessageId × MatrixRoomId × MatrixEventId :=
  (row.messageId, row.roomId, row.baseEventId)

theorem touched_keys
    (applied : tables.applyRevisionFields revision = .ok next) : next.current.map key = tables.current.map key := by
  rw [apply_revision_fields_ok tables applied]
  have same := fun row => touched_same tables revision row
  simp [Function.comp_def, key, fun row => (same row).message, fun row => (same row).room, fun row => (same row).baseEvent]

theorem keys_messages (same : first.map key = second.map key) :
    first.map CurrentRow.messageId = second.map CurrentRow.messageId := by
  have projected := congrArg (List.map Prod.fst) same
  simpa [Function.comp_def, key] using projected

theorem keys_bases (same : first.map key = second.map key) (messageId : MessageId) :
    (first.find? (·.messageId = messageId)).map CurrentRow.baseEventId =
      (second.find? (·.messageId = messageId)).map CurrentRow.baseEventId := by
  have found (rows : List CurrentRow) : (rows.find? (·.messageId = messageId)).map CurrentRow.baseEventId =
      ((rows.map key).find? (fun row => row.1 = messageId)).map fun row => row.2.2 := by
    simp only [List.find?_map, Function.comp_def, key, Option.map_map]
    rfl
  rw [found first, found second, same]

theorem keys_rooms (same : first.map key = second.map key)
    (listed : row ∈ first) : ∃ old ∈ second, old.messageId = row.messageId ∧ old.roomId = row.roomId := by
  have member : key row ∈ second.map key := same ▸ List.mem_map_of_mem listed
  obtain ⟨old, oldListed, keyed⟩ := List.mem_map.mp member
  simp only [key, Prod.mk.injEq] at keyed
  exact ⟨old, oldListed, keyed.1, keyed.2.1⟩

theorem pending_loop {events : List EventRow} (seen : MessageId → EventRow → Prop)
    (listed : ∀ event ∈ events, event ∈ tables.events) (distinct : DistinctEvents tables.events)
    (within : ∀ messageId event, seen messageId event → event ∈ tables.events)
    (rows : ∀ row ∈ tables.current, ∃ base ∈ tables.events, RowOf (seen row.messageId) base row)
    (run : (events.filterMap pendingFields).foldlM applyRevisionFields tables = .ok next) :
    (next.events = tables.events ∧ next.issues = tables.issues) ∧ next.current.map key = tables.current.map key ∧
      ∀ row ∈ next.current, ∃ base ∈ tables.events,
        RowOf (fun other => seen row.messageId other ∨ other ∈ events) base row := by
  induction events generalizing tables seen with
  | nil =>
    have same := (fold_ok_nil _ _ _).mp run
    subst same
    refine ⟨⟨rfl, rfl⟩, rfl, fun row member => ?_⟩
    obtain ⟨base, stored, shown⟩ := rows row member
    exact ⟨base, stored, row_of_congr _ (by simp) shown⟩
  | cons event rest ih =>
    have restListed : ∀ other ∈ rest, other ∈ tables.events :=
      fun other later => listed other (List.mem_cons_of_mem _ later)
    have here : event ∈ tables.events := listed event List.mem_cons_self
    have merged (row : CurrentRow) (base other : EventRow)
        (_ : OwnRevision .redact base other ∨ OwnRevision .replace base other) :
        ((seen row.messageId other ∨ other = event) ∨ other ∈ rest) ↔
          (seen row.messageId other ∨ other ∈ event :: rest) := by
      rw [List.mem_cons, or_assoc]
    cases pending : pendingFields event with
    | none =>
      simp only [List.filterMap_cons, pending] at run
      obtain ⟨events', keys, shown⟩ := ih tables seen restListed distinct within rows run
      refine ⟨events', keys, fun row member => ?_⟩
      obtain ⟨base, stored, rowOf⟩ := shown row member
      refine ⟨base, stored, row_of_congr _ (fun other own => ?_) rowOf⟩
      have other_ne : other ≠ event := fun same => pending_fields_none pending base (same ▸ own)
      simp [other_ne]
    | some revision =>
      simp only [List.filterMap_cons, pending] at run
      obtain ⟨middle, applied, later⟩ := (fold_ok_cons _ _ _ _ _).mp run
      have described := pending_fields_some pending
      have touched := touched_rows tables middle seen distinct within described rows applied
      obtain ⟨sameEvents, sameIssues⟩ := touched_events tables middle applied
      have sameKeys := touched_keys tables middle applied
      rw [← sameEvents] at restListed distinct touched
      have within' : ∀ messageId other, seen messageId other ∨ other = event → other ∈ middle.events := by
        rintro messageId other (earlier | same)
        · exact sameEvents ▸ within messageId other earlier
        · exact sameEvents ▸ same ▸ here
      obtain ⟨⟨events', issues'⟩, keys', shown⟩ :=
        ih middle (fun messageId other => seen messageId other ∨ other = event) restListed distinct within' touched later
      refine ⟨⟨events'.trans sameEvents, issues'.trans sameIssues⟩, keys'.trans sameKeys, fun row member => ?_⟩
      obtain ⟨base, stored, rowOf⟩ := shown row member
      exact ⟨base, sameEvents ▸ stored, row_of_congr _ (merged row base) rowOf⟩

end Tables

end AgentRoom
