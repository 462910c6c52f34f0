import AgentRoom.Projection.Timeline
import Mathlib.Data.List.Induction

namespace AgentRoom

open Library

variable (kind : MessageRevisionKind) (messageId : MessageId) (timeline : List MessageProjectionMutation)
  (base : ProjectedMessagePreview) (tables : Tables) (events : List EventRow)

theorem mem_revisions :
    edit ∈ revisions kind base stretch ↔ .revision edit ∈ stretch ∧ edit.kind = kind ∧ edit.roomId = base.roomId ∧
      edit.targetMessageId = base.messageId ∧ edit.actorSubjectKey = base.actorSubjectKey := by
  simp only [revisions, List.mem_filterMap]
  constructor
  · rintro ⟨mutation, listed, own⟩
    cases mutation with
    | preview message => simp [ownRevision] at own
    | revision other =>
      simp only [ownRevision, Option.ite_none_right_eq_some, Option.some.injEq] at own
      obtain ⟨fields, same⟩ := own
      subst same
      exact ⟨listed, fields⟩
  · rintro ⟨listed, fields⟩
    exact ⟨.revision edit, listed, by simp [ownRevision, fields]⟩

theorem first_preview_append {second : List MessageProjectionMutation} :
    firstPreview messageId (first ++ second) = (firstPreview messageId first).or (firstPreview messageId second) := by
  unfold firstPreview
  rw [List.findSome?_append]

theorem first_preview_mem {base : ProjectedMessagePreview} (first : firstPreview messageId stretch = some base) :
    .preview base ∈ stretch ∧ base.messageId = messageId := by
  obtain ⟨mutation, listed, names⟩ := List.exists_of_findSome?_eq_some first
  cases mutation with
  | revision edit => simp [named] at names
  | preview message =>
    simp only [named, Option.ite_none_right_eq_some, Option.some.injEq] at names
    obtain ⟨mine, same⟩ := names
    subst same
    exact ⟨listed, mine⟩

theorem first_preview_recorded (recorded : List.Forall₂ Recorded timeline events) :
    (firstPreview messageId timeline = none ∧ events.find? (previewOf messageId) = none) ∨
      ∃ base event, firstPreview messageId timeline = some base ∧ events.find? (previewOf messageId) = some event ∧
        Recorded (.preview base) event := by
  induction recorded with
  | nil => exact .inl ⟨rfl, rfl⟩
  | @cons mutation event rest events' here _ ih =>
    unfold firstPreview at ih ⊢
    cases mutation with
    | revision edit =>
      have kind := (recorded_revision here).2.2.2.1
      have quiet : previewOf messageId event = false := by simp [previewOf, kind]
      simpa [List.findSome?_cons, named, quiet] using ih
    | preview message =>
      obtain ⟨_, _, message', kind, _⟩ := recorded_preview here
      by_cases mine : message.messageId = messageId
      · have loud : previewOf messageId event = true := by simp [previewOf, kind, message', mine]
        right
        exact ⟨message, event, by simp [named, mine], by simp [loud], here⟩
      · have quiet : previewOf messageId event = false := by simp [previewOf, message', mine]
        simpa [List.findSome?_cons, named, mine, quiet] using ih

variable {baseEvent event : EventRow}

theorem recorded_own (based : Recorded (.preview base) baseEvent) (recorded : Recorded (.revision edit) event) :
    (edit.kind = kind ∧ edit.roomId = base.roomId ∧ edit.targetMessageId = base.messageId ∧
      edit.actorSubjectKey = base.actorSubjectKey) ↔ OwnRevision kind baseEvent event := by
  obtain ⟨_, baseRoom, baseMessage, _, baseSubject, _⟩ := recorded_preview based
  obtain ⟨_, room, message, revised, subject, _⟩ := recorded_revision recorded
  rw [OwnRevision, revised, room, message, subject, baseRoom, baseMessage, baseSubject, Option.some.injEq]

-- The log is the record of a timeline, each room in the timeline's order whatever
-- the order the events were written in.
structure Placed (timeline : List MessageProjectionMutation) (events : List EventRow) : Prop where
  stored : ∀ mutation ∈ timeline, ∃ event ∈ events, Recorded mutation event
  listed : ∀ event ∈ events, ∃ mutation ∈ timeline, Recorded mutation event
  order : timeline.Pairwise fun first second => ∀ one ∈ events, ∀ other ∈ events, Recorded first one →
    Recorded second other → one.roomId = other.roomId → one.sequence < other.sequence

theorem placed_own (placed : Placed timeline events) {base : ProjectedMessagePreview}
    (based : Recorded (.preview base) baseEvent) (listed : event ∈ events) (own : OwnRevision kind baseEvent event) :
    ∃ edit ∈ revisions kind base timeline, Recorded (.revision edit) event := by
  obtain ⟨mutation, member, recorded⟩ := placed.listed event listed
  cases mutation with
  | preview message =>
    have isPreview := (recorded_preview recorded).2.2.2.1
    rw [OwnRevision, isPreview] at own
    cases own.1
  | revision edit =>
    have fields := (recorded_own kind base based recorded).mpr own
    exact ⟨edit, (mem_revisions kind base).mpr ⟨member, fields⟩, recorded⟩

theorem placed_revision (placed : Placed timeline events) {base : ProjectedMessagePreview}
    (based : Recorded (.preview base) baseEvent) (member : edit ∈ revisions kind base timeline) :
    ∃ event ∈ events, Recorded (.revision edit) event ∧ OwnRevision kind baseEvent event := by
  obtain ⟨within, fields⟩ := (mem_revisions kind base).mp member
  obtain ⟨event, listed, recorded⟩ := placed.stored (.revision edit) within
  exact ⟨event, listed, recorded, (recorded_own kind base based recorded).mp fields⟩

theorem own_revision_some (own : ownRevision kind base mutation = some edit) : mutation = .revision edit := by
  cases mutation with
  | preview message => cases own
  | revision other =>
    simp only [ownRevision, Option.ite_none_right_eq_some, Option.some.injEq] at own
    rw [own.2]

theorem placed_revisions_order (placed : Placed timeline events) (base : ProjectedMessagePreview) :
    (revisions kind base timeline).Pairwise fun first second => ∀ one ∈ events, ∀ other ∈ events,
      Recorded (.revision first) one → Recorded (.revision second) other → one.roomId = other.roomId →
        one.sequence < other.sequence := by
  apply List.Pairwise.filterMap (ownRevision kind base) _ placed.order
  intro mutation mutation' order first own second own'
  rw [own_revision_some kind base own, own_revision_some kind base own'] at order
  exact order

theorem placed_last (placed : Placed timeline events) {base : ProjectedMessagePreview}
    (based : Recorded (.preview base) baseEvent) (listed : latest ∈ events) (own : OwnRevision .replace baseEvent latest)
    (highest : ∀ event ∈ events, OwnRevision .replace baseEvent event → event = latest ∨ event.sequence < latest.sequence) :
    ∃ edit, lastEdit base timeline = some edit ∧ Recorded (.revision edit) latest := by
  obtain ⟨edit, member, recorded⟩ := placed_own .replace timeline events placed based listed own
  have nonempty := List.ne_nil_of_mem member
  obtain ⟨front, last, split⟩ : ∃ front last, revisions .replace base timeline = front ++ [last] :=
    ⟨_, _, (List.dropLast_append_getLast nonempty).symm⟩
  have ends : lastEdit base timeline = some last := by rw [lastEdit, split, List.getLast?_concat]
  have lastMember : last ∈ revisions .replace base timeline := by simp [split]
  obtain ⟨event, listed', recorded', own'⟩ :=
    placed_revision .replace timeline events placed based lastMember
  rcases highest event listed' own' with same | below
  · exact ⟨last, ends, same ▸ recorded'⟩
  · rw [split, List.mem_append, List.mem_singleton] at member
    rcases member with earlier | same
    · have order := placed_revisions_order .replace timeline events placed base
      rw [split, List.pairwise_append] at order
      have above := order.2.2 edit earlier last (List.mem_singleton_self last) latest listed event listed' recorded recorded'
        (own.2.1.trans own'.2.1.symm)
      omega
    · subst same
      exact ⟨edit, ends, recorded⟩

theorem row_reads_timeline (consistent : Consistent tables)
    (placed : Placed timeline tables.events) {base : ProjectedMessagePreview} (row : CurrentRow)
    (based : Recorded (.preview base) baseEvent) (shown : RowOf (· ∈ tables.events) baseEvent row) :
    row.visibleContent = reading timeline base := by
  obtain ⟨baseId, _, _, _, _, basePreview, baseContent⟩ := recorded_preview based
  have redacted := shows_redacted_iff baseEvent row shown
  cases visible : row.visibility with
  | redacted =>
    obtain ⟨event, listed, own⟩ := redacted.mp visible
    obtain ⟨edit, member, _⟩ := placed_own .redact timeline tables.events placed based listed own
    have withdrawn := List.ne_nil_of_mem member
    simp [CurrentRow.visibleContent, visible, reading, withdrawn]
  | active =>
    have standing : revisions .redact base timeline = [] := by
      by_contra withdrawn
      obtain ⟨edit, member⟩ := List.exists_mem_of_ne_nil _ withdrawn
      obtain ⟨event, listed, _, own⟩ :=
        placed_revision .redact timeline tables.events placed based member
      rw [redacted.mpr ⟨event, listed, own⟩] at visible
      cases visible
    rcases shows_active consistent baseEvent shown visible with
      ⟨latest, listed, own, highest, last, preview, content⟩ | ⟨unedited, untouched, preview, content⟩
    · obtain ⟨edit, ends, recorded⟩ :=
        placed_last timeline tables.events placed based listed own highest
      obtain ⟨editId, _, _, _, _, editPreview, editContent⟩ := recorded_revision recorded
      simp [CurrentRow.visibleContent, visible, reading, standing, ends, showing, last, editId, preview, editPreview,
        content, editContent]
    · have never : lastEdit base timeline = none := by
        rw [lastEdit, List.getLast?_eq_none_iff]
        by_contra edited
        obtain ⟨edit, member⟩ := List.exists_mem_of_ne_nil _ edited
        obtain ⟨event, listed, _, own⟩ :=
          placed_revision .replace timeline tables.events placed based member
        exact unedited event listed own
      simp [CurrentRow.visibleContent, visible, reading, standing, never, showing, untouched, shown.baseEvent, baseId,
        preview, basePreview, content, baseContent]

theorem current_row_of (consistent : Consistent tables)
    (recorded : List.Forall₂ Recorded arrivals tables.events) (messageId : MessageId) :
    (firstPreview messageId arrivals = none ∧ tables.current.find? (·.messageId = messageId) = none) ∨
      ∃ base baseEvent row, firstPreview messageId arrivals = some base ∧ Recorded (.preview base) baseEvent ∧
        baseEvent ∈ tables.events ∧ tables.current.find? (·.messageId = messageId) = some row ∧
        RowOf (· ∈ tables.events) baseEvent row := by
  have bases := consistent.bases messageId
  rcases first_preview_recorded messageId arrivals tables.events recorded with
    ⟨unnamed, unseen⟩ | ⟨base, baseEvent, first, opens, based⟩
  · rw [unseen] at bases
    exact .inl ⟨unnamed, by simpa using bases⟩
  · rw [opens] at bases
    obtain ⟨row, found, sameBase⟩ : ∃ row, tables.current.find? (·.messageId = messageId) = some row ∧
        row.baseEventId = baseEvent.eventId := by simpa using bases
    obtain ⟨other, stored, shown⟩ := consistent.rows row (List.mem_of_find?_eq_some found)
    have opened := List.mem_of_find?_eq_some opens
    have same : other = baseEvent :=
      distinct_events_eq consistent.distinctEvents stored opened
        (shown.baseEvent.symm.trans sameBase)
    exact .inr ⟨base, baseEvent, row, first, based, opened, found, same ▸ shown⟩

theorem recorded_unique (distinct : DistinctEvents events) (mutation : MessageProjectionMutation)
    (one other : EventRow) (listed : one ∈ events) (listed' : other ∈ events) (recorded : Recorded mutation one)
    (recorded' : Recorded mutation other) : one = other :=
  distinct_events_eq distinct listed listed'
    ((recorded_event_id recorded).trans (recorded_event_id recorded').symm)

theorem recorded_stored (recorded : List.Forall₂ Recorded timeline events) :
    (∀ mutation ∈ timeline, ∃ event ∈ events, Recorded mutation event) ∧
      ∀ event ∈ events, ∃ mutation ∈ timeline, Recorded mutation event := by
  induction recorded with
  | nil => simp
  | @cons mutation event rest events' here _ ih =>
    constructor
    · intro other member
      rcases List.mem_cons.mp member with same | later
      · exact ⟨event, List.mem_cons_self .., same ▸ here⟩
      · obtain ⟨found, listed, known⟩ := ih.1 other later
        exact ⟨found, List.mem_cons_of_mem _ listed, known⟩
    · intro other member
      rcases List.mem_cons.mp member with same | later
      · exact ⟨mutation, List.mem_cons_self .., same ▸ here⟩
      · obtain ⟨found, listed, known⟩ := ih.2 other later
        exact ⟨found, List.mem_cons_of_mem _ listed, known⟩

theorem records_placed (records : Records timeline tables) : Placed timeline tables.events := by
  obtain ⟨stored, listed⟩ := recorded_stored timeline tables.events records.recorded
  have unique := recorded_unique tables.events records.consistent.distinctEvents
  have within : ∀ event ∈ tables.events, event ∈ tables.events := fun _ member => member
  have order : ∀ events, (∀ event ∈ events, event ∈ tables.events) → Ordered events →
      ∀ stretch, List.Forall₂ Recorded stretch events → stretch.Pairwise fun first second =>
        ∀ one ∈ tables.events, ∀ other ∈ tables.events, Recorded first one → Recorded second other →
          one.roomId = other.roomId → one.sequence < other.sequence := by
    intro events inside ordered stretch recorded
    induction recorded with
    | nil => exact List.Pairwise.nil
    | @cons mutation event rest events' here later ih =>
      obtain ⟨above, ordered'⟩ := List.pairwise_cons.mp ordered
      refine List.Pairwise.cons ?_ (ih (fun other member => inside other (List.mem_cons_of_mem _ member)) ordered')
      intro second member one listed other listed' recordsOne recordsOther room
      obtain ⟨found, within', known⟩ := (recorded_stored rest events' later).1 second member
      have first := unique mutation one event listed (inside event List.mem_cons_self) recordsOne here
      have next := unique second other found listed' (inside found (List.mem_cons_of_mem _ within')) recordsOther known
      subst first next
      exact above other within' room
  exact ⟨stored, listed, order tables.events within records.ordered timeline records.recorded⟩

theorem visible_content_of_records (records : Records timeline tables) {messageId : MessageId} :
    tables.visibleContent messageId = timelineView timeline messageId := by
  rcases current_row_of tables records.consistent records.recorded messageId with
    ⟨unnamed, absent⟩ | ⟨base, baseEvent, row, first, based, _, found, shown⟩
  · simp [Tables.visibleContent, timelineView, unnamed, absent]
  · have placed := records_placed timeline tables records
    have content := row_reads_timeline timeline tables records.consistent placed row based shown
    simp [Tables.visibleContent, timelineView, first, found, content]

open Library

-- A mutation of the stream, or the isolation of one whose key is not here yet.
structure StreamItem where
  mutation : MessageProjectionMutation
  session : Option UndecryptableSession

namespace StreamItem

def plain (mutation : MessageProjectionMutation) : StreamItem := ⟨mutation, none⟩

def isolation (mutation : MessageProjectionMutation) (session : UndecryptableSession) (mutationsBefore : Nat) :
    MessageSyncIssue where
  roomId := mutation.roomId
  eventId := some mutation.eventId
  reason := .undecryptable
  mutationsBefore
  session := some session

end StreamItem

def delivered : List StreamItem → List MessageProjectionMutation
  | [] => []
  | item :: rest =>
    match item.session with
    | none => item.mutation :: delivered rest
    | some _ => delivered rest

def isolatedFrom (mutationsBefore : Nat) : List StreamItem → List MessageSyncIssue
  | [] => []
  | item :: rest =>
    match item.session with
    | none => isolatedFrom (mutationsBefore + 1) rest
    | some session => StreamItem.isolation item.mutation session mutationsBefore :: isolatedFrom mutationsBefore rest

def syncBatch (nextBatch : MatrixSyncToken) (gaps : List MessageTimelineGap) (items : List StreamItem) :
    MessageProjectionBatch where
  nextBatch
  mutations := delivered items
  issues := isolatedFrom 0 items
  gaps

def recoveryBatch (roomId : MatrixRoomId) (recovered : List MessageProjectionMutation) : MessageRecoveryBatch where
  roomId
  recovered
  reclassified := []
  dismissed := []

-- Syncs deliver the stream from its start, item after item; recoveries in between
-- write back isolated mutations in any order, any of them more than once. Beside
-- the tables stands what was handed over to be written, in that order.
inductive Delivers (roomId : MatrixRoomId) : List StreamItem → List MessageProjectionMutation → Tables → Prop where
  | start : Delivers roomId [] [] Tables.empty
  | sync (done items : List StreamItem) (written : List MessageProjectionMutation) (tables next : Tables)
      (nextBatch : MatrixSyncToken) (gaps : List MessageTimelineGap) (earlier : Delivers roomId done written tables)
      (applied : tables.applyBatch (syncBatch nextBatch gaps items) = .ok next) :
      Delivers roomId (done ++ items) (written ++ delivered items) next
  | recover (done : List StreamItem) (written recovered : List MessageProjectionMutation) (tables next : Tables)
      (earlier : Delivers roomId done written tables)
      (isolated : ∀ mutation ∈ recovered, ∃ item ∈ done, item.mutation = mutation ∧ item.session ≠ none)
      (applied : tables.applyRecoveryBatch (recoveryBatch roomId recovered) = .ok next) :
      Delivers roomId done (written ++ recovered) next

def takeItem (syncToken : MatrixSyncToken) (tables : Tables) (item : StreamItem) : StoreResult Tables :=
  match item.session with
  | none => tables.applyMutation item.mutation
  | some session => tables.persistIssue syncToken (StreamItem.isolation item.mutation session 0)

variable {syncToken : MatrixSyncToken} (written : List MessageProjectionMutation)

theorem apply_timeline_due (index : Nat) (tables : Tables) (due : issue.mutationsBefore ≤ index) :
    Tables.applyTimelineFrom syncToken index tables mutations (issue :: issues) =
      tables.persistIssue syncToken issue >>= fun isolated =>
        Tables.applyTimelineFrom syncToken index isolated mutations issues := by
  cases mutations with
  | nil => rfl
  | cons mutation rest => simp [Tables.applyTimelineFrom, due]

theorem isolated_from_after (items : List StreamItem) (mutationsBefore : Nat) :
    ∀ issue ∈ isolatedFrom mutationsBefore items, mutationsBefore ≤ issue.mutationsBefore := by
  induction items generalizing mutationsBefore with
  | nil => simp [isolatedFrom]
  | cons item rest ih =>
    cases session : item.session with
    | none =>
      intro issue listed
      simp only [isolatedFrom, session] at listed
      have above := ih (mutationsBefore + 1) issue listed
      omega
    | some held =>
      intro issue listed
      simp only [isolatedFrom, session, List.mem_cons] at listed
      rcases listed with same | later
      · rw [same, StreamItem.isolation]
      · exact ih mutationsBefore issue later

theorem apply_timeline_next (index : Nat) (tables : Tables) (mutation : MessageProjectionMutation)
    (rest : List MessageProjectionMutation) (later : ∀ issue ∈ issues, index < issue.mutationsBefore) :
    Tables.applyTimelineFrom syncToken index tables (mutation :: rest) issues =
      tables.applyMutation mutation >>= fun written =>
        Tables.applyTimelineFrom syncToken (index + 1) written rest issues := by
  cases issues with
  | nil => rfl
  | cons issue others =>
    have waits : ¬ issue.mutationsBefore ≤ index := Nat.not_le.mpr (later issue List.mem_cons_self)
    simp [Tables.applyTimelineFrom, waits]

theorem apply_timeline_items (items : List StreamItem) (index : Nat) (tables : Tables) :
    Tables.applyTimelineFrom syncToken index tables (delivered items) (isolatedFrom index items) =
      items.foldlM (takeItem syncToken) tables := by
  induction items generalizing index tables with
  | nil => rfl
  | cons item rest ih =>
    rw [List.foldlM_cons]
    cases session : item.session with
    | none =>
      have later : ∀ issue ∈ isolatedFrom (index + 1) rest, index < issue.mutationsBefore :=
        isolated_from_after rest (index + 1)
      simp only [delivered, isolatedFrom, takeItem, session]
      rw [apply_timeline_next index tables item.mutation (delivered rest) later]
      simp [ih]
    | some held =>
      simp only [delivered, isolatedFrom, takeItem, session]
      rw [apply_timeline_due index tables (Nat.le_refl index)]
      simp only [ih]
      rfl

def firstWrites (written : List MessageProjectionMutation) : List MessageProjectionMutation :=
  written.foldl (fun arrivals mutation => if mutation ∈ arrivals then arrivals else arrivals ++ [mutation]) []

theorem first_writes_again (mutation : MessageProjectionMutation)
    (known : mutation ∈ firstWrites written) : firstWrites (written ++ [mutation]) = firstWrites written := by
  rw [firstWrites, List.foldl_append]
  exact if_pos known

theorem first_writes_fresh {written : List MessageProjectionMutation} (fresh : mutation ∉ firstWrites written) :
    firstWrites (written ++ [mutation]) = firstWrites written ++ [mutation] := by
  rw [firstWrites, List.foldl_append]
  exact if_neg fresh

theorem mem_first_writes : mutation ∈ firstWrites written ↔ mutation ∈ written := by
  induction written using List.reverseRecOn with
  | nil => rfl
  | append_singleton earlier last ih =>
    by_cases known : last ∈ firstWrites earlier
    · rw [first_writes_again earlier last known, ih, List.mem_append, List.mem_singleton]
      constructor
      · exact .inl
      · rintro (before | same)
        · exact before
        · exact ih.mp (same ▸ known)
    · rw [first_writes_fresh known, List.mem_append, List.mem_append, ih]

theorem first_writes_preview (messageId : MessageId) :
    firstPreview messageId (firstWrites written) = firstPreview messageId written := by
  induction written using List.reverseRecOn with
  | nil => rfl
  | append_singleton earlier last ih =>
    by_cases known : last ∈ firstWrites earlier
    · rw [first_writes_again earlier last known, first_preview_append, ih]
      cases opening : firstPreview messageId earlier with
      | some base => rfl
      | none =>
        have silent := List.findSome?_eq_none_iff.mp opening last ((mem_first_writes earlier).mp known)
        simp [firstPreview, silent]
    · rw [first_writes_fresh known, first_preview_append, first_preview_append, ih]

end AgentRoom
