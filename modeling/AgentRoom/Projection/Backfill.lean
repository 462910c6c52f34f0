import AgentRoom.Projection.Stream

namespace AgentRoom

open Library

-- A timeline around a gap: the stretch the limited sync left out arrives by
-- backfill once the later batches are in.
structure GapDelivery where
  before : List MessageProjectionBatch
  later : List MessageProjectionBatch
  backfill : MessageBackfillBatch
  after : List MessageProjectionBatch

namespace GapDelivery

variable (delivery : GapDelivery)

def preMutations : List MessageProjectionMutation :=
  delivery.before.flatMap MessageProjectionBatch.mutations

def missedMutations : List MessageProjectionMutation := delivery.backfill.mutations

def laterMutations : List MessageProjectionMutation :=
  delivery.later.flatMap MessageProjectionBatch.mutations

def afterMutations : List MessageProjectionMutation :=
  delivery.after.flatMap MessageProjectionBatch.mutations

def timeline : List MessageProjectionMutation :=
  delivery.preMutations ++ (delivery.missedMutations ++ (delivery.laterMutations ++ delivery.afterMutations))

def arrival : List MessageProjectionMutation :=
  delivery.preMutations ++ (delivery.laterMutations ++ (delivery.missedMutations ++ delivery.afterMutations))

def calls : List StoreCall :=
  delivery.before.map .apply ++ (delivery.later.map .apply ++ (.applyBackfill delivery.backfill :: delivery.after.map .apply))

end GapDelivery

def edited (base : ProjectedMessagePreview) (stretch : List MessageProjectionMutation) : Prop :=
  revisions .replace base stretch ≠ []

def withdrawn (base : ProjectedMessagePreview) (stretch : List MessageProjectionMutation) : Prop :=
  revisions .redact base stretch ≠ []

-- When a message comes out of the gap as it would have without one. Where both
-- stretches bring a preview of it, each order opens it with a different event.
def Survives (delivery : GapDelivery) (messageId : MessageId) : Prop :=
  match firstPreview messageId delivery.preMutations, firstPreview messageId delivery.missedMutations,
      firstPreview messageId delivery.laterMutations with
  | none, some missed, some later =>
    (withdrawn missed delivery.timeline ∧ withdrawn later delivery.timeline) ∨
      (missed.roomId = later.roomId ∧ missed.actorSubjectKey = later.actorSubjectKey ∧ (edited missed delivery.afterMutations ∨
          (edited missed delivery.missedMutations ∧ ¬ edited missed delivery.laterMutations) ∨
          (edited missed delivery.laterMutations ∧ ¬ edited missed delivery.missedMutations) ∨
          (edited missed delivery.preMutations ∧ ¬ edited missed delivery.missedMutations ∧
            ¬ edited missed delivery.laterMutations)))
  | _, _, _ =>
    ∀ base, firstPreview messageId delivery.timeline = some base →
      withdrawn base delivery.timeline ∨ edited base delivery.afterMutations ∨
        ¬ (edited base delivery.missedMutations ∧ edited base delivery.laterMutations)

theorem revisions_append (kind : MessageRevisionKind) (base : ProjectedMessagePreview)
    (first second : List MessageProjectionMutation) :
    revisions kind base (first ++ second) = revisions kind base first ++ revisions kind base second :=
  List.filterMap_append

section

variable {pre missed later after : List MessageProjectionMutation}

theorem arrival_mem (mutation : MessageProjectionMutation) :
    mutation ∈ pre ++ (later ++ (missed ++ after)) ↔ mutation ∈ pre ++ (missed ++ (later ++ after)) := by
  simp only [List.mem_append]
  tauto

variable {base : ProjectedMessagePreview}

theorem withdrawn_either_order :
    withdrawn base (pre ++ (later ++ (missed ++ after))) ↔ withdrawn base (pre ++ (missed ++ (later ++ after))) := by
  simp only [withdrawn, revisions_append, ne_eq, List.append_eq_nil_iff]
  tauto

theorem last_edit_none_iff (base : ProjectedMessagePreview) (stretch : List MessageProjectionMutation) :
    lastEdit base stretch = none ↔ ¬ edited base stretch := by
  simp [lastEdit, edited]

theorem last_edit_mem (last : lastEdit base stretch = some edit) : edit ∈ revisions .replace base stretch :=
  List.mem_of_getLast? last

theorem last_edit_append (first second : List MessageProjectionMutation) :
    lastEdit base (first ++ second) = (lastEdit base second).or (lastEdit base first) := by
  unfold lastEdit
  rw [revisions_append, List.getLast?_append]

theorem event_ids_apart (distinct : ((missed ++ later).map MessageProjectionMutation.eventId).Nodup)
    (listed : first ∈ missed) (listed' : second ∈ later) : first.eventId ≠ second.eventId := by
  rw [List.map_append, List.nodup_append] at distinct
  exact distinct.2.2 _ (List.mem_map_of_mem listed) _ (List.mem_map_of_mem listed')

theorem same_base_agrees_iff (distinct : ((pre ++ (missed ++ (later ++ after))).map MessageProjectionMutation.eventId).Nodup)
    (base : ProjectedMessagePreview) : showing base (lastEdit base (pre ++ (later ++ (missed ++ after)))) =
        showing base (lastEdit base (pre ++ (missed ++ (later ++ after)))) ↔
      edited base after ∨ ¬ (edited base missed ∧ edited base later) := by
  simp only [last_edit_append]
  have lastAfter := last_edit_none_iff base after
  have lastMissed := last_edit_none_iff base missed
  have lastLater := last_edit_none_iff base later
  cases ended : lastEdit base after with
  | some edit =>
    have afterwards : edited base after := by
      by_contra quiet
      simp [lastAfter.mpr quiet] at ended
    simp [afterwards]
  | none =>
    have quiet := lastAfter.mp ended
    cases inMissed : lastEdit base missed with
    | none => simp [lastMissed.mp inMissed]
    | some missedEdit =>
      cases inLater : lastEdit base later with
      | none => simp [lastLater.mp inLater]
      | some laterEdit =>
        have both : edited base missed ∧ edited base later := by
          constructor
          · by_contra none
            simp [lastMissed.mpr none] at inMissed
          · by_contra none
            simp [lastLater.mpr none] at inLater
        have missedListed := ((mem_revisions _ _).mp (last_edit_mem inMissed)).1
        have laterListed := ((mem_revisions _ _).mp (last_edit_mem inLater)).1
        have within : ((missed ++ later).map MessageProjectionMutation.eventId).Nodup := by
          rw [List.map_append, List.nodup_append] at distinct
          rw [← List.append_assoc, List.map_append, List.nodup_append] at distinct
          exact distinct.2.1.1
        have apart := event_ids_apart within missedListed laterListed
        constructor
        · intro same
          simp only [Option.none_or, Option.some_or, showing, VisibleContent.active.injEq] at same
          exact (apart same.1).elim
        · rintro (afterwards | alone)
          · exact (quiet afterwards).elim
          · exact (alone both).elim

theorem revisions_same_author (kind : MessageRevisionKind)
    (stretch : List MessageProjectionMutation) (room : first.roomId = second.roomId)
    (message : first.messageId = second.messageId) (subject : first.actorSubjectKey = second.actorSubjectKey) :
    revisions kind first stretch = revisions kind second stretch := by
  unfold revisions
  congr 1
  funext mutation
  cases mutation with
  | preview message => rfl
  | revision edit => simp [ownRevision, room, message, subject]

-- Two opening events never look alike on their own: only an edit both orders end
-- with, by an author both openings share, makes them agree.
theorem different_base_agrees_iff (distinct : ((pre ++ (missed ++ (later ++ after))).map MessageProjectionMutation.eventId).Nodup) (firstListed : .preview first ∈ missed) (secondListed : .preview second ∈ later)
    (message : first.messageId = second.messageId) : showing second (lastEdit second (pre ++ (later ++ (missed ++ after)))) =
        showing first (lastEdit first (pre ++ (missed ++ (later ++ after)))) ↔
      first.roomId = second.roomId ∧ first.actorSubjectKey = second.actorSubjectKey ∧
        (edited first after ∨ (edited first missed ∧ ¬ edited first later) ∨ (edited first later ∧ ¬ edited first missed) ∨
          (edited first pre ∧ ¬ edited first missed ∧ ¬ edited first later)) := by
  have within : ((missed ++ later).map MessageProjectionMutation.eventId).Nodup := by
    rw [List.map_append, List.nodup_append] at distinct
    rw [← List.append_assoc, List.map_append, List.nodup_append] at distinct
    exact distinct.2.1.1
  have openings : first.eventId ≠ second.eventId := event_ids_apart within firstListed secondListed
  have unique (one other : MessageProjectionMutation) (listed : one ∈ pre ++ (missed ++ (later ++ after)))
      (listed' : other ∈ pre ++ (missed ++ (later ++ after))) (same : one.eventId = other.eventId) : one = other :=
    List.inj_on_of_nodup_map distinct listed listed' same
  have firstIn : .preview first ∈ pre ++ (missed ++ (later ++ after)) := by simp [firstListed]
  have secondIn : .preview second ∈ pre ++ (missed ++ (later ++ after)) := by simp [secondListed]
  by_cases author : first.roomId = second.roomId ∧ first.actorSubjectKey = second.actorSubjectKey
  · have same (stretch : List MessageProjectionMutation) : lastEdit second stretch = lastEdit first stretch := by
      unfold lastEdit
      rw [revisions_same_author .replace stretch author.1 message author.2]
    have lastPre := last_edit_none_iff first pre
    have lastAfter := last_edit_none_iff first after
    have lastMissed := last_edit_none_iff first missed
    have lastLater := last_edit_none_iff first later
    simp only [same, last_edit_append, author, true_and]
    cases ended : lastEdit first after with
    | some edit =>
      have afterwards : edited first after := by
        by_contra quiet
        simp [lastAfter.mpr quiet] at ended
      simp [afterwards, showing]
    | none =>
      have quiet := lastAfter.mp ended
      cases inMissed : lastEdit first missed with
      | none =>
        have noMissed := lastMissed.mp inMissed
        cases inLater : lastEdit first later with
        | some edit =>
          have laterEdited : edited first later := by
            by_contra none
            simp [lastLater.mpr none] at inLater
          simp [quiet, noMissed, laterEdited, showing]
        | none =>
          have noLater := lastLater.mp inLater
          cases inPre : lastEdit first pre with
          | some edit =>
            have preEdited : edited first pre := by
              by_contra none
              simp [lastPre.mpr none] at inPre
            simp [quiet, noMissed, noLater, preEdited, showing]
          | none =>
            have noPre := lastPre.mp inPre
            simp [quiet, noMissed, noLater, noPre, showing, Ne.symm openings]
      | some missedEdit =>
        have missedEdited : edited first missed := by
          by_contra none
          simp [lastMissed.mpr none] at inMissed
        cases inLater : lastEdit first later with
        | none => simp [quiet, lastLater.mp inLater, missedEdited, showing]
        | some laterEdit =>
          have laterEdited : edited first later := by
            by_contra none
            simp [lastLater.mpr none] at inLater
          have missedListed := ((mem_revisions _ _).mp (last_edit_mem inMissed)).1
          have laterListed := ((mem_revisions _ _).mp (last_edit_mem inLater)).1
          have apart : missedEdit.eventId ≠ laterEdit.eventId :=
            event_ids_apart within missedListed laterListed
          simp [quiet, missedEdited, laterEdited, showing, apart]
  · constructor
    · intro agree
      exfalso
      have shown (base : ProjectedMessagePreview) (stretch : List MessageProjectionMutation)
          (edit : ProjectedMessageRevision) (last : lastEdit base stretch = some edit) :
          .revision edit ∈ stretch ∧ edit.roomId = base.roomId ∧ edit.actorSubjectKey = base.actorSubjectKey := by
        obtain ⟨listed, _, room, _, subject⟩ := (mem_revisions _ _).mp (last_edit_mem last)
        exact ⟨listed, room, subject⟩
      cases secondLast : lastEdit second (pre ++ (later ++ (missed ++ after))) with
      | none =>
        cases firstLast : lastEdit first (pre ++ (missed ++ (later ++ after))) with
        | none =>
          simp only [secondLast, firstLast, showing, VisibleContent.active.injEq] at agree
          exact openings agree.1.symm
        | some edit =>
          simp only [secondLast, firstLast, showing, VisibleContent.active.injEq] at agree
          have impossible := unique (.preview second) (.revision edit) secondIn (shown first _ edit firstLast).1 agree.1
          cases impossible
      | some edit =>
        obtain ⟨listed, room, subject⟩ := shown second _ edit secondLast
        have listed' := (arrival_mem (.revision edit)).mp listed
        cases firstLast : lastEdit first (pre ++ (missed ++ (later ++ after))) with
        | none =>
          simp only [secondLast, firstLast, showing, VisibleContent.active.injEq] at agree
          have impossible := unique (.revision edit) (.preview first) listed' firstIn agree.1
          cases impossible
        | some other =>
          simp only [secondLast, firstLast, showing, VisibleContent.active.injEq] at agree
          obtain ⟨otherListed, otherRoom, otherSubject⟩ := shown first _ other firstLast
          have equal := unique (.revision edit) (.revision other) listed' otherListed agree.1
          cases equal
          exact author ⟨otherRoom.symm.trans room, otherSubject.symm.trans subject⟩
    · rintro ⟨room, subject, _⟩
      exact (author ⟨room, subject⟩).elim

end

theorem delivered_views (fresh : ∀ call ∈ calls, call.isFresh = true)
    (distinct : ((calls.flatMap StoreCall.mutations).map MessageProjectionMutation.eventId).Nodup)
    (ran : deliverAll Tables.empty calls = .ok tables) (messageId : MessageId) :
    tables.visibleContent messageId = timelineView (calls.flatMap StoreCall.mutations) messageId := by
  have records := delivered_records calls [] Tables.empty tables fresh empty_records (by simpa using distinct) ran
  exact visible_content_of_records _ tables records

theorem apply_calls_mutations (batches : List MessageProjectionBatch) :
    (batches.map StoreCall.apply).flatMap StoreCall.mutations = batches.flatMap MessageProjectionBatch.mutations := by
  rw [List.flatMap_map]
  rfl

theorem showing_not_redacted {base : ProjectedMessagePreview} : showing base last ≠ .redacted := by
  cases last <;> simp [showing]

variable {messageId : MessageId}

theorem opened_views_agree_iff {base other : ProjectedMessagePreview}
    (opens : firstPreview messageId first = some base) (opens' : firstPreview messageId second = some other) :
    timelineView first messageId = timelineView second messageId ↔ (withdrawn base first ∧ withdrawn other second) ∨
        (¬ withdrawn base first ∧ ¬ withdrawn other second ∧
          showing base (lastEdit base first) = showing other (lastEdit other second)) := by
  simp only [timelineView, opens, opens', Option.map_some, Option.some.injEq, reading, withdrawn]
  by_cases gone : revisions .redact base first ≠ []
  · by_cases gone' : revisions .redact other second ≠ []
    · rw [if_pos gone, if_pos gone']
      simp [gone, gone']
    · rw [if_pos gone, if_neg gone']
      simp [gone, gone', Ne.symm (showing_not_redacted)]
  · by_cases gone' : revisions .redact other second ≠ []
    · rw [if_neg gone, if_pos gone']
      simp [gone, gone', showing_not_redacted]
    · rw [if_neg gone, if_neg gone']
      simp [gone, gone']

variable (delivery : GapDelivery)

theorem same_opening_agrees_iff (distinct : (delivery.timeline.map MessageProjectionMutation.eventId).Nodup)
    (same : firstPreview messageId delivery.arrival = firstPreview messageId delivery.timeline) :
    timelineView delivery.arrival messageId = timelineView delivery.timeline messageId ↔
      ∀ base, firstPreview messageId delivery.timeline = some base →
        withdrawn base delivery.timeline ∨ edited base delivery.afterMutations ∨
          ¬ (edited base delivery.missedMutations ∧ edited base delivery.laterMutations) := by
  cases opens : firstPreview messageId delivery.timeline with
  | none => simp [timelineView, same, opens]
  | some base =>
    have either : withdrawn base delivery.arrival ↔ withdrawn base delivery.timeline :=
      withdrawn_either_order
    have agree := same_base_agrees_iff distinct base
    rw [opened_views_agree_iff (same.trans opens) opens, either]
    by_cases gone : withdrawn base delivery.timeline
    · simp [gone]
    · constructor
      · rintro (⟨gone', _⟩ | ⟨_, _, shown⟩) other found
        · exact (gone gone').elim
        · cases found
          exact .inr (agree.mp shown)
      · intro survives
        exact .inr ⟨gone, gone, agree.mpr ((survives base rfl).resolve_left gone)⟩

theorem withdrawn_same_author (stretch : List MessageProjectionMutation)
    (room : first.roomId = second.roomId) (message : first.messageId = second.messageId)
    (subject : first.actorSubjectKey = second.actorSubjectKey) : withdrawn first stretch ↔ withdrawn second stretch := by
  unfold withdrawn
  rw [revisions_same_author .redact stretch room message subject]

theorem views_agree_iff (distinct : (delivery.timeline.map MessageProjectionMutation.eventId).Nodup) :
    timelineView delivery.arrival messageId = timelineView delivery.timeline messageId ↔ Survives delivery messageId := by
  have inOrder : firstPreview messageId delivery.timeline = _ :=
    first_preview_append messageId
  have asArrived : firstPreview messageId delivery.arrival = _ :=
    first_preview_append messageId
  simp only [first_preview_append] at inOrder asArrived
  unfold Survives
  cases opening : firstPreview messageId delivery.preMutations with
  | some base =>
    apply same_opening_agrees_iff delivery distinct
    rw [inOrder, asArrived, opening, Option.some_or, Option.some_or]
  | none =>
    cases inMissed : firstPreview messageId delivery.missedMutations with
    | none =>
      apply same_opening_agrees_iff delivery distinct
      simp [inOrder, asArrived, opening, inMissed]
    | some missed =>
      cases inLater : firstPreview messageId delivery.laterMutations with
      | none =>
        apply same_opening_agrees_iff delivery distinct
        simp [inOrder, asArrived, opening, inMissed, inLater]
      | some later =>
        have opens : firstPreview messageId delivery.timeline = some missed := by simp [inOrder, opening, inMissed]
        have opens' : firstPreview messageId delivery.arrival = some later := by simp [asArrived, opening, inLater]
        obtain ⟨missedListed, missedNamed⟩ := first_preview_mem messageId inMissed
        obtain ⟨laterListed, laterNamed⟩ := first_preview_mem messageId inLater
        have message : missed.messageId = later.messageId := missedNamed.trans laterNamed.symm
        have agree := different_base_agrees_iff distinct missedListed laterListed message
        have either : withdrawn later delivery.arrival ↔ withdrawn later delivery.timeline :=
          withdrawn_either_order
        dsimp only
        rw [opened_views_agree_iff opens' opens, either]
        constructor
        · rintro (⟨gone, gone'⟩ | ⟨_, _, shown⟩)
          · exact .inl ⟨gone', gone⟩
          · exact .inr (agree.mp shown)
        · rintro (⟨gone, gone'⟩ | author)
          · exact .inl ⟨gone', gone⟩
          · have both := withdrawn_same_author delivery.timeline author.1 message author.2.1
            by_cases gone : withdrawn missed delivery.timeline
            · exact .inl ⟨both.mp gone, gone⟩
            · exact .inr ⟨fun gone' => gone (both.mpr gone'), gone, agree.mpr author⟩

theorem arrival_perm : List.Perm delivery.arrival delivery.timeline := by
  unfold GapDelivery.arrival GapDelivery.timeline
  apply List.Perm.append_left
  rw [← List.append_assoc, ← List.append_assoc]
  exact List.Perm.append_right _ List.perm_append_comm

theorem calls_mutations : delivery.calls.flatMap StoreCall.mutations = delivery.arrival := by
  unfold GapDelivery.calls
  rw [List.flatMap_append, List.flatMap_append, List.flatMap_cons, apply_calls_mutations, apply_calls_mutations,
    apply_calls_mutations]
  rfl

theorem edits_survive_backfill_iff (delivery : GapDelivery) (batches : List MessageProjectionBatch)
    (inOrder gapped : Tables) (whole : batches.flatMap MessageProjectionBatch.mutations = delivery.timeline)
    (distinct : (delivery.timeline.map MessageProjectionMutation.eventId).Nodup)
    (ordered : deliverAll Tables.empty (batches.map .apply) = .ok inOrder)
    (filled : deliverAll Tables.empty delivery.calls = .ok gapped) (messageId : MessageId) :
    gapped.visibleContent messageId = inOrder.visibleContent messageId ↔ Survives delivery messageId := by
  have arrived := calls_mutations delivery
  have gappedView := delivered_views (by simp [GapDelivery.calls, StoreCall.isFresh, or_imp, forall_and])
    (by rw [arrived]; exact ((arrival_perm delivery).map _).nodup_iff.mpr distinct) filled messageId
  have orderedView := delivered_views (by simp [StoreCall.isFresh])
    (by rw [apply_calls_mutations, whole]; exact distinct) ordered messageId
  rw [gappedView, orderedView, arrived, apply_calls_mutations, whole]
  exact views_agree_iff delivery distinct

def overtakenEdit : GapDelivery where
  before := [⟨⟨"s1"⟩, [previewAt "$1" 7 "alice" 1], [], []⟩]
  later := [⟨⟨"s2"⟩, [editAt "$3" 7 "alice" 3], [], [⟨⟨"!room:x"⟩, some ⟨"t"⟩⟩]⟩]
  backfill := ⟨⟨⟨"s2"⟩, ⟨"!room:x"⟩, ⟨"t"⟩⟩, [editAt "$2" 7 "alice" 2], [], true⟩
  after := []

def overtakenInOrder : List MessageProjectionBatch :=
  [⟨⟨"s1"⟩, [previewAt "$1" 7 "alice" 1, editAt "$2" 7 "alice" 2, editAt "$3" 7 "alice" 3], [], []⟩]

def contentAfter (calls : List StoreCall) (messageId : MessageId) : StoreResult (Option VisibleContent) :=
  (deliverAll Tables.empty calls).map fun tables => tables.visibleContent messageId

theorem older_edit_overwrites_the_newer : overtakenInOrder.flatMap MessageProjectionBatch.mutations = overtakenEdit.timeline ∧
      contentAfter (overtakenInOrder.map .apply) ⟨7⟩ = .ok (some (.active ⟨"$3"⟩ (some "$3") (some ⟨⟨3⟩, "$3"⟩))) ∧
      contentAfter overtakenEdit.calls ⟨7⟩ = .ok (some (.active ⟨"$2"⟩ (some "$2") (some ⟨⟨2⟩, "$2"⟩))) := by
  decide

def editedAfterwards : GapDelivery :=
  { overtakenEdit with after := [⟨⟨"s3"⟩, [editAt "$4" 7 "alice" 4], [], []⟩] }

def editedAfterwardsInOrder : List MessageProjectionBatch :=
  overtakenInOrder ++ editedAfterwards.after

theorem later_edit_survives_backfill :
    ∃ inOrder gapped, deliverAll Tables.empty (editedAfterwardsInOrder.map .apply) = .ok inOrder ∧
      deliverAll Tables.empty editedAfterwards.calls = .ok gapped ∧
      (gapped.visibleContent ⟨7⟩ = inOrder.visibleContent ⟨7⟩ ↔ Survives editedAfterwards ⟨7⟩) := by
  obtain ⟨inOrder, ordered⟩ : ∃ tables, deliverAll Tables.empty (editedAfterwardsInOrder.map .apply) = .ok tables :=
    ⟨_, rfl⟩
  obtain ⟨gapped, filled⟩ : ∃ tables, deliverAll Tables.empty editedAfterwards.calls = .ok tables := ⟨_, rfl⟩
  exact ⟨inOrder, gapped, ordered, filled,
    edits_survive_backfill_iff editedAfterwards editedAfterwardsInOrder inOrder gapped (by decide) (by decide) ordered filled ⟨7⟩⟩

end AgentRoom
