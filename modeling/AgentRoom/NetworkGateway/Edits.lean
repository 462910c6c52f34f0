import AgentRoom.NetworkAgent.Specs
import AgentRoom.NetworkGateway.ReplyContext

namespace AgentRoom.NetworkGateway

open Library Publication NetworkAgents

def edited (message : ProjectedMessagePreview) (revision : ProjectedMessageRevision) : ProjectedMessagePreview :=
  match revision.preview, revision.content with
  | some preview, some content => { message with preview, content }
  | _, _ => message

def lastEdited (base : ProjectedMessagePreview) (revisions : List ProjectedMessageRevision) : ProjectedMessagePreview :=
  revisions.foldl edited base

def messageTarget (encodings : PreviewEncodings) (message : ProjectedMessagePreview) : RevisionTarget :=
  ⟨message.roomId, message.messageId, message.actor.subjectKey encodings⟩

structure Revises (encodings : PreviewEncodings) (base : ProjectedMessagePreview) (revision : ProjectedMessageRevision) : Prop where
  replaces : revision.kind = .replace
  targets : revisionTarget encodings revision = messageTarget encodings base

structure RepliedTo where
  batch : Option ProjectedMessagePreview
  record : Option IpcMessagePreviewSummary

section

variable (encodings : PreviewEncodings) (viewer : PreviewViewer) (room : PreviewRoom) (replied : RepliedTo)

def fullView (message : ProjectedMessagePreview) : IpcMessagePreviewSummary :=
  let summary := previewFor encodings message viewer room replied.batch .full
  match summary.replyTo, replied.record with
  | none, some found => attachStoredReply summary found
  | _, _ => summary

def repliesToViewer : Bool :=
  replied.batch.any (fun message => isViewer message.actor viewer) || (replied.batch.isNone && replied.record.any (·.fromMe))

def everyone (message : ProjectedMessagePreview) : Bool := message.preview.conversation.any (·.mentionsEveryone)

theorem full_view_mentions_me (message : ProjectedMessagePreview) :
    (fullView encodings viewer room replied message).mentionsMe = (repliesToViewer viewer replied || addresses message viewer) := by
  obtain ⟨batch, record⟩ := replied
  cases batch with
  | some found => simp [fullView, previewFor, repliesToViewer]
  | none =>
    cases record with
    | none => simp [fullView, previewFor, repliesToViewer]
    | some found => simp [fullView, previewFor, attachStoredReply, repliesToViewer, Bool.or_comm]

theorem sent_at_with (base : ProjectedMessagePreview) (preview : MessagePreview) (content : MessageContentReference) :
    sentAtMs { base with preview, content } = sentAtMs base := rfl

theorem full_view_with (base : ProjectedMessagePreview) (preview : MessagePreview) (content : MessageContentReference) :
    fullView encodings viewer room replied { base with preview, content } =
      { fullView encodings viewer room replied base with
        conversation := preview.conversation.map conversationMessage
        title := preview.title
        summary := preview.summary
        content := contentReference encodings content preview.contentType.value
        language := preview.language
        sensitivity := preview.sensitivity
        riskFlags := preview.riskFlags.members.map (·.value)
        mentionsEveryone := preview.conversation.any (·.mentionsEveryone)
        mentionsMe := repliesToViewer viewer replied || addresses { base with preview, content } viewer } := by
  obtain ⟨batch, record⟩ := replied
  cases batch with
  | some found =>
    simp [fullView, previewFor, previewSummary, repliesToViewer, sent_at_with]
    rfl
  | none =>
    cases record with
    | none =>
      simp [fullView, previewFor, previewSummary, repliesToViewer, sent_at_with]
      rfl
    | some found =>
      simp [fullView, previewFor, previewSummary, attachStoredReply, repliesToViewer, sent_at_with, Bool.or_comm]
      rfl

end

section

structure SameContent (first second : IpcMessagePreviewSummary) : Prop where
  conversation : first.conversation = second.conversation
  title : first.title = second.title
  summary : first.summary = second.summary
  content : first.content = second.content
  language : first.language = second.language
  sensitivity : first.sensitivity = second.sensitivity
  riskFlags : first.riskFlags = second.riskFlags

structure SameFrame (first second : IpcMessagePreviewSummary) : Prop where
  replyToMessageId : first.replyToMessageId = second.replyToMessageId
  replyTo : first.replyTo = second.replyTo
  messageId : first.messageId = second.messageId
  eventId : first.eventId = second.eventId
  roomId : first.roomId = second.roomId
  actor : first.actor = second.actor
  createdAtUnixMs : first.createdAtUnixMs = second.createdAtUnixMs
  fromMe : first.fromMe = second.fromMe
  roomName : first.roomName = second.roomName
  beforeJoin : first.beforeJoin = second.beforeJoin

variable {first second : IpcMessagePreviewSummary} (key : String)

theorem lookup_content (same : SameContent first second) (replaceable : key ∈ replaceableFields) :
    lookup key (fieldsOf first) = lookup key (fieldsOf second) := by
  simp only [replaceableFields, List.mem_cons, List.not_mem_nil, or_false] at replaceable
  rcases replaceable with rfl | rfl | rfl | rfl | rfl | rfl | rfl <;>
    simp [fieldsOf, same.conversation, same.title, same.summary, same.content,
      same.language, same.sensitivity, same.riskFlags]

theorem lookup_frame (same : SameFrame first second) (kept : key ∉ replaceableFields) (unmarked : "mentionsMe" ≠ key)
    (unshouted : "mentionsEveryone" ≠ key) : lookup key (fieldsOf first) = lookup key (fieldsOf second) := by
  simp only [replaceableFields, List.mem_cons, List.not_mem_nil, or_false, not_or, @eq_comm _ key] at kept
  obtain ⟨conversation, title, summary, content, language, sensitivity, riskFlags⟩ := kept
  simp [fieldsOf, conversation, title, summary, content, language,
    sensitivity, riskFlags, unmarked, unshouted, same.replyToMessageId, same.replyTo, same.messageId, same.eventId, same.roomId,
    same.actor, same.createdAtUnixMs, same.fromMe, same.roomName, same.beforeJoin]

theorem lookup_mentions_me : lookup "mentionsMe" (fieldsOf first) = some (.bool first.mentionsMe) := by
  simp [fieldsOf]

theorem lookup_mentions_everyone :
    lookup "mentionsEveryone" (fieldsOf first) = if first.mentionsEveryone = true then some (.bool true) else none := by
  simp [fieldsOf]

def Serialises (preview : Json) (summary : IpcMessagePreviewSummary) : Prop :=
  ∃ fields, preview = .object fields ∧ ∀ key, lookup key fields = lookup key (fieldsOf summary)

variable {preview : Json} {frame summary : IpcMessagePreviewSummary}

theorem to_value_serialises : Serialises (toValue summary) summary :=
  ⟨fieldsOf summary, rfl, fun _ => rfl⟩

-- What a chain of patches leaves: the replaceable fields of one summary, the others
-- of another.
def Merged (content frame : IpcMessagePreviewSummary) (preview : Json) : Prop :=
  ∃ fields, preview = .object fields ∧
    ∀ key, lookup key fields = lookup key (fieldsOf (if key ∈ replaceableFields then content else frame))

theorem merged_start (preview : Json) (serialises : Serialises preview summary) : Merged summary summary preview := by
  obtain ⟨fields, object, same⟩ := serialises
  exact ⟨fields, object, fun key => by rw [ite_self, same key]⟩

-- A merged preview is the new view exactly when its two marks are those of the old.
theorem merged_serialises_iff (merged : Merged view base preview) (frame : SameFrame view base) :
    Serialises preview view ↔ base.mentionsEveryone = view.mentionsEveryone ∧ base.mentionsMe = view.mentionsMe := by
  obtain ⟨fields, rfl, same⟩ := merged
  have marked : lookup "mentionsMe" fields = some (.bool base.mentionsMe) := by
    rw [same, if_neg (by decide), lookup_mentions_me]
  have shouted : lookup "mentionsEveryone" fields = if base.mentionsEveryone = true then some (.bool true) else none := by
    rw [same, if_neg (by decide), lookup_mentions_everyone]
  constructor
  · rintro ⟨own, object, all⟩
    cases object
    have me := all "mentionsMe"
    have everyone := all "mentionsEveryone"
    rw [marked, lookup_mentions_me] at me
    rw [shouted, lookup_mentions_everyone] at everyone
    refine ⟨?_, by simpa using me⟩
    cases old : base.mentionsEveryone <;> cases new : view.mentionsEveryone <;> simp [old, new] at everyone ⊢
  · rintro ⟨everyone, me⟩
    refine ⟨fields, rfl, fun key => ?_⟩
    by_cases replaceable : key ∈ replaceableFields
    · rw [same, if_pos replaceable]
    · by_cases isMark : "mentionsMe" = key
      · rw [← isMark, marked, me, lookup_mentions_me]
      · by_cases isShout : "mentionsEveryone" = key
        · rw [← isShout, shouted, everyone, lookup_mentions_everyone]
        · rw [same, if_neg replaceable, lookup_frame key frame replaceable isMark isShout]

theorem lookup_filter_none (key : String) (kept : String → Bool) (fields : List (String × α)) (drops : kept key = false) :
    lookup key (fields.filter fun field => kept field.1) = none := by
  rw [lookup, Option.map_eq_none_iff, List.find?_eq_none]
  intro field member
  have stays := (List.mem_filter.mp member).2
  intro named
  rw [of_decide_eq_true named, drops] at stays
  cases stays

theorem overlay_lookup (fields patch : List (String × Json)) (key : String) :
    lookup key (patch ++ fields.filter fun field => !patch.any fun other => other.1 = field.1) =
      (lookup key patch).or (lookup key fields) := by
  rw [lookup_append]
  cases named : lookup key patch with
  | some value => rfl
  | none =>
    have unnamed : (!patch.any fun other => other.1 = key) = true := by
      rw [lookup, Option.map_eq_none_iff, List.find?_eq_none] at named
      simpa using named
    rw [Option.none_or, Option.none_or,
      lookup_filter key (fun name => !patch.any fun other => decide (other.1 = name)) fields unnamed]

theorem merged_overlay (content : IpcMessagePreviewSummary) (merged : Merged old frame preview) :
    ∃ next, overlay preview (.object ((fieldsOf content).filter fun field => field.1 ∈ replaceableFields)) = .ok next ∧
      Merged content frame next := by
  obtain ⟨fields, rfl, same⟩ := merged
  refine ⟨_, rfl, _, rfl, fun key => ?_⟩
  rw [overlay_lookup]
  by_cases replaceable : key ∈ replaceableFields
  · have named : ∃ value, lookup key (fieldsOf content) = some value := by
      simp only [replaceableFields, List.mem_cons, List.not_mem_nil, or_false] at replaceable
      rcases replaceable with rfl | rfl | rfl | rfl | rfl | rfl | rfl <;>
        simp [fieldsOf]
    obtain ⟨value, found⟩ := named
    rw [lookup_filter key (fun name => decide (name ∈ replaceableFields)) (fieldsOf content) (decide_eq_true replaceable), found,
      if_pos replaceable, found]
    rfl
  · rw [lookup_filter_none key (fun name => decide (name ∈ replaceableFields)) (fieldsOf content) (decide_eq_false replaceable),
      Option.none_or, same, if_neg replaceable, if_neg replaceable]

theorem merged_content {first second : IpcMessagePreviewSummary} (same : SameContent first second)
    (merged : Merged first frame preview) : Merged second frame preview := by
  obtain ⟨fields, object, found⟩ := merged
  refine ⟨fields, object, fun key => ?_⟩
  by_cases replaceable : key ∈ replaceableFields
  · rw [found, if_pos replaceable, if_pos replaceable, lookup_content key same replaceable]
  · rw [found, if_neg replaceable, if_neg replaceable]

end

section

-- What is on record of the message: its previews, and the marks of the history.
structure OnRecord (target : RevisionTarget) (shows : Json → Prop) (marks : List Bool) (writing : Writing) : Prop where
  inbox : ∀ row ∈ writing.inbox, row.target = target → shows row.preview
  history : ∀ row ∈ writing.messages, row.target = target → shows row.preview
  marked : (writing.messages.filter (·.target = target)).map (·.mentionsMe) = marks

theorem overlay_rows (target : RevisionTarget) (patch : Json) (before after : Json → Prop) (targetOf : ρ → RevisionTarget)
    (previewOf : ρ → Json) (set : ρ → Json → ρ) (shown : ∀ row preview, previewOf (set row preview) = preview) (rows : List ρ)
    (known : ∀ row ∈ rows, targetOf row = target → before (previewOf row))
    (rewrites : ∀ preview, before preview → ∃ next, overlay preview patch = .ok next ∧ after next) :
    ∃ next, updateWhere (fun row => decide (targetOf row = target)) (fun row => set row <$> overlay (previewOf row) patch) rows = .ok next ∧
      ∀ row ∈ next, targetOf row = target → after (previewOf row) := by
  obtain ⟨next, run⟩ := update_where_total (fun row => decide (targetOf row = target))
    (fun row => set row <$> overlay (previewOf row) patch) rows (by
      intro row member hits
      obtain ⟨preview, merges, _⟩ := rewrites (previewOf row) (known row member (of_decide_eq_true hits))
      exact ⟨set row preview, by rw [merges]; rfl⟩)
  refine ⟨next, run, ?_⟩
  intro row member mine
  obtain ⟨old, listed, updated⟩ := related_from (update_where_ok _ _ rows next run) member
  rcases updated with ⟨hits, wrote⟩ | ⟨misses, same⟩
  · obtain ⟨preview, merges, fits⟩ := rewrites (previewOf old) (known old listed (of_decide_eq_true hits))
    obtain ⟨merged, merging, built⟩ := (map_ok _ _ _).mp wrote
    cases merges.symm.trans merging
    rw [← built, shown]
    exact fits
  · rw [same] at mine
    exact absurd mine (of_decide_eq_false misses)

theorem marks_of_columns (target : RevisionTarget) (rows : List MessageRow) :
    (rows.filter (·.target = target)).map (·.mentionsMe) =
      ((rows.map fun row => (row.target, row.mentionsMe)).filter (·.1 = target)).map (·.2) := by
  rw [List.filter_map, List.map_map]
  rfl

variable {writing : Writing} {base : ProjectedMessagePreview}

theorem apply_replace_on_record {before after : Json → Prop} (known : OnRecord target before marks writing)
    (rewrites : ∀ preview, before preview → ∃ next, overlay preview patch = .ok next ∧ after next) :
    ∃ next, applyReplace target patch writing = .ok next ∧ OnRecord target after marks next := by
  obtain ⟨inbox, entries, shownEntries⟩ := overlay_rows target patch before after InboxRow.target InboxRow.preview
    (fun row preview => { row with preview }) (fun _ _ => rfl) writing.inbox known.inbox rewrites
  obtain ⟨messages, rows, shownRows⟩ := overlay_rows target patch before after MessageRow.target MessageRow.preview
    (fun row preview => { row with preview }) (fun _ _ => rfl) writing.messages known.history rewrites
  refine ⟨{ writing with inbox, messages }, ?_, shownEntries, shownRows, ?_⟩
  · rw [applyReplace, entries]
    exact congrArg (fun run => run >>= fun messages => pure { writing with inbox, messages }) rows
  · have columns : messages.map (fun row => (row.target, row.mentionsMe)) = writing.messages.map fun row => (row.target, row.mentionsMe) := by
      apply related_column _ _ (update_where_ok _ _ writing.messages messages rows)
      rintro old new (⟨_, wrote⟩ | ⟨_, same⟩)
      · obtain ⟨preview, _, built⟩ := (map_ok _ _ _).mp wrote
        rw [← built]
        rfl
      · rw [same]
    rw [← known.marked, marks_of_columns, marks_of_columns, columns]

variable (encodings : PreviewEncodings) (viewer : PreviewViewer) (room : PreviewRoom) (replied : RepliedTo)

theorem same_content_edited (base replaced : ProjectedMessagePreview) : SameContent (previewSummary encodings replaced)
      (fullView encodings viewer room replied { base with preview := replaced.preview, content := replaced.content }) := by
  rw [full_view_with]
  constructor <;> rfl

variable {revision : ProjectedMessageRevision}

theorem edited_frame
    (frame : SameFrame (fullView encodings viewer room replied message) (fullView encodings viewer room replied base)) :
    SameFrame (fullView encodings viewer room replied (edited message revision)) (fullView encodings viewer room replied base) := by
  unfold edited
  split
  · rw [full_view_with]
    exact ⟨frame.replyToMessageId, frame.replyTo, frame.messageId, frame.eventId, frame.roomId, frame.actor, frame.createdAtUnixMs,
      frame.fromMe, frame.roomName, frame.beforeJoin⟩
  · exact frame

variable (append : NetworkAgentInboxAppend)

theorem revision_applied (revises : Revises encodings base revision) (rooms : List SessionRoom)
    (stored : StoredReplies) (batch : List MessageProjectionMutation) {frame : IpcMessagePreviewSummary} (state : Writing × Nat)
    (known : OnRecord (messageTarget encodings base) (Merged (fullView encodings viewer room replied current) frame) marks state.1) :
    ∃ next, (inboxChange encodings viewer rooms stored batch (.revision revision)).toList.foldlM (applyCounted append) state = .ok next ∧
      OnRecord (messageTarget encodings base) (Merged (fullView encodings viewer room replied (edited current revision)) frame) marks
        next.1 := by
  have change : inboxChange encodings viewer rooms stored batch (.revision revision) =
      (replacementPatch encodings revision).map (.replace (messageTarget encodings base)) := by
    rw [← revises.targets]
    simp [inboxChange, revises.replaces]
  rw [change]
  cases given : revision.preview with
  | none =>
    refine ⟨state, ?_, ?_⟩
    · simp [replacementPatch, given]
      rfl
    · simpa [edited, given] using known
  | some preview =>
    cases attached : revision.content with
    | none =>
      refine ⟨state, ?_, ?_⟩
      · simp [replacementPatch, given, attached]
        rfl
      · simpa [edited, given, attached] using known
    | some content =>
      have patch : replacementPatch encodings revision = some (.object
          ((fieldsOf (previewSummary encodings (replacedPreview revision preview content))).filter fun field =>
            field.1 ∈ replaceableFields)) := by
        simp [replacementPatch, given, attached]
      obtain ⟨next, applies, record⟩ := apply_replace_on_record known
        (fun shown merged => merged_overlay (previewSummary encodings (replacedPreview revision preview content)) merged)
      have same := same_content_edited encodings viewer room replied current (replacedPreview revision preview content)
      refine ⟨(next, state.2), ?_, ?_⟩
      · rw [patch]
        simp only [Option.map_some, Option.toList_some, List.foldlM_cons, List.foldlM_nil, applyCounted, applyChange, applies]
        rfl
      · have shown : edited current revision = { current with preview, content } := by
          simp [edited, given, attached]
        rw [shown]
        exact ⟨fun row member mine => merged_content same (record.inbox row member mine),
          fun row member mine => merged_content same (record.history row member mine), record.marked⟩

theorem revisions_applied (base : ProjectedMessagePreview) (rooms : List SessionRoom)
    (stored : StoredReplies) (batch : List MessageProjectionMutation) (marks : List Bool) (frame : IpcMessagePreviewSummary)
    (revisions : List ProjectedMessageRevision) (revise : ∀ revision ∈ revisions, Revises encodings base revision)
    (current : ProjectedMessagePreview) (state : Writing × Nat)
    (known : OnRecord (messageTarget encodings base) (Merged (fullView encodings viewer room replied current) frame) marks state.1) :
    ∃ next, ((revisions.map .revision).filterMap (inboxChange encodings viewer rooms stored batch)).foldlM (applyCounted append) state =
        .ok next ∧
      OnRecord (messageTarget encodings base) (Merged (fullView encodings viewer room replied (lastEdited current revisions)) frame) marks
        next.1 := by
  induction revisions generalizing current state with
  | nil => exact ⟨state, rfl, known⟩
  | cons revision rest ih =>
    obtain ⟨between, first, record⟩ := revision_applied encodings viewer room replied append
      (revise revision List.mem_cons_self) rooms stored batch state known
    obtain ⟨next, later, last⟩ := ih (fun other member => revise other (List.mem_cons_of_mem _ member)) (edited current revision) between
      record
    refine ⟨next, ?_, last⟩
    have split : ((revision :: rest).map .revision).filterMap (inboxChange encodings viewer rooms stored batch) =
        (inboxChange encodings viewer rooms stored batch (.revision revision)).toList ++
          (rest.map .revision).filterMap (inboxChange encodings viewer rooms stored batch) := by
      cases change : inboxChange encodings viewer rooms stored batch (.revision revision) <;> simp [change]
    rw [split, List.foldlM_append, first]
    exact later

theorem on_record_imp (weakens : ∀ preview, shows preview → shows' preview) (known : OnRecord target shows marks writing) :
    OnRecord target shows' marks writing :=
  ⟨fun row member mine => weakens _ (known.inbox row member mine), fun row member mine => weakens _ (known.history row member mine),
    known.marked⟩

theorem record_serialises_iff {view base : IpcMessagePreviewSummary}
    (known : OnRecord target (Merged view base) [base.mentionsMe] writing) (frame : SameFrame view base) :
    OnRecord target (Serialises · view) [view.mentionsMe] writing ↔
      base.mentionsEveryone = view.mentionsEveryone ∧ base.mentionsMe = view.mentionsMe := by
  constructor
  · intro reads
    have listed : ∃ row ∈ writing.messages, row.target = target := by
      have someRow : base.mentionsMe ∈ (writing.messages.filter (·.target = target)).map (·.mentionsMe) := by simp [known.marked]
      obtain ⟨row, member, _⟩ := List.mem_map.mp someRow
      obtain ⟨held, mine⟩ := List.mem_filter.mp member
      exact ⟨row, held, of_decide_eq_true mine⟩
    obtain ⟨row, member, mine⟩ := listed
    exact (merged_serialises_iff (known.history row member mine) frame).mp (reads.history row member mine)
  · intro same
    have each : ∀ preview, Merged view base preview → Serialises preview view := fun preview merged =>
      (merged_serialises_iff merged frame).mpr same
    rw [← same.2]
    exact on_record_imp each known

theorem last_edited_frame (base : ProjectedMessagePreview) (revisions : List ProjectedMessageRevision) :
    SameFrame (fullView encodings viewer room replied (lastEdited base revisions)) (fullView encodings viewer room replied base) := by
  have kept : ∀ current, SameFrame (fullView encodings viewer room replied current) (fullView encodings viewer room replied base) →
      SameFrame (fullView encodings viewer room replied (lastEdited current revisions)) (fullView encodings viewer room replied base) := by
    induction revisions with
    | nil => exact fun _ frame => frame
    | cons revision rest ih => exact fun current frame => ih _ (edited_frame encodings viewer room replied frame)
  exact kept base ⟨rfl, rfl, rfl, rfl, rfl, rfl, rfl, rfl, rfl, rfl⟩

theorem appended_shows {rows : List ρ} {last : ρ} (shows : Json → Prop) (targetOf : ρ → RevisionTarget) (previewOf : ρ → Json)
    (unknown : ∀ row ∈ rows, targetOf row ≠ target) (reads : shows (previewOf last)) :
    ∀ row ∈ rows ++ [last], targetOf row = target → shows (previewOf row) := by
  intro row listed mine
  rcases List.mem_append.mp listed with old | new
  · exact absurd mine (unknown row old)
  · exact List.mem_singleton.mp new ▸ reads

-- Where nothing of its target is on record yet, a stored message is on record as it reads.
theorem delivered_on_record (base : ProjectedMessagePreview) (gap : Option NetworkAgentTimelineGap)
    (unlisted : ∀ row ∈ writing.inbox, row.target ≠ messageTarget encodings base)
    (unknown : ∀ row ∈ writing.messages, row.target ≠ messageTarget encodings base)
    (fresh : recordedEvent writing.messages base.eventId = false)
    (stores : applyMessage append { inboxMessage encodings base (fullView encodings viewer room replied base) with gap } writing =
      .ok (next, inserted)) :
    OnRecord (messageTarget encodings base) (Serialises · (fullView encodings viewer room replied base))
      [(fullView encodings viewer room replied base).mentionsMe] next := by
  have none : writing.messages.filter (·.target = messageTarget encodings base) = [] :=
    List.filter_eq_nil_iff.mpr fun row listed => by simpa using unknown row listed
  have marked (row : MessageRow) (mine : row.target = messageTarget encodings base) :
      ((writing.messages ++ [row]).filter (·.target = messageTarget encodings base)).map (·.mentionsMe) = [row.mentionsMe] := by
    simp [none, mine]
  cases apply_message_ok stores with
  | repeated recorded => exact absurd (fresh.symm.trans recorded) Bool.false_ne_true
  | quiet =>
    exact ⟨fun row listed mine => absurd mine (unlisted row listed),
      appended_shows (Serialises · _) MessageRow.target MessageRow.preview unknown to_value_serialises, marked _ rfl⟩
  | entered =>
    exact ⟨appended_shows (Serialises · _) InboxRow.target InboxRow.preview unlisted to_value_serialises,
      appended_shows (Serialises · _) MessageRow.target MessageRow.preview unknown to_value_serialises, marked _ rfl⟩

theorem full_view_everyone (message : ProjectedMessagePreview) :
    (fullView encodings viewer room replied message).mentionsEveryone = everyone message := by
  obtain ⟨batch, record⟩ := replied
  cases batch with
  | some found => rfl
  | none => cases record <;> rfl

-- The edits leave the record as the edited message reads, exactly when they leave the
-- marks alone: the one of everybody, and the one of the viewer where the message does
-- not reply to the viewer anyway.
theorem edited_message_reads_alike (rooms : List SessionRoom) (stored : StoredReplies)
    (base : ProjectedMessagePreview) (revisions : List ProjectedMessageRevision)
    (revise : ∀ revision ∈ revisions, Revises encodings base revision) (writing : Writing) (appended : Nat)
    (known : OnRecord (messageTarget encodings base) (Serialises · (fullView encodings viewer room replied base))
      [(fullView encodings viewer room replied base).mentionsMe] writing) :
    ∃ next, (inboxChanges encodings viewer rooms stored (revisions.map .revision)).foldlM (applyCounted append) (writing, appended) =
        .ok next ∧
      (OnRecord (messageTarget encodings base) (Serialises · (fullView encodings viewer room replied (lastEdited base revisions)))
          [(fullView encodings viewer room replied (lastEdited base revisions)).mentionsMe] next.1 ↔
        everyone base = everyone (lastEdited base revisions) ∧
          (repliesToViewer viewer replied = true ∨ addresses base viewer = addresses (lastEdited base revisions) viewer)) := by
  obtain ⟨next, run, merged⟩ := revisions_applied encodings viewer room replied append base rooms stored _ _ _ revisions revise base
    (writing, appended) (on_record_imp (merged_start) known)
  refine ⟨next, run, ?_⟩
  rw [record_serialises_iff merged (last_edited_frame encodings viewer room replied base revisions), full_view_everyone,
    full_view_everyone, full_view_mentions_me, full_view_mentions_me]
  cases repliesToViewer viewer replied <;> simp

end

def greeting : ProjectedMessagePreview := spokenIn hall ⟨10⟩ "hello" none

def calling : ProjectedMessageRevision where
  eventId := ⟨"$calling"⟩
  roomId := hall
  targetMessageId := ⟨10⟩
  createdAt := 1
  originServerTimestamp := none
  actor := speaker
  kind := .replace
  preview := some { plainPreview "hello" with conversation := some ⟨"hello", ["@agent:example.org"], none, false⟩ }
  content := some ⟨⟨0⟩, ⟨0⟩, 0⟩

def nowhere : PreviewRoom := ⟨none, none⟩

def unreplied : RepliedTo := ⟨none, none⟩

def greetingRow : MessageRow :=
  messageRow ⟨none, ⟨"t"⟩, [], 0, 0, 0, []⟩ (inboxMessage plainEncodings greeting
    (fullView plainEncodings reader nowhere unreplied greeting)) 1

def greetingOnRecord : Writing := ⟨[], [greetingRow], 1, ⟨[], []⟩⟩

theorem greeting_on_record : OnRecord (messageTarget plainEncodings greeting)
    (Serialises · (fullView plainEncodings reader nowhere unreplied greeting))
    [(fullView plainEncodings reader nowhere unreplied greeting).mentionsMe] greetingOnRecord := by
  refine ⟨(fun _ member => by cases member), ?_, by decide⟩
  intro row member _
  rw [List.mem_singleton.mp member]
  exact to_value_serialises

theorem calling_revises : ∀ revision ∈ [calling], Revises plainEncodings greeting revision := by
  intro revision member
  rw [List.mem_singleton.mp member]
  exact ⟨rfl, rfl⟩

theorem greeting_edited :
    ∃ next, (inboxChanges plainEncodings reader [] [] ([calling].map .revision)).foldlM (applyCounted ⟨none, ⟨"t"⟩, [], ⟨0, by decide⟩, 0, 0, []⟩)
        (greetingOnRecord, 0) = .ok next ∧
      (OnRecord (messageTarget plainEncodings greeting)
          (Serialises · (fullView plainEncodings reader nowhere unreplied (lastEdited greeting [calling])))
          [(fullView plainEncodings reader nowhere unreplied (lastEdited greeting [calling])).mentionsMe] next.1 ↔
        everyone greeting = everyone (lastEdited greeting [calling]) ∧
          (repliesToViewer reader unreplied = true ∨ addresses greeting reader = addresses (lastEdited greeting [calling]) reader)) :=
  edited_message_reads_alike plainEncodings reader nowhere unreplied _ [] [] greeting [calling] calling_revises greetingOnRecord 0
    greeting_on_record

theorem named_by_edit_unmarked :
    ¬ ∀ (encodings : PreviewEncodings) (viewer : PreviewViewer) (room : PreviewRoom) (replied : RepliedTo) (append : NetworkAgentInboxAppend)
      (rooms : List SessionRoom) (stored : StoredReplies) (base : ProjectedMessagePreview) (revisions : List ProjectedMessageRevision)
      (writing next : Writing) (appended : Nat), (∀ revision ∈ revisions, Revises encodings base revision) →
      OnRecord (messageTarget encodings base) (Serialises · (fullView encodings viewer room replied base))
        [(fullView encodings viewer room replied base).mentionsMe] writing →
      (inboxChanges encodings viewer rooms stored (revisions.map .revision)).foldlM (applyCounted append) (writing, 0) =
        .ok (next, appended) →
      OnRecord (messageTarget encodings base) (Serialises · (fullView encodings viewer room replied (lastEdited base revisions)))
        [(fullView encodings viewer room replied (lastEdited base revisions)).mentionsMe] next := by
  intro alike
  obtain ⟨next, run, merged⟩ := revisions_applied plainEncodings reader nowhere unreplied ⟨none, ⟨"t"⟩, [], ⟨0, by decide⟩, 0, 0, []⟩ greeting
    [] [] _ _ _ [calling] calling_revises greeting (greetingOnRecord, 0) (on_record_imp (merged_start) greeting_on_record)
  have reads := alike plainEncodings reader nowhere unreplied _ [] [] greeting [calling] greetingOnRecord next.1 next.2 calling_revises
    greeting_on_record run
  have same := (record_serialises_iff merged
    (last_edited_frame plainEncodings reader nowhere unreplied greeting [calling])).mp reads
  exact absurd same.2 (by decide)

end AgentRoom.NetworkGateway
