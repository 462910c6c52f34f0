import AgentRoom.NetworkAgent.Inbox
import AgentRoom.NetworkGateway.PreviewWire

namespace AgentRoom.NetworkGateway

open Library Publication NetworkAgents

-- What a later edit may change: the id, the author, the times and what the message
-- replies to stay.
def replaceableFields : List String :=
  ["conversation", "title", "summary", "content", "language", "sensitivity", "riskFlags"]

structure SessionRoom where
  record : NetworkAgentRoomRecord
  name : Option String

abbrev StoredReplies := List ((MatrixRoomId × MessageId) × IpcMessagePreviewSummary)

def StoredReplies.get (stored : StoredReplies) (room : MatrixRoomId) (id : MessageId) : Option IpcMessagePreviewSummary :=
  (stored.reverse.find? fun entry => entry.1 = (room, id)).map (·.2)

section

variable (batch : List MessageProjectionMutation)

def MessageProjectionMutation.shown : MessageProjectionMutation → Option ProjectedMessagePreview
  | .preview message => some message
  | .revision _ => none

def previewsIn : List ProjectedMessagePreview := batch.filterMap MessageProjectionMutation.shown

def batchPreview (id : MessageId) : Option ProjectedMessagePreview := (previewsIn batch).reverse.find? (·.messageId = id)

def repliesTo (preview : ProjectedMessagePreview) : Option MessageId := preview.relation.map relationTarget

def replyTarget (preview : ProjectedMessagePreview) : Option (MatrixRoomId × MessageId) :=
  match repliesTo preview with
  | some id => if (batchPreview batch id).isSome then none else some (preview.roomId, id)
  | none => none

def targetBefore (left right : MatrixRoomId × MessageId) : Bool :=
  decide (left.1.text < right.1.text ∨ left.1.text = right.1.text ∧ left.2.uuid ≤ right.2.uuid)

def replyTargets : List (MatrixRoomId × MessageId) :=
  (((previewsIn batch).filterMap (replyTarget batch)).mergeSort targetBefore).dedup

-- messages_by_id, in the order of the record. Any of the ids will do, of any room.
def messagesById (ids : List MessageId) (messages : List MessageRow) : List MessageRow :=
  messages.filter fun row => row.messageId ∈ ids

def storedReplies (history : Option (List MessageRow)) : StoredReplies :=
  match history with
  | none => []
  | some messages =>
    (messagesById ((replyTargets batch).map (·.2)) messages).filterMap fun row =>
      (fromValue row.preview).map fun summary => ((row.roomId, row.messageId), summary)

end

section

variable (encodings : PreviewEncodings) (viewer : PreviewViewer) (rooms : List SessionRoom) (stored : StoredReplies)

def previewRoom (roomId : MatrixRoomId) : PreviewRoom :=
  match rooms.find? fun room => room.record.matrixRoomId.text = roomId.text with
  | some room => ⟨room.name, some room.record.joinedAt.value⟩
  | none => ⟨none, none⟩

def inboxMessage (preview : ProjectedMessagePreview) (summary : IpcMessagePreviewSummary) : NetworkAgentInboxMessage where
  eventId := preview.eventId
  roomId := preview.roomId
  messageId := preview.messageId
  actorKey := preview.actor.subjectKey encodings
  actor := ⟨(actorUserAndName summary.actor).1, encodings.toLowercase (actorUserAndName summary.actor).2⟩
  fromMe := summary.fromMe
  mentionsMe := summary.mentionsMe
  preview := toValue summary
  sentAt := if fits : sentAtMs preview ≤ i64Max then ⟨sentAtMs preview, fits⟩ else preview.createdAt
  gap := none

def inboxSummary (batch : List MessageProjectionMutation) (preview : ProjectedMessagePreview) : IpcMessagePreviewSummary :=
  let target := repliesTo preview
  let summary := previewFor encodings preview viewer (previewRoom rooms preview.roomId) (target.bind (batchPreview batch)) .full
  match summary.replyTo, target.bind (stored.get preview.roomId) with
  | none, some replied => attachStoredReply summary replied
  | _, _ => summary

def replacedPreview (revision : ProjectedMessageRevision) (preview : MessagePreview) (content : MessageContentReference) :
    ProjectedMessagePreview where
  eventId := revision.eventId
  roomId := revision.roomId
  messageId := revision.targetMessageId
  createdAt := revision.createdAt
  originServerTimestamp := revision.originServerTimestamp
  actor := revision.actor
  preview
  content
  relation := none

def replacementPatch (revision : ProjectedMessageRevision) : Option Json := do
  let preview ← revision.preview
  let content ← revision.content
  return .object ((fieldsOf (previewSummary encodings (replacedPreview revision preview content))).filter fun field =>
    field.1 ∈ replaceableFields)

def revisionTarget (revision : ProjectedMessageRevision) : RevisionTarget :=
  ⟨revision.roomId, revision.targetMessageId, revision.actor.subjectKey encodings⟩

def inboxChange (batch : List MessageProjectionMutation) : MessageProjectionMutation → Option NetworkAgentInboxChange
  | .preview preview =>
    some (.message (inboxMessage encodings preview (inboxSummary encodings viewer rooms stored batch preview)))
  | .revision revision =>
    match revision.kind with
    | .replace => (replacementPatch encodings revision).map (.replace (revisionTarget encodings revision))
    | .redact => some (.redact (revisionTarget encodings revision))
    | .moderate => none

def inboxChanges (batch : List MessageProjectionMutation) : List NetworkAgentInboxChange :=
  batch.filterMap (inboxChange encodings viewer rooms stored batch)

end

open Library Publication NetworkAgents

structure Citation where
  excerpt : IpcReplyExcerpt
  byViewer : Bool

structure ReplyContext where
  replyTo : Option IpcReplyExcerpt
  mentionsMe : Bool

def IpcMessagePreviewSummary.context (summary : IpcMessagePreviewSummary) : ReplyContext := ⟨summary.replyTo, summary.mentionsMe⟩

-- The context that a change carries: as a reader of its preview sees it, and the mark
-- of its own.
structure CarriedContext where
  shown : Option ReplyContext
  marked : Bool

def carriedContext (message : NetworkAgentInboxMessage) : CarriedContext :=
  ⟨(fromValue message.preview).map (·.context), message.mentionsMe⟩

def contextIn (room : MatrixRoomId) : NetworkAgentInboxChange → Option CarriedContext
  | .message message => if message.roomId = room then some (carriedContext message) else none
  | .replace _ _ => none
  | .redact _ => none

def replyContexts (room : MatrixRoomId) (changes : List NetworkAgentInboxChange) : List CarriedContext :=
  changes.filterMap (contextIn room)

def MessageProjectionMutation.room : MessageProjectionMutation → MatrixRoomId
  | .preview message => message.roomId
  | .revision change => change.roomId

def onlyRoom (room : MatrixRoomId) (batch : List MessageProjectionMutation) : List MessageProjectionMutation :=
  batch.filter fun mutation => mutation.room = room

section

variable (encodings : PreviewEncodings) (viewer : PreviewViewer) {rooms : List SessionRoom} (stored : StoredReplies)

def citation (message : ProjectedMessagePreview) : Citation := ⟨replyExcerpt encodings message, isViewer message.actor viewer⟩

def storedCitation (replied : IpcMessagePreviewSummary) : Citation where
  excerpt := ⟨replied.messageId, (actorUserAndName replied.actor).2,
    leadingCharacters (replied.conversation.elim replied.title (·.text)) replyExcerptCharacters⟩
  byViewer := replied.fromMe

section

variable (batch : List MessageProjectionMutation)

def cited (room : MatrixRoomId) (id : MessageId) : Option Citation :=
  ((batchPreview batch id).map (citation encodings viewer)).or ((stored.get room id).map storedCitation)

variable (preview : ProjectedMessagePreview)

def contextOf (found : Option Citation) : ReplyContext :=
  ⟨found.map (·.excerpt), found.any (·.byViewer) || addresses preview viewer⟩

theorem inbox_summary_context : (inboxSummary encodings viewer rooms stored batch preview).context =
      contextOf viewer preview ((repliesTo preview).bind (cited encodings viewer stored batch preview.roomId)) := by
  cases target : repliesTo preview with
  | none => simp [inboxSummary, target, previewFor, IpcMessagePreviewSummary.context, contextOf]
  | some id =>
    cases known : batchPreview batch id with
    | some message =>
      simp [inboxSummary, target, known, previewFor, IpcMessagePreviewSummary.context, contextOf, cited, citation]
    | none =>
      cases kept : stored.get preview.roomId id with
      | none => simp [inboxSummary, target, known, kept, previewFor, IpcMessagePreviewSummary.context, contextOf, cited]
      | some replied =>
        simp [inboxSummary, target, known, kept, previewFor, attachStoredReply, IpcMessagePreviewSummary.context, contextOf,
          cited, storedCitation, Bool.or_comm]

def shownContext : ReplyContext :=
  contextOf viewer preview ((repliesTo preview).bind (cited encodings viewer stored batch preview.roomId))

def carriedOf : CarriedContext :=
  ⟨some (shownContext encodings viewer stored batch preview), (shownContext encodings viewer stored batch preview).mentionsMe⟩

theorem carried_context :
    carriedContext (inboxMessage encodings preview (inboxSummary encodings viewer rooms stored batch preview)) =
      carriedOf encodings viewer stored batch preview := by
  rw [carriedContext, inboxMessage, from_value_to_value]
  exact congrArg (fun shown : ReplyContext => (⟨some shown, shown.mentionsMe⟩ : CarriedContext))
    (inbox_summary_context encodings viewer stored batch preview)

end

def previewsOf (room : MatrixRoomId) (batch : List MessageProjectionMutation) : List ProjectedMessagePreview :=
  (previewsIn batch).filter fun preview => preview.roomId = room

theorem change_context {room : MatrixRoomId} {batch : List MessageProjectionMutation} :
    (inboxChange encodings viewer rooms stored batch mutation).bind (contextIn room) =
      (mutation.shown.filter fun preview => preview.roomId = room).map (carriedOf encodings viewer stored batch) := by
  cases mutation with
  | preview message =>
    by_cases here : message.roomId = room
    · simp only [inboxChange, contextIn, inboxMessage, MessageProjectionMutation.shown, Option.bind_some,
        Option.filter_some, here, decide_true, if_true, Option.map_some]
      exact congrArg some (carried_context encodings viewer stored batch message)
    · simp [inboxChange, contextIn, inboxMessage, MessageProjectionMutation.shown, here]
  | revision revision =>
    cases kind : revision.kind with
    | moderate => simp [inboxChange, kind, MessageProjectionMutation.shown]
    | redact => simp [inboxChange, kind, contextIn, MessageProjectionMutation.shown]
    | replace =>
      cases patch : replacementPatch encodings revision with
      | none => simp [inboxChange, kind, patch, MessageProjectionMutation.shown]
      | some patch => simp [inboxChange, kind, patch, contextIn, MessageProjectionMutation.shown]

theorem reply_contexts_eq (room : MatrixRoomId) (batch : List MessageProjectionMutation) :
    replyContexts room (inboxChanges encodings viewer rooms stored batch) =
      (previewsOf room batch).map (carriedOf encodings viewer stored batch) := by
  rw [replyContexts, inboxChanges, previewsOf, previewsIn, List.filterMap_filterMap, List.filter_filterMap, List.map_filterMap]
  exact List.filterMap_congr fun mutation _ => change_context encodings viewer stored

end

section

variable (encodings : PreviewEncodings) (viewer : PreviewViewer) (stored : StoredReplies) (room : MatrixRoomId)
variable (batch : List MessageProjectionMutation)

theorem previews_only_room : previewsIn (onlyRoom room batch) = previewsOf room batch := by
  rw [previewsOf, previewsIn, previewsIn, onlyRoom, List.filterMap_filter, List.filter_filterMap]
  refine List.filterMap_congr fun mutation _ => ?_
  cases mutation with
  | preview message =>
    by_cases here : message.roomId = room <;>
      simp [MessageProjectionMutation.room, MessageProjectionMutation.shown, Option.filter_some, here]
  | revision revision => simp [MessageProjectionMutation.shown]

theorem previews_of_only_room : previewsOf room (onlyRoom room batch) = previewsOf room batch := by
  rw [previewsOf, previews_only_room, previewsOf, List.filter_filter]
  simp

variable {id : MessageId}

theorem batch_preview_here (found : batchPreview batch id = some message)
    (here : message.roomId = room) : batchPreview (onlyRoom room batch) id = some message := by
  rw [batchPreview] at found ⊢
  rw [previews_only_room, previewsOf, ← List.filter_reverse, List.find?_filter]
  obtain ⟨named, before, after, split, others⟩ := List.find?_eq_some_iff_append.mp found
  refine List.find?_eq_some_iff_append.mpr ⟨?_, before, after, split, ?_⟩
  · simpa [here] using named
  · intro other member
    have different := others other member
    simp only [Bool.not_eq_true', decide_eq_false_iff_not] at different
    simp [different]

theorem batch_preview_nowhere (none_found : batchPreview batch id = none) : batchPreview (onlyRoom room batch) id = none := by
  rw [batchPreview, List.find?_eq_none] at none_found ⊢
  intro message member
  rw [previews_only_room, previewsOf, List.mem_reverse, List.mem_filter] at member
  exact none_found message (List.mem_reverse.mpr member.1)

-- What the room itself has under the id reads as the given message does, to this viewer.
def SaysTheSame (preview message : ProjectedMessagePreview) (own : Option Citation) : Prop :=
  ∃ citationHere, own = some citationHere ∧ citationHere.excerpt = replyExcerpt encodings message ∧
    (addresses preview viewer = true ∨ citationHere.byViewer = isViewer message.actor viewer)

-- What the replies of the room find in the batch is of the room, or is told as the
-- room's own message of that id is.
def CitesOwnRoom : Prop :=
  ∀ preview ∈ previewsOf room batch, ∀ id, repliesTo preview = some id → ∀ message, batchPreview batch id = some message →
    message.roomId = room ∨ SaysTheSame encodings viewer preview message (cited encodings viewer stored (onlyRoom room batch) room id)

theorem context_same_iff (preview message : ProjectedMessagePreview) (own : Option Citation) :
    contextOf viewer preview (some (citation encodings viewer message)) = contextOf viewer preview own ↔
      SaysTheSame encodings viewer preview message own := by
  cases own with
  | none => simp [contextOf, SaysTheSame]
  | some citationHere =>
    cases answered : addresses preview viewer with
    | true => simp [contextOf, SaysTheSame, citation, answered, eq_comm]
    | false => simp [contextOf, SaysTheSame, citation, answered, eq_comm]

theorem shown_same_iff {preview : ProjectedMessagePreview} (here : preview.roomId = room) :
    shownContext encodings viewer stored batch preview = shownContext encodings viewer stored (onlyRoom room batch) preview ↔
      ∀ id, repliesTo preview = some id → ∀ message, batchPreview batch id = some message →
        message.roomId = room ∨ SaysTheSame encodings viewer preview message (cited encodings viewer stored (onlyRoom room batch) room id) := by
  cases target : repliesTo preview with
  | none => simp [shownContext, target]
  | some id =>
    cases known : batchPreview batch id with
    | none =>
      have nowhere := batch_preview_nowhere room batch known
      simp [shownContext, target, cited, known, nowhere]
    | some message =>
      by_cases own : message.roomId = room
      · have found := batch_preview_here room batch known own
        simp [shownContext, target, cited, known, found, own]
      · have same := context_same_iff encodings viewer preview message (cited encodings viewer stored (onlyRoom room batch) room id)
        simp only [shownContext, target, Option.bind_some, here]
        rw [cited, known, Option.map_some, Option.some_or, same]
        simp [known, own]

end

section

variable {encodings : PreviewEncodings} {viewer : PreviewViewer} {rooms : List SessionRoom}

theorem full_summary (batch : List MessageProjectionMutation) (stored : StoredReplies) (message : ProjectedMessagePreview) :
    storedCitation (inboxSummary encodings viewer rooms stored batch message) = citation encodings viewer message := by
  have same : ∀ summary : IpcMessagePreviewSummary,
      summary.messageId = (previewSummary encodings message).messageId → summary.actor = (previewSummary encodings message).actor →
        summary.conversation = (previewSummary encodings message).conversation → summary.title = message.preview.title →
          summary.fromMe = isViewer message.actor viewer → storedCitation summary = citation encodings viewer message := by
    intro summary named spoken said titled mine
    have author : (actorUserAndName summary.actor).2 = message.actor.displayName := by
      rw [spoken]
      cases actor : message.actor <;> simp [previewSummary, actor, actorSummary, actorUserAndName, agentSummary,
        ProjectedMessageActor.displayName]
    have text : summary.conversation.elim summary.title (·.text) = message.preview.conversation.elim message.preview.title (·.text) := by
      rw [said, titled]
      cases chat : message.preview.conversation <;> simp [previewSummary, chat, conversationMessage]
    rw [storedCitation, citation, replyExcerpt, named, author, text, mine]
    rfl
  unfold inboxSummary
  dsimp only
  split
  · exact same _ rfl rfl (by simp [attachStoredReply, previewFor]) rfl rfl
  · exact same _ rfl rfl (by simp [previewFor]) rfl rfl

variable {batch : List MessageProjectionMutation} {id : MessageId}

theorem reply_targets_listed {preview : ProjectedMessagePreview}
    (listed : preview ∈ previewsIn batch) (target : repliesTo preview = some id) (absent : batchPreview batch id = none) :
    (preview.roomId, id) ∈ replyTargets batch := by
  rw [replyTargets, List.mem_dedup, (List.mergeSort_perm _ _).mem_iff, List.mem_filterMap]
  exact ⟨preview, listed, by simp [replyTarget, target, absent]⟩

def storedEntry (targets : List (MatrixRoomId × MessageId)) (row : MessageRow) :
    Option ((MatrixRoomId × MessageId) × IpcMessagePreviewSummary) :=
  if row.messageId ∈ targets.map (·.2) then (fromValue row.preview).map fun summary => ((row.roomId, row.messageId), summary) else none

theorem stored_entry_key (gives : storedEntry targets row = some entry) : entry.1 = (row.roomId, row.messageId) := by
  unfold storedEntry at gives
  split at gives
  · obtain ⟨summary, _, rfl⟩ := Option.map_eq_some_iff.mp gives
    rfl
  · cases gives

theorem stored_replies_entries (batch : List MessageProjectionMutation) (messages : List MessageRow) :
    storedReplies batch (some messages) = messages.filterMap (storedEntry (replyTargets batch)) := by
  simp only [storedReplies, messagesById]
  rw [List.filterMap_filter]
  refine List.filterMap_congr fun row _ => ?_
  rw [storedEntry]
  split
  · rename_i asked
    rw [if_pos (of_decide_eq_true asked)]
  · rename_i unasked
    rw [if_neg fun member => unasked (decide_eq_true member)]

theorem stored_reply_found (messages : List MessageRow) (row : MessageRow)
    {room : MatrixRoomId} (asked : (room, id) ∈ replyTargets batch)
    (last : messages.reverse.find? (fun other => other.roomId = room ∧ other.messageId = id) = some row)
    (reads : fromValue row.preview = some summary) : (storedReplies batch (some messages)).get room id = some summary := by
  obtain ⟨isIt, before, after, split, others⟩ := List.find?_eq_some_iff_append.mp last
  have held : row.roomId = room ∧ row.messageId = id := by simpa using isIt
  have wanted : row.messageId ∈ (replyTargets batch).map (·.2) := by
    rw [held.2]
    exact List.mem_map_of_mem asked
  have gives : storedEntry (replyTargets batch) row = some ((room, id), summary) := by
    rw [storedEntry, if_pos wanted, reads, Option.map_some, held.1, held.2]
  have backwards : (storedReplies batch (some messages)).reverse =
      before.filterMap (storedEntry (replyTargets batch)) ++ ((room, id), summary) :: after.filterMap (storedEntry (replyTargets batch)) := by
    rw [stored_replies_entries, ← List.filterMap_reverse, split, List.filterMap_append, List.filterMap_cons, gives]
  have skipped : ∀ entry ∈ before.filterMap (storedEntry (replyTargets batch)), (!decide (entry.1 = (room, id))) = true := by
    intro entry member
    obtain ⟨other, inBefore, yields⟩ := List.mem_filterMap.mp member
    have different := others other inBefore
    rw [stored_entry_key yields]
    simpa [Prod.ext_iff] using different
  have found : (storedReplies batch (some messages)).reverse.find? (fun entry => entry.1 = (room, id)) = some ((room, id), summary) :=
    List.find?_eq_some_iff_append.mpr ⟨by simp, _, _, backwards, skipped⟩
  rw [StoredReplies.get, found]
  rfl

theorem batch_and_record_agree {withIt later : List MessageProjectionMutation} {stored : StoredReplies}
    {arrival : List MessageProjectionMutation} {messages : List MessageRow} (row : MessageRow)
    (target : repliesTo reply = some message.messageId) (sameRoom : reply.roomId = message.roomId)
    (inBatch : batchPreview withIt message.messageId = some message)
    (listed : reply ∈ previewsIn later) (absent : batchPreview later message.messageId = none)
    (last : messages.reverse.find? (fun other => other.roomId = message.roomId ∧ other.messageId = message.messageId) = some row)
    (recorded : row.preview = (inboxMessage encodings message (inboxSummary encodings viewer rooms before arrival message)).preview) :
    (inboxSummary encodings viewer rooms stored withIt reply).context =
      (inboxSummary encodings viewer rooms (storedReplies later (some messages)) later reply).context := by
  have asked := reply_targets_listed listed target absent
  rw [sameRoom] at asked
  have reads : fromValue row.preview = some (inboxSummary encodings viewer rooms before arrival message) := by
    rw [recorded, inboxMessage, from_value_to_value]
  have found := stored_reply_found messages row asked last reads
  have told : storedCitation (inboxSummary encodings viewer rooms before arrival message) = citation encodings viewer message :=
    full_summary arrival before message
  rw [inbox_summary_context, inbox_summary_context, target, Option.bind_some, Option.bind_some, sameRoom, cited, cited, inBatch, absent, found]
  simp [told]

end

-- The context of the messages of a room is that of the room alone, exactly when they
-- cite their own room.
theorem reply_contexts_only_room (encodings : PreviewEncodings) (viewer : PreviewViewer) (rooms : List SessionRoom)
    (stored : StoredReplies) (room : MatrixRoomId) (batch : List MessageProjectionMutation) :
    replyContexts room (inboxChanges encodings viewer rooms stored batch) =
        replyContexts room (inboxChanges encodings viewer rooms stored (onlyRoom room batch)) ↔
      CitesOwnRoom encodings viewer stored room batch := by
  rw [reply_contexts_eq, reply_contexts_eq, previews_of_only_room, List.map_inj_left]
  refine forall₂_congr fun preview member => ?_
  have here : preview.roomId = room := by simpa using (List.mem_filter.mp member).2
  rw [← shown_same_iff encodings viewer stored room batch here]
  simp only [carriedOf, CarriedContext.mk.injEq, Option.some_inj]
  exact ⟨fun both => both.1, fun same => ⟨same, by rw [same]⟩⟩

-- Batches with the same messages of the room give them the same context, where the
-- replies of the room cite their own room; and a message cited from the batch is
-- cited alike from the record.
theorem reply_context_stays_in_room (encodings : PreviewEncodings) (viewer : PreviewViewer) (rooms : List SessionRoom) :
    (∀ (stored : StoredReplies) (room : MatrixRoomId) (batch : List MessageProjectionMutation),
      replyContexts room (inboxChanges encodings viewer rooms stored batch) =
          replyContexts room (inboxChanges encodings viewer rooms stored (onlyRoom room batch)) ↔
        CitesOwnRoom encodings viewer stored room batch) ∧
    (∀ (stored : StoredReplies) (room : MatrixRoomId) (batch other : List MessageProjectionMutation),
      onlyRoom room batch = onlyRoom room other → CitesOwnRoom encodings viewer stored room batch →
        CitesOwnRoom encodings viewer stored room other → replyContexts room (inboxChanges encodings viewer rooms stored batch) =
            replyContexts room (inboxChanges encodings viewer rooms stored other)) ∧
    ∀ (withIt later arrival : List MessageProjectionMutation) (stored before : StoredReplies) (message reply : ProjectedMessagePreview)
      (messages : List MessageRow) (row : MessageRow), repliesTo reply = some message.messageId → reply.roomId = message.roomId →
        batchPreview withIt message.messageId = some message → reply ∈ previewsIn later →
        batchPreview later message.messageId = none →
        messages.reverse.find? (fun other => other.roomId = message.roomId ∧ other.messageId = message.messageId) = some row →
        row.preview = (inboxMessage encodings message (inboxSummary encodings viewer rooms before arrival message)).preview →
          (inboxSummary encodings viewer rooms stored withIt reply).context =
            (inboxSummary encodings viewer rooms (storedReplies later (some messages)) later reply).context := by
  refine ⟨reply_contexts_only_room encodings viewer rooms, ?_, ?_⟩
  · intro stored room batch other same cites citesOther
    have first := (reply_contexts_only_room encodings viewer rooms stored room batch).mpr cites
    have second := (reply_contexts_only_room encodings viewer rooms stored room other).mpr citesOther
    exact first.trans ((congrArg (fun batch => replyContexts room (inboxChanges encodings viewer rooms stored batch)) same).trans second.symm)
  · intro withIt later arrival stored before message reply messages row target sameRoom inBatch listed absent last recorded
    exact batch_and_record_agree row target sameRoom
      inBatch listed absent last recorded

def plainEncodings : PreviewEncodings := ⟨fun uuid => toString uuid, fun name => name⟩

def plainPreview (title : String) : MessagePreview where
  title
  summary := title
  contentType := ⟨"text/plain", by decide⟩
  language := none
  sensitivity := .normal
  riskFlags := ⟨[], .nil, by decide⟩
  conversation := none

def speaker : ProjectedMessageActor := .human ⟨7⟩ "Lin" ⟨"@lin:example.org"⟩ none

def spokenIn (room : MatrixRoomId) (id : MessageId) (title : String) (relation : Option MessageRelation) : ProjectedMessagePreview where
  eventId := ⟨"$" ++ title⟩
  roomId := room
  messageId := id
  createdAt := 0
  originServerTimestamp := none
  actor := speaker
  preview := plainPreview title
  content := ⟨⟨0⟩, ⟨0⟩, 0⟩
  relation

def hall : MatrixRoomId := ⟨"!hall:example.org"⟩

def office : MatrixRoomId := ⟨"!office:example.org"⟩

def reader : PreviewViewer := ⟨⟨1⟩, "@agent:example.org"⟩

def question : ProjectedMessagePreview := spokenIn hall ⟨10⟩ "question" none

def answer : ProjectedMessagePreview := spokenIn hall ⟨11⟩ "answer" (some (.replyTo ⟨10⟩))

def secret : ProjectedMessagePreview := spokenIn office ⟨10⟩ "secret" none

theorem secret_not_cited : ¬ CitesOwnRoom plainEncodings reader [] hall [.preview answer, .preview secret] := by
  intro cites
  have same := cites answer (by decide) ⟨10⟩ (by decide) secret (by decide)
  rcases same with here | ⟨citationHere, own, _⟩
  · exact absurd here (by decide)
  · have nothing : cited plainEncodings reader [] (onlyRoom hall [.preview answer, .preview secret]) hall ⟨10⟩ = none := by decide
    rw [nothing] at own
    cases own

theorem other_room_is_quoted :
    ¬ ∀ (encodings : PreviewEncodings) (viewer : PreviewViewer) (rooms : List SessionRoom) (stored : StoredReplies) (room : MatrixRoomId)
      (batch : List MessageProjectionMutation), replyContexts room (inboxChanges encodings viewer rooms stored batch) =
        replyContexts room (inboxChanges encodings viewer rooms stored (onlyRoom room batch)) := by
  intro local_to_room
  have same := local_to_room plainEncodings reader [] [] hall [.preview answer, .preview secret]
  exact secret_not_cited ((reply_contexts_only_room plainEncodings reader [] [] hall _).mp same)

def questionRow : MessageRow where
  sequence := 1
  eventId := question.eventId
  roomId := hall
  messageId := ⟨10⟩
  actorKey := question.actor.subjectKey plainEncodings
  actor := ⟨"@lin:example.org", "Lin"⟩
  mentionsMe := false
  preview := (inboxMessage plainEncodings question (inboxSummary plainEncodings reader [] [] [.preview question] question)).preview
  receivedAt := 0
  sentAt := none

def remark : ProjectedMessagePreview := spokenIn office ⟨20⟩ "remark" none

theorem hall_cites_hall {batch : List MessageProjectionMutation} (said : previewsOf hall batch = [question, answer])
    (indexed : batchPreview batch ⟨10⟩ = some question) : CitesOwnRoom plainEncodings reader [] hall batch := by
  intro preview member id target message found
  rw [said] at member
  rcases List.mem_pair.mp member with rfl | rfl
  · cases target
  · cases Option.some_inj.mp target
    cases indexed.symm.trans found
    exact .inl rfl

theorem question_cited_alike :
    replyContexts hall (inboxChanges plainEncodings reader [] [] [.preview question, .preview answer]) =
        replyContexts hall (inboxChanges plainEncodings reader [] [] [.preview question, .preview remark, .preview answer]) ∧
      (inboxSummary plainEncodings reader [] [] [.preview question, .preview answer] answer).context =
        (inboxSummary plainEncodings reader [] (storedReplies [.preview answer] (some [questionRow])) [.preview answer] answer).context :=
  ⟨(reply_context_stays_in_room plainEncodings reader []).2.1 [] hall [.preview question, .preview answer]
      [.preview question, .preview remark, .preview answer] rfl (hall_cites_hall (by decide) (by decide))
      (hall_cites_hall (by decide) (by decide)),
    (reply_context_stays_in_room plainEncodings reader []).2.2 _ _ [.preview question] [] [] question answer [questionRow] questionRow
      (by decide) (by decide) (by decide) (by decide) (by decide) rfl rfl⟩

end AgentRoom.NetworkGateway
