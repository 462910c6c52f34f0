import AgentRoom.NetworkGateway.Previews

namespace AgentRoom.NetworkGateway

open Library Publication

def skipFalse (key : String) (flag : Bool) : List (String × Json) := if flag = true then [(key, .bool true)] else []

def text : String → Json := .string

def textOrNull (value : Option String) : Json := orNull (value.map text)

def conversationFields (chat : IpcConversationMessage) : List (String × Json) :=
  skipNone "attachmentName" (chat.attachmentName.map text) ++ [
    ("text", text chat.text),
    ("mentions", .array (chat.mentions.map text))] ++
    skipFalse "truncated" chat.truncated ++ skipNone "fullLength" (chat.fullLength.map count)

def excerptFields (excerpt : IpcReplyExcerpt) : List (String × Json) :=
  [("messageId", text excerpt.messageId), ("actorName", text excerpt.actorName), ("excerpt", text excerpt.excerpt)]

def agentFields (agent : IpcAgentSummary) : List (String × Json) :=
  [("agentId", text agent.agentId), ("displayName", text agent.displayName), ("matrixUserId", text agent.matrixUserId),
    ("avatarUrl", textOrNull agent.avatarUrl)]

def actorFields : IpcActorSummary → List (String × Json)
  | .agent agent instanceId provenance =>
    [("kind", text "agent"), ("agent", .object (agentFields agent)), ("instanceId", text instanceId),
      ("provenance", text provenance.asStr)]
  | .human principalId displayName matrixUserId avatarUrl =>
    [("kind", text "human"), ("principalId", text principalId), ("displayName", text displayName),
      ("matrixUserId", text matrixUserId), ("avatarUrl", textOrNull avatarUrl)]

def contentFields (content : IpcContentReference) : List (String × Json) :=
  [("contentId", text content.contentId), ("digestSha256", text content.digestSha256), ("mediaType", text content.mediaType),
    ("sizeBytes", count content.sizeBytes)]

def fieldsOf (summary : IpcMessagePreviewSummary) : List (String × Json) :=
  [("conversation", orNull (summary.conversation.map fun chat => .object (conversationFields chat))),
    ("replyToMessageId", textOrNull summary.replyToMessageId)] ++
    skipNone "replyTo" (summary.replyTo.map fun excerpt => .object (excerptFields excerpt)) ++ [
    ("messageId", text summary.messageId),
    ("eventId", text summary.eventId),
    ("roomId", text summary.roomId),
    ("actor", .object (actorFields summary.actor)),
    ("createdAtUnixMs", count summary.createdAtUnixMs),
    ("title", text summary.title),
    ("summary", text summary.summary),
    ("content", .object (contentFields summary.content)),
    ("language", textOrNull summary.language),
    ("sensitivity", text summary.sensitivity.asStr),
    ("riskFlags", .array (summary.riskFlags.map text)),
    ("fromMe", .bool summary.fromMe),
    ("mentionsMe", .bool summary.mentionsMe)] ++
    skipFalse "mentionsEveryone" summary.mentionsEveryone ++ skipNone "roomName" (summary.roomName.map text) ++ [
    ("beforeJoin", .bool summary.beforeJoin)]

def toValue (summary : IpcMessagePreviewSummary) : Json := .object (fieldsOf summary)

def asBool : Json → Option Bool
  | .bool value => some value
  | _ => none

def asTexts : Json → Option (List String)
  | .array items => items.mapM Json.asStr
  | _ => none

def flag (key : String) (fields : List (String × Json)) : Option Bool :=
  match lookup key fields with
  | none => some false
  | some value => asBool value

def closed {α : Type} (known : List String) (decode : List (String × Json) → Option α) : Json → Option α
  | .object fields => if (remaining known fields).isEmpty then decode fields else none
  | _ => none

def readConversation : Json → Option IpcConversationMessage :=
  closed ["attachmentName", "text", "mentions", "truncated", "fullLength"] fun fields => do
    let attachmentName ← optional "attachmentName" Json.asStr fields
    let text ← required "text" Json.asStr fields
    let mentions ← required "mentions" asTexts fields
    let truncated ← flag "truncated" fields
    let fullLength ← optional "fullLength" Json.asU64 fields
    return ⟨attachmentName, text, mentions, truncated, fullLength⟩

def readExcerpt : Json → Option IpcReplyExcerpt :=
  closed ["messageId", "actorName", "excerpt"] fun fields => do
    let messageId ← required "messageId" Json.asStr fields
    let actorName ← required "actorName" Json.asStr fields
    let excerpt ← required "excerpt" Json.asStr fields
    return ⟨messageId, actorName, excerpt⟩

def readAgent : Json → Option IpcAgentSummary :=
  closed ["agentId", "displayName", "matrixUserId", "avatarUrl"] fun fields => do
    let agentId ← required "agentId" Json.asStr fields
    let displayName ← required "displayName" Json.asStr fields
    let matrixUserId ← required "matrixUserId" Json.asStr fields
    let avatarUrl ← optional "avatarUrl" Json.asStr fields
    return ⟨agentId, displayName, matrixUserId, avatarUrl⟩

def readProvenance : Json → Option MessageProvenance
  | .string "human" => some .human
  | .string "human_confirmed_agent" => some .humanConfirmedAgent
  | .string "autonomous_agent" => some .autonomousAgent
  | _ => none

def readSensitivity : Json → Option MessageSensitivity
  | .string "normal" => some .normal
  | .string "sensitive" => some .sensitive
  | .string "restricted" => some .restricted
  | _ => none

def readAgentActor : Json → Option IpcActorSummary :=
  closed ["kind", "agent", "instanceId", "provenance"] fun fields => do
    let agent ← required "agent" readAgent fields
    let instanceId ← required "instanceId" Json.asStr fields
    let provenance ← required "provenance" readProvenance fields
    return .agent agent instanceId provenance

def readHumanActor : Json → Option IpcActorSummary :=
  closed ["kind", "principalId", "displayName", "matrixUserId", "avatarUrl"] fun fields => do
    let principalId ← required "principalId" Json.asStr fields
    let displayName ← required "displayName" Json.asStr fields
    let matrixUserId ← required "matrixUserId" Json.asStr fields
    let avatarUrl ← optional "avatarUrl" Json.asStr fields
    return .human principalId displayName matrixUserId avatarUrl

def readActor (value : Json) : Option IpcActorSummary := do
  let kind ← (value.get "kind").bind Json.asStr
  if kind = "agent" then readAgentActor value
  else if kind = "human" then readHumanActor value
  else none

def readContent : Json → Option IpcContentReference :=
  closed ["contentId", "digestSha256", "mediaType", "sizeBytes"] fun fields => do
    let contentId ← required "contentId" Json.asStr fields
    let digestSha256 ← required "digestSha256" Json.asStr fields
    let mediaType ← required "mediaType" Json.asStr fields
    let sizeBytes ← required "sizeBytes" Json.asU64 fields
    return ⟨contentId, digestSha256, mediaType, sizeBytes⟩

def summaryFields : List String :=
  ["conversation", "replyToMessageId", "replyTo", "messageId", "eventId", "roomId", "actor", "createdAtUnixMs", "title", "summary",
    "content", "language", "sensitivity", "riskFlags", "fromMe", "mentionsMe", "mentionsEveryone", "roomName", "beforeJoin"]

def fromValue : Json → Option IpcMessagePreviewSummary :=
  closed summaryFields fun fields => do
    let conversation ← optional "conversation" readConversation fields
    let replyToMessageId ← optional "replyToMessageId" Json.asStr fields
    let replyTo ← optional "replyTo" readExcerpt fields
    let messageId ← required "messageId" Json.asStr fields
    let eventId ← required "eventId" Json.asStr fields
    let roomId ← required "roomId" Json.asStr fields
    let actor ← required "actor" readActor fields
    let createdAtUnixMs ← required "createdAtUnixMs" Json.asU64 fields
    let title ← required "title" Json.asStr fields
    let summary ← required "summary" Json.asStr fields
    let content ← required "content" readContent fields
    let language ← optional "language" Json.asStr fields
    let sensitivity ← required "sensitivity" readSensitivity fields
    let riskFlags ← required "riskFlags" asTexts fields
    let fromMe ← flag "fromMe" fields
    let mentionsMe ← flag "mentionsMe" fields
    let mentionsEveryone ← flag "mentionsEveryone" fields
    let roomName ← optional "roomName" Json.asStr fields
    let beforeJoin ← flag "beforeJoin" fields
    return {
      conversation, replyToMessageId, replyTo, messageId, eventId, roomId, actor, createdAtUnixMs, title, summary, content, language
      sensitivity, riskFlags, fromMe, mentionsMe, mentionsEveryone, roomName, beforeJoin }

section

variable {α : Type}

variable {known : List String} {key : String} {decode : Json → Option α} {other : String} {fields : List (String × Json)}

@[simp] theorem lookup_cons (value : α) (rest : List (String × α)) :
    lookup key ((other, value) :: rest) = if other = key then some value else lookup key rest := by
  by_cases same : other = key
  · rw [if_pos same, same, lookup_head]
  · rw [if_neg same, lookup_next value same]

@[simp] theorem lookup_skip_none (value : Option Json) : lookup key (skipNone other value) = if other = key then value else none := by
  cases value with
  | none => simp [skipNone]
  | some value => simp [skipNone]

@[simp] theorem lookup_skip_false (flag : Bool) :
    lookup key (skipFalse other flag) = if other = key ∧ flag = true then some (.bool true) else none := by
  cases flag with
  | false => simp [skipFalse]
  | true => simp [skipFalse]

theorem required_found (json : Json) (value : α)
    (found : lookup key fields = some json) (reads : decode json = some value) : required key decode fields = some value := by
  rw [required, found]
  exact reads

theorem optional_found {key : String} {decode : Json → Option α} {fields : List (String × Json)} {value : α}
    (found : lookup key fields = some json) (there : json ≠ .null) (reads : decode json = some value) :
    Library.optional key decode fields = some (some value) := by
  unfold Library.optional
  rw [found]
  cases json with
  | null => exact absurd rfl there
  | bool _ | number _ | string _ | array _ | object _ =>
    simp only
    rw [reads]
    rfl

theorem optional_skipped (encode : α → Json) (value : Option α) (found : lookup key fields = value.map encode) (reads : ∀ value, decode (encode value) = some value)
    (there : ∀ value, encode value ≠ .null) : Library.optional key decode fields = some value := by
  cases value with
  | none => simp [Library.optional, found]
  | some value => exact optional_found found (there value) (reads value)

theorem optional_nulled (encode : α → Json) (value : Option α) (found : lookup key fields = some (orNull (value.map encode)))
    (reads : ∀ value, decode (encode value) = some value) (there : ∀ value, encode value ≠ .null) :
    Library.optional key decode fields = some value := by
  cases value with
  | none => simp [Library.optional, found, orNull]
  | some value => exact optional_found found (there value) (reads value)

theorem flag_skipped (value : Bool)
    (found : lookup key fields = if value = true then some (.bool true) else none) : flag key fields = some value := by
  cases value with
  | false => simp [flag, found]
  | true => simp [flag, found, asBool]

theorem flag_found (value : Bool) (found : lookup key fields = some (.bool value)) : flag key fields = some value := by
  simp [flag, found, asBool]

theorem remaining_append (first second : List (String × Json)) :
    remaining known (first ++ second) = remaining known first ++ remaining known second := by
  simp [remaining]

theorem remaining_cons (value : Json) (rest : List (String × Json)) (listed : key ∈ known) :
    remaining known ((key, value) :: rest) = remaining known rest := by
  simp [remaining, listed]

theorem remaining_nil : remaining known [] = [] := rfl

theorem remaining_skip_none (value : Option Json) (listed : key ∈ known) : remaining known (skipNone key value) = [] := by
  cases value with
  | none => rfl
  | some value => simp [skipNone, remaining, listed]

theorem remaining_skip_false (flag : Bool) (listed : key ∈ known) : remaining known (skipFalse key flag) = [] := by
  cases flag with
  | false => rfl
  | true => simp [skipFalse, remaining, listed]

theorem as_texts_texts (values : List String) : asTexts (.array (values.map text)) = some values := by
  simp only [asTexts]
  induction values with
  | nil => rfl
  | cons value rest ih =>
    rw [List.map_cons, List.mapM_cons, ih]
    rfl

theorem text_there (value : String) : text value ≠ .null := by simp [text]

theorem count_there (value : Nat) : count value ≠ .null := by simp [count]

theorem count_read (value : Nat) : (count value).asU64 = some value := by simp [count, Json.asU64]

theorem read_conversation (chat : IpcConversationMessage) : readConversation (.object (conversationFields chat)) = some chat := by
  have named : (remaining ["attachmentName", "text", "mentions", "truncated", "fullLength"] (conversationFields chat)).isEmpty = true := by
    simp [conversationFields, remaining_append, remaining_cons, remaining_skip_none, remaining_skip_false]
  have attachmentName : Library.optional "attachmentName" Json.asStr (conversationFields chat) = some chat.attachmentName :=
    optional_skipped text _ (by simp [conversationFields]) (fun _ => rfl) text_there
  have fullLength : Library.optional "fullLength" Json.asU64 (conversationFields chat) = some chat.fullLength :=
    optional_skipped count _ (by simp [conversationFields]) count_read count_there
  have body : required "text" Json.asStr (conversationFields chat) = some chat.text :=
    required_found (text chat.text) _ (by simp [conversationFields]) rfl
  have mentions : required "mentions" asTexts (conversationFields chat) = some chat.mentions :=
    required_found _ _ (by simp [conversationFields]) (as_texts_texts chat.mentions)
  have truncated : flag "truncated" (conversationFields chat) = some chat.truncated :=
    flag_skipped _ (by simp [conversationFields])
  simp only [readConversation, closed, named, attachmentName, body, mentions, truncated, fullLength]
  rfl

theorem read_excerpt (excerpt : IpcReplyExcerpt) : readExcerpt (.object (excerptFields excerpt)) = some excerpt := rfl

theorem read_content (content : IpcContentReference) : readContent (.object (contentFields content)) = some content := by
  have size : required "sizeBytes" Json.asU64 (contentFields content) = some content.sizeBytes :=
    required_found (count content.sizeBytes) _ rfl (count_read content.sizeBytes)
  simp only [readContent, closed, size]
  rfl

theorem read_agent (agent : IpcAgentSummary) : readAgent (.object (agentFields agent)) = some agent := by
  have avatarUrl : Library.optional "avatarUrl" Json.asStr (agentFields agent) = some agent.avatarUrl :=
    optional_nulled text _ rfl (fun _ => rfl) text_there
  simp only [readAgent, closed, avatarUrl]
  rfl

theorem read_provenance : readProvenance (text provenance.asStr) = some provenance := by
  cases provenance <;> rfl

theorem read_sensitivity (sensitivity : MessageSensitivity) : readSensitivity (text sensitivity.asStr) = some sensitivity := by
  cases sensitivity <;> rfl

theorem read_actor (actor : IpcActorSummary) : readActor (.object (actorFields actor)) = some actor := by
  cases actor with
  | agent agent instanceId provenance =>
    have described : required "agent" readAgent (actorFields (.agent agent instanceId provenance)) = some agent :=
      required_found _ agent rfl (read_agent agent)
    have vouched : required "provenance" readProvenance (actorFields (.agent agent instanceId provenance)) = some provenance :=
      required_found _ provenance rfl read_provenance
    have read : readAgentActor (.object (actorFields (.agent agent instanceId provenance))) =
        some (.agent agent instanceId provenance) := by
      simp only [readAgentActor, closed, described, vouched]
      rfl
    exact read
  | human principalId displayName matrixUserId avatarUrl =>
    have pictured : Library.optional "avatarUrl" Json.asStr
        (actorFields (.human principalId displayName matrixUserId avatarUrl)) = some avatarUrl :=
      optional_nulled text avatarUrl rfl (fun _ => rfl) text_there
    have read : readHumanActor (.object (actorFields (.human principalId displayName matrixUserId avatarUrl))) =
        some (.human principalId displayName matrixUserId avatarUrl) := by
      simp only [readHumanActor, closed, pictured]
      rfl
    exact read

theorem from_value_to_value (summary : IpcMessagePreviewSummary) : fromValue (toValue summary) = some summary := by
  have named : (remaining summaryFields (fieldsOf summary)).isEmpty = true := by
    simp [summaryFields, fieldsOf, remaining_append, remaining_cons, remaining_nil, remaining_skip_none, remaining_skip_false]
  have conversation : Library.optional "conversation" readConversation (fieldsOf summary) = some summary.conversation :=
    optional_nulled (fun chat => .object (conversationFields chat)) _ rfl read_conversation (fun _ => by simp)
  have replyToMessageId : Library.optional "replyToMessageId" Json.asStr (fieldsOf summary) = some summary.replyToMessageId :=
    optional_nulled text _ rfl (fun _ => rfl) text_there
  have replyTo : Library.optional "replyTo" readExcerpt (fieldsOf summary) = some summary.replyTo :=
    optional_skipped (fun excerpt => .object (excerptFields excerpt)) _ (by simp [fieldsOf]) read_excerpt (fun _ => by simp)
  have messageId : required "messageId" Json.asStr (fieldsOf summary) = some summary.messageId :=
    required_found (text summary.messageId) _ (by simp [fieldsOf]) rfl
  have eventId : required "eventId" Json.asStr (fieldsOf summary) = some summary.eventId :=
    required_found (text summary.eventId) _ (by simp [fieldsOf]) rfl
  have roomId : required "roomId" Json.asStr (fieldsOf summary) = some summary.roomId :=
    required_found (text summary.roomId) _ (by simp [fieldsOf]) rfl
  have actor : required "actor" readActor (fieldsOf summary) = some summary.actor :=
    required_found (.object (actorFields summary.actor)) _ (by simp [fieldsOf]) (read_actor summary.actor)
  have createdAtUnixMs : required "createdAtUnixMs" Json.asU64 (fieldsOf summary) = some summary.createdAtUnixMs :=
    required_found (count summary.createdAtUnixMs) _ (by simp [fieldsOf]) (count_read summary.createdAtUnixMs)
  have title : required "title" Json.asStr (fieldsOf summary) = some summary.title :=
    required_found (text summary.title) _ (by simp [fieldsOf]) rfl
  have body : required "summary" Json.asStr (fieldsOf summary) = some summary.summary :=
    required_found (text summary.summary) _ (by simp [fieldsOf]) rfl
  have content : required "content" readContent (fieldsOf summary) = some summary.content :=
    required_found (.object (contentFields summary.content)) _ (by simp [fieldsOf]) (read_content summary.content)
  have language : Library.optional "language" Json.asStr (fieldsOf summary) = some summary.language :=
    optional_nulled text _ (by simp [fieldsOf, textOrNull]) (fun _ => rfl) text_there
  have sensitivity : required "sensitivity" readSensitivity (fieldsOf summary) = some summary.sensitivity :=
    required_found (text summary.sensitivity.asStr) _ (by simp [fieldsOf]) (read_sensitivity summary.sensitivity)
  have riskFlags : required "riskFlags" asTexts (fieldsOf summary) = some summary.riskFlags :=
    required_found (.array (summary.riskFlags.map text)) _ (by simp [fieldsOf]) (as_texts_texts summary.riskFlags)
  have fromMe : flag "fromMe" (fieldsOf summary) = some summary.fromMe :=
    flag_found _ (by simp [fieldsOf])
  have mentionsMe : flag "mentionsMe" (fieldsOf summary) = some summary.mentionsMe :=
    flag_found _ (by simp [fieldsOf])
  have mentionsEveryone : flag "mentionsEveryone" (fieldsOf summary) = some summary.mentionsEveryone :=
    flag_skipped _ (by simp [fieldsOf])
  have roomName : Library.optional "roomName" Json.asStr (fieldsOf summary) = some summary.roomName :=
    optional_skipped text _ (by simp [fieldsOf]) (fun _ => rfl) text_there
  have beforeJoin : flag "beforeJoin" (fieldsOf summary) = some summary.beforeJoin :=
    flag_found _ (by simp [fieldsOf])
  simp only [fromValue, toValue, closed, named, conversation, replyToMessageId, replyTo, messageId, eventId, roomId, actor,
    createdAtUnixMs, title, body, content, language, sensitivity, riskFlags, fromMe, mentionsMe, mentionsEveryone, roomName, beforeJoin]
  rfl

end

end AgentRoom.NetworkGateway
