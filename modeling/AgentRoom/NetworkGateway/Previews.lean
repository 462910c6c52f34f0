import AgentRoom.NetworkAgent.Tables
import AgentRoom.Publication.Wire

namespace AgentRoom.NetworkGateway

open Library Presence Publication

inductive ProjectedMessageActor where
  | agent (identity : BridgeAgentIdentity) (provenance : MessageProvenance)
  | human (principalId : PrincipalId) (displayName : String) (matrixUserId : MatrixUserId) (avatarUrl : Option String)
deriving DecidableEq

structure MessageContentReference where
  contentId : ContentId
  digest : Sha256Digest
  sizeBytes : Nat
deriving DecidableEq

structure ProjectedMessagePreview where
  eventId : MatrixEventId
  roomId : MatrixRoomId
  messageId : MessageId
  createdAt : UtcMillis
  originServerTimestamp : Option UInt64
  actor : ProjectedMessageActor
  preview : MessagePreview
  content : MessageContentReference
  relation : Option MessageRelation
deriving DecidableEq

structure ProjectedMessageRevision where
  eventId : MatrixEventId
  roomId : MatrixRoomId
  targetMessageId : MessageId
  createdAt : UtcMillis
  originServerTimestamp : Option UInt64
  actor : ProjectedMessageActor
  kind : MessageRevisionKind
  preview : Option MessagePreview
  content : Option MessageContentReference

inductive MessageProjectionMutation where
  | preview (preview : ProjectedMessagePreview)
  | revision (revision : ProjectedMessageRevision)

structure IpcConversationMessage where
  attachmentName : Option String
  text : String
  mentions : List String
  truncated : Bool
  fullLength : Option Nat

structure IpcReplyExcerpt where
  messageId : String
  actorName : String
  excerpt : String

structure IpcAgentSummary where
  agentId : String
  displayName : String
  matrixUserId : String
  avatarUrl : Option String

inductive IpcActorSummary where
  | agent (agent : IpcAgentSummary) (instanceId : String) (provenance : MessageProvenance)
  | human (principalId displayName matrixUserId : String) (avatarUrl : Option String)

structure IpcContentReference where
  contentId : String
  digestSha256 : String
  mediaType : String
  sizeBytes : Nat

structure IpcMessagePreviewSummary where
  conversation : Option IpcConversationMessage
  replyToMessageId : Option String
  replyTo : Option IpcReplyExcerpt
  messageId : String
  eventId : String
  roomId : String
  actor : IpcActorSummary
  createdAtUnixMs : Nat
  title : String
  summary : String
  content : IpcContentReference
  language : Option String
  sensitivity : MessageSensitivity
  riskFlags : List String
  fromMe : Bool
  mentionsMe : Bool
  mentionsEveryone : Bool
  roomName : Option String
  beforeJoin : Bool

def batchTextCharacters : Nat := 1000

def replyExcerptCharacters : Nat := 120

structure PreviewViewer where
  agentId : AgentId
  matrixUserId : String

structure PreviewRoom where
  name : Option String
  joinedAtMs : Option Nat

inductive PreviewText where
  | batch
  | full
deriving DecidableEq

structure PreviewEncodings where
  formatUuid : Nat → String
  toLowercase : String → String

section

variable (encodings : PreviewEncodings)

def formatId {kind : IdKind} (id : Id kind) : String := encodings.formatUuid id.uuid

def leadingCharacters (text : String) (limit : Nat) : String := String.ofList (text.toList.take limit)

variable (preview : ProjectedMessagePreview)

-- The time the server saw it, where that fits, else the sender's own.
def sentAtMs : Nat :=
  match preview.originServerTimestamp with
  | some received => if received.toNat ≤ i64Max then received.toNat else preview.createdAt.value
  | none => preview.createdAt.value

def isViewer (actor : ProjectedMessageActor) (viewer : PreviewViewer) : Bool :=
  match actor with
  | .agent identity _ => decide (identity.agentId = viewer.agentId ∨ identity.matrixUserId.value = viewer.matrixUserId)
  | .human _ _ matrixUserId _ => decide (matrixUserId.value = viewer.matrixUserId)

def ProjectedMessageActor.displayName : ProjectedMessageActor → String
  | .agent identity _ => identity.displayName
  | .human _ displayName _ _ => displayName

def ProjectedMessageActor.subjectKey : ProjectedMessageActor → String
  | .agent identity _ => formatId encodings identity.agentId
  | .human _ _ matrixUserId _ => "human:" ++ matrixUserId.value

def replyExcerpt (message : ProjectedMessagePreview) : IpcReplyExcerpt where
  messageId := formatId encodings message.messageId
  actorName := message.actor.displayName
  excerpt := leadingCharacters (message.preview.conversation.elim message.preview.title (·.text)) replyExcerptCharacters

def agentSummary (identity : BridgeAgentIdentity) : IpcAgentSummary where
  agentId := formatId encodings identity.agentId
  displayName := identity.displayName
  matrixUserId := identity.matrixUserId.value
  avatarUrl := identity.avatarUrl

def actorSummary : ProjectedMessageActor → IpcActorSummary
  | .agent identity provenance => .agent (agentSummary encodings identity) (formatId encodings identity.agentInstanceId) provenance
  | .human principalId displayName matrixUserId avatarUrl =>
    .human (formatId encodings principalId) displayName matrixUserId.value avatarUrl

def actorUserAndName : IpcActorSummary → String × String
  | .human _ displayName matrixUserId _ => (matrixUserId, displayName)
  | .agent agent _ _ => (agent.matrixUserId, agent.displayName)

def contentReference (content : MessageContentReference) (mediaType : String) : IpcContentReference where
  contentId := formatId encodings content.contentId
  digestSha256 := hex content.digest
  mediaType
  sizeBytes := content.sizeBytes

def conversationMessage (chat : ConversationMessage) : IpcConversationMessage where
  attachmentName := chat.attachmentName
  text := chat.text
  mentions := chat.mentions
  truncated := false
  fullLength := none

def relationTarget : MessageRelation → MessageId
  | .replyTo id => id

def previewSummary : IpcMessagePreviewSummary where
  conversation := preview.preview.conversation.map conversationMessage
  replyToMessageId := preview.relation.map fun relation => formatId encodings (relationTarget relation)
  replyTo := none
  messageId := formatId encodings preview.messageId
  eventId := preview.eventId.text
  roomId := preview.roomId.text
  actor := actorSummary encodings preview.actor
  createdAtUnixMs := preview.createdAt.value
  title := preview.preview.title
  summary := preview.preview.summary
  content := contentReference encodings preview.content preview.preview.contentType.value
  language := preview.preview.language
  sensitivity := preview.preview.sensitivity
  riskFlags := preview.preview.riskFlags.members.map (·.value)
  fromMe := false
  mentionsMe := false
  mentionsEveryone := preview.preview.conversation.any (·.mentionsEveryone)
  roomName := none
  beforeJoin := false

def u32Max : Nat := 4294967295

def truncateConversation (chat : IpcConversationMessage) : IpcConversationMessage :=
  if chat.text.toList.length ≤ batchTextCharacters then chat
  else { chat with
    text := leadingCharacters chat.text batchTextCharacters
    truncated := true
    fullLength := if chat.text.toList.length ≤ u32Max then some chat.text.toList.length else none }

def addresses (viewer : PreviewViewer) : Bool :=
  (preview.preview.conversation.any (·.mentionsEveryone) && !isViewer preview.actor viewer) ||
    preview.preview.conversation.any fun chat => chat.mentions.any (· = viewer.matrixUserId)

def previewFor (viewer : PreviewViewer) (room : PreviewRoom)
    (replied : Option ProjectedMessagePreview) (text : PreviewText) : IpcMessagePreviewSummary :=
  let summary := previewSummary encodings preview
  let repliedToViewer := replied.any fun message => isViewer message.actor viewer
  { summary with
    fromMe := isViewer preview.actor viewer
    roomName := room.name
    beforeJoin := room.joinedAtMs.any fun joinedAtMs => sentAtMs preview < joinedAtMs
    mentionsMe := repliedToViewer || addresses preview viewer
    replyTo := replied.map (replyExcerpt encodings)
    conversation := if text = .batch then summary.conversation.map truncateConversation else summary.conversation }

def attachStoredReply (summary replied : IpcMessagePreviewSummary) : IpcMessagePreviewSummary :=
  let text := replied.conversation.elim replied.title (·.text)
  { summary with
    replyTo := some ⟨replied.messageId, (actorUserAndName replied.actor).2, leadingCharacters text replyExcerptCharacters⟩
    mentionsMe := summary.mentionsMe || replied.fromMe }

end

end AgentRoom.NetworkGateway
