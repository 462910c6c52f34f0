import AgentRoom.Inbox.Wake
import AgentRoom.Library.Method
import Std.Data.ExtTreeMap

namespace AgentRoom.Inbox

def typingTtl : Duration := fromSecs 30

def saturatingSub (left right : Millis) : Millis := max i64Min (min i64Max (left - right))

def saturatingMul (left right : Millis) : Millis := max i64Min (min i64Max (left * right))

structure IpcTyping where
  roomId : String
  userIds : List String

structure Seen where
  typing : Bool
  atMs : Millis

-- Room to user to what was last seen of that user; no order of the map is read.
structure TypingRooms where
  rooms : List (String × List (String × Seen)) := []

def typingNow (seen : Seen) (nowMs : Millis) : Bool :=
  seen.typing && saturatingSub nowMs seen.atMs < millis typingTtl

def markUser (nowMs : Millis) (room : List (String × Seen)) (user : String) : List (String × Seen) :=
  (user, ⟨true, nowMs⟩) :: room.filter fun entry => entry.1 ≠ user

def markRoom (room : List (String × Seen)) (users : List String) (nowMs : Millis) : List (String × Seen) :=
  users.foldl (markUser nowMs) (room.map fun entry =>
    if entry.2.typing && !users.contains entry.1 then (entry.1, ⟨false, nowMs⟩) else entry)

namespace TypingRooms

def setRoom (typing : TypingRooms) (roomId : String) (users : List String) (nowMs : Millis) : TypingRooms :=
  let others := typing.rooms.filter fun entry => entry.1 ≠ roomId
  let room := markRoom ((typing.rooms.lookup roomId).getD []) users nowMs
  if room.isEmpty then ⟨others⟩ else ⟨(roomId, room) :: others⟩

def forgetOld (typing : TypingRooms) (nowMs : Millis) : TypingRooms :=
  let keep := saturatingMul (millis maxSettle) 2
  ⟨(typing.rooms.map fun entry =>
      (entry.1, entry.2.filter fun user => saturatingSub nowMs user.2.atMs ≤ keep)).filter
    fun entry => !entry.2.isEmpty⟩

def observe (typing : TypingRooms) (snapshot : List IpcTyping) (nowMs : Millis) : TypingRooms :=
  let gone := (typing.rooms.map Prod.fst).filter fun roomId => !snapshot.any fun entry => entry.roomId = roomId
  let stopped := gone.foldl (fun typing roomId => typing.setRoom roomId [] nowMs) typing
  (snapshot.foldl (fun typing entry => typing.setRoom entry.roomId entry.userIds nowMs) stopped).forgetOld nowMs

def typists (typing : TypingRooms) (nowMs : Millis) : List Typist :=
  typing.rooms.flatMap fun room => room.2.map fun user =>
    ⟨room.1, user.1, typingNow user.2 nowMs, user.2.atMs⟩

end TypingRooms

open Library

inductive IpcErrorCategory where
  | validation
  | authentication
  | authorization
  | conflict
  | dependencyUnavailable
  | incompatibleVersion
  | internal

structure BridgeToolFailure where
  code : String
  category : IpcErrorCategory
  retryable : Bool
  details : List (String × String) := []

def failure (code : String) (category : IpcErrorCategory) (retryable : Bool) : BridgeToolFailure :=
  { code, category, retryable }

def invalid (field : String) : BridgeToolFailure :=
  { code := "agent.inbox.wait_invalid", category := .validation, retryable := false, details := [("field", field)] }

def inboxBlockMillis : Nat := 8000
def eventIdBytes : Nat := 512
def roomIdBytes : Nat := 512
def sessionRooms : Nat := 200
def previewPageSize : Nat := 50
def messageLookupIds : Nat := 20

structure IpcRoomCursor where
  roomId : String
  afterEventId : String

structure IpcListPreviewsRequest where
  afterEventId : Option String
  roomId : Option String
  beforeEventId : Option String
  limit : Nat
  keepWaiting : Bool
  waitMs : Option Nat
  fromAck : Bool
  everyRoom : Bool
  roomCursors : List IpcRoomCursor

inductive IpcMethod where
  | listPreviews (request : IpcListPreviewsRequest)
  | readInbox (request : IpcListPreviewsRequest)
  | waitInbox (request : IpcListPreviewsRequest)
  | getMessages (ids : List String)
  | getSelf

structure IpcTimelineGap where
  roomId : String
  afterEventId : Option String
  beforeEventId : String
  reason : String

inductive IpcResponse where
  | messagePreviews (previews : List IpcMessagePreviewSummary) (nextCursor : Option String)
      (typing : List IpcTyping) (gaps : List IpcTimelineGap)
  | messages (messages : List IpcMessagePreviewSummary) (more : List String)
  | selfSummary (owner : Option String)
  | other

def isControl (char : Char) : Bool := char.toNat < 32 || (127 ≤ char.toNat && char.toNat < 160)

def validateBounded (value : String) (maximumBytes : Nat) (code : String) : Except String Unit :=
  if value.isEmpty || maximumBytes < value.utf8ByteSize || value.toList.any isControl then .error code else .ok ()

def validateOptionalBounded (value : Option String) (maximumBytes : Nat) (code : String) : Except String Unit :=
  match value with
  | none => .ok ()
  | some value => validateBounded value maximumBytes code

namespace IpcListPreviewsRequest

def validateCursors : List String → List IpcRoomCursor → Except String Unit
  | _, [] => .ok ()
  | rooms, cursor :: rest => do
    validateBounded cursor.roomId roomIdBytes "bridge.ipc.room_id_invalid"
    validateBounded cursor.afterEventId eventIdBytes "bridge.ipc.event_id_invalid"
    if rooms.contains cursor.roomId then .error "bridge.ipc.event_cursor_invalid"
    else validateCursors (cursor.roomId :: rooms) rest

def validateRoomCursors (request : IpcListPreviewsRequest) : Except String Unit :=
  let singleRoom := request.roomId.isSome || request.afterEventId.isSome || request.beforeEventId.isSome
  if (request.everyRoom && singleRoom) || (!request.everyRoom && !request.roomCursors.isEmpty) ||
      sessionRooms < request.roomCursors.length
  then .error "bridge.ipc.event_cursor_invalid"
  else validateCursors [] request.roomCursors

def validate (request : IpcListPreviewsRequest) : Except String Unit :=
  if request.afterEventId.isSome && request.beforeEventId.isSome then .error "bridge.ipc.event_cursor_invalid"
  else do
    request.validateRoomCursors
    if request.waitMs.any (inboxBlockMillis < ·) then .error "bridge.ipc.inbox_wait_invalid"
    else do
      validateOptionalBounded request.afterEventId eventIdBytes "bridge.ipc.event_id_invalid"
      validateOptionalBounded request.roomId roomIdBytes "bridge.ipc.room_id_invalid"
      validateOptionalBounded request.beforeEventId eventIdBytes "bridge.ipc.event_id_invalid"
      if 1 ≤ request.limit && request.limit ≤ previewPageSize then .ok ()
      else .error "bridge.ipc.preview_limit_invalid"

end IpcListPreviewsRequest

def IpcMethod.validate : IpcMethod → Except String Unit
  | .listPreviews request =>
    if request.fromAck || !request.roomCursors.isEmpty then .error "bridge.ipc.event_cursor_invalid"
    else request.validate
  | .readInbox request | .waitInbox request =>
    if request.beforeEventId.isSome then .error "bridge.ipc.event_cursor_invalid" else request.validate
  | .getMessages _ | .getSelf => .ok ()

structure InboxPage where
  previews : List IpcMessagePreviewSummary
  more : Bool
  typing : List IpcTyping
  gaps : List IpcTimelineGap

-- Everything a wait meets outside itself. Each call and each look at the clock
-- has a moment of its own, and the answer may depend on it in any way.
structure Backend where
  instant : Nat → Duration
  late : Nat → Duration → Bool
  invoke : Nat → IpcMethod → Except BridgeToolFailure IpcResponse

def pageOf : IpcResponse → Except BridgeToolFailure InboxPage
  | .messagePreviews previews nextCursor typing gaps => .ok ⟨previews, nextCursor.isSome, typing, gaps⟩
  | _ => .error (failure "agent.inbox.response_invalid" .internal false)

def readPageAt (backend : Backend) (moment : Nat) (method : IpcMethod) (cutOff : Option Duration) :
    Except BridgeToolFailure InboxPage :=
  match method.validate with
  | .error code => .error (failure code .validation false)
  | .ok () =>
    if cutOff.any (backend.late moment) then .error (failure "agent.inbox.timeout" .dependencyUnavailable true)
    else
      match backend.invoke moment method with
      | .error error => .error error
      | .ok response => pageOf response

end AgentRoom.Inbox
