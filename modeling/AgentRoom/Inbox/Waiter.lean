import AgentRoom.Inbox.Ipc

namespace AgentRoom.Inbox

open Library

def heldCapacity : Nat := 200
def fetchPage : Nat := 50
def fetchPagesPerRound : Nat := 8
def blockGrace : Duration := fromSecs 2

def isSpace (char : Char) : Bool :=
  let code := char.toNat
  (9 ≤ code && code ≤ 13) || code = 32 || code = 133 || code = 160 || code = 5760 ||
    (8192 ≤ code && code ≤ 8202) || code = 8232 || code = 8233 || code = 8239 || code = 8287 || code = 12288

def trimText (text : String) : String :=
  String.ofList (((text.toList.dropWhile isSpace).reverse.dropWhile isSpace).reverse)

def cursorEvents (cursor : String) : List String :=
  ((cursor.splitOn ",").map trimText).filter fun event => !event.isEmpty

structure WokenBatch where
  previews : List IpcMessagePreviewSummary
  wake : IpcWake
  skipped : Nat
  remaining : Nat
  cursor : Option String
  gaps : List IpcTimelineGap

inductive Position where
  | room (passed : Option String)
  | everyRoom (rooms : Std.ExtTreeMap String String)

namespace Position

def pass (position : Position) (preview : IpcMessagePreviewSummary) : Position :=
  match position with
  | .room _ => .room (some preview.eventId)
  | .everyRoom rooms => .everyRoom (rooms.insert preview.roomId preview.eventId)

def cursor : Position → Option String
  | .room passed => passed
  | .everyRoom rooms => if rooms.isEmpty then none else some (",".intercalate rooms.values)

def request (position : Position) (roomId : Option String) (limit : Nat) (fromAck : Bool) : IpcListPreviewsRequest :=
  let base : IpcListPreviewsRequest := {
    afterEventId := none
    roomId
    beforeEventId := none
    limit
    keepWaiting := false
    waitMs := none
    fromAck
    everyRoom := false
    roomCursors := [] }
  match position with
  | .room passed => { base with afterEventId := passed }
  | .everyRoom rooms => { base with everyRoom := true, roomCursors := rooms.toList.map fun room => ⟨room.1, room.2⟩ }

def passAll (position : Position) (arrivals : List Arrival) : Position :=
  arrivals.foldl (fun position arrival => position.pass arrival.preview) position

def latest : Position → Position
  | .room _ => .room none
  | .everyRoom _ => .everyRoom ∅

end Position

inductive Start where
  | earliest
  | acknowledged
deriving DecidableEq

structure WaitClock where
  startedAtMs : Millis
  started : Duration

def WaitClock.nowMs (clock : WaitClock) (now : Duration) : Millis :=
  saturatingAdd clock.startedAtMs (millis (now - clock.started))

structure InboxWaiter where
  roomId : Option String
  limit : Nat
  options : WaitOptions
  waitForMentioned : Bool
  deliveredThrough : Position
  fetchedThrough : Position
  heldAfter : Position
  unplacedCursor : Option String
  held : List Arrival
  dropped : Nat
  fetchedOnce : Bool
  clock : WaitClock
  wakes : Option (IpcMessagePreviewSummary → Bool)
  lookupOwner : Bool
  owner : Option String
  typing : TypingRooms
  start : Start
  gaps : List IpcTimelineGap
  reportedGaps : List (String × String)

inductive MessageWait where
  | untilMessage
  | forDuration (duration : Duration)
  | continuous (duration : Duration)
deriving DecidableEq

namespace InboxWaiter

def new (roomId afterEventId : Option String) (limit : Nat) (rules : WaitRules) (clock : WaitClock) : InboxWaiter where
  roomId
  limit := max limit 1
  options := rules.options
  waitForMentioned := rules.waitForMentioned
  deliveredThrough := .room afterEventId
  fetchedThrough := .room afterEventId
  heldAfter := .room afterEventId
  unplacedCursor := none
  held := []
  dropped := 0
  fetchedOnce := false
  clock
  wakes := none
  lookupOwner := false
  owner := none
  typing := {}
  start := .earliest
  gaps := []
  reportedGaps := []

variable (waiter : InboxWaiter)

def placedAt (position : Position) : InboxWaiter :=
  { waiter with deliveredThrough := position, fetchedThrough := position, heldAfter := position }

def everyRoom : InboxWaiter :=
  match waiter.roomId, waiter.deliveredThrough with
  | none, .room given => { waiter.placedAt (.everyRoom ∅) with unplacedCursor := given }
  | _, _ => waiter

-- Gaps that were handed over, or wait already, are not noted again.
def noteGap (gap : IpcTimelineGap) : InboxWaiter :=
  let pending := waiter.gaps.any fun known =>
    known.roomId = gap.roomId && known.beforeEventId = gap.beforeEventId
  if !pending && !waiter.reportedGaps.contains (gap.roomId, gap.beforeEventId)
  then { waiter with gaps := waiter.gaps ++ [gap] } else waiter

def noteGaps (gaps : List IpcTimelineGap) : InboxWaiter :=
  gaps.foldl noteGap waiter

def readyGaps (stillHeld : List String) : List IpcTimelineGap :=
  waiter.gaps.filter fun gap => !stillHeld.contains gap.beforeEventId

def releaseGaps (stillHeld : List String) : InboxWaiter :=
  { waiter with
    gaps := waiter.gaps.filter fun gap => stillHeld.contains gap.beforeEventId
    reportedGaps := waiter.reportedGaps ++ (waiter.readyGaps stillHeld).map fun gap => (gap.roomId, gap.beforeEventId) }

def heldIds : List String := waiter.held.map (·.preview.eventId)

def roomUnheld (preview : IpcMessagePreviewSummary) : Bool :=
  match waiter.heldAfter with
  | .room _ => waiter.held.isEmpty
  | .everyRoom _ => !waiter.held.any fun arrival => arrival.preview.roomId = preview.roomId

def absorb (first : Bool) (known : List String) (nowMs : Millis) (waiter : InboxWaiter)
    (preview : IpcMessagePreviewSummary) : InboxWaiter :=
  let fetched := { waiter with fetchedThrough := waiter.fetchedThrough.pass preview }
  if preview.fromMe || known.contains preview.eventId then
    if preview.fromMe && waiter.roomUnheld preview then
      { fetched with
        deliveredThrough := waiter.deliveredThrough.pass preview
        heldAfter := waiter.heldAfter.pass preview }
    else fetched
  else
    -- What came before the wait began counts from when it was sent.
    let arrived := if first then min preview.createdAtUnixMs nowMs else nowMs
    { fetched with held := waiter.held ++ [⟨preview, arrived⟩] }

def arrivedNoLater (held : List Arrival) (atMs : Option Millis) : List Arrival :=
  match atMs, held with
  | some atMs, first :: rest => { first with arrivedAtMs := min first.arrivedAtMs atMs } :: rest
  | _, _ => held

def trim (waiter : InboxWaiter) : InboxWaiter :=
  if heldCapacity < waiter.held.length then
    let excess := waiter.held.length - heldCapacity
    let dropped := waiter.held.take excess
    { waiter with
      held := arrivedNoLater (waiter.held.drop excess) (dropped.map (·.arrivedAtMs)).min?
      heldAfter := waiter.heldAfter.passAll dropped
      dropped := waiter.dropped + excess }
  else waiter

def restoreArrival (arrived : List Arrival) (arrival : Arrival) : Arrival :=
  match arrived.find? (·.preview.eventId = arrival.preview.eventId) with
  | some original => { arrival with arrivedAtMs := original.arrivedAtMs }
  | none => arrival

def restoreArrivals (arrived : List Arrival) (waiter : InboxWaiter) : InboxWaiter :=
  { waiter with
    held := arrivedNoLater (waiter.held.map (restoreArrival arrived)) (arrived.map (·.arrivedAtMs)).min? }

def decideAt (waiter : InboxWaiter) (nowMs : Millis) (deadlineMs : Option Millis) : WaitDecision :=
  let typists := waiter.typing.typists nowMs
  match waiter.wakes with
  | some wakes => decideWith waiter.held waiter.options wakes typists waiter.limit nowMs deadlineMs
  | none => decide waiter.held waiter.options ⟨waiter.owner, [], typists⟩ waiter.limit nowMs deadlineMs

def picked (arrivals : List Arrival) (picks : List Nat) : List IpcMessagePreviewSummary :=
  (arrivals.zipIdx.filter fun arrival => picks.contains arrival.2).map (·.1.preview)

def takeUp (waiter : InboxWaiter) (count : Nat) : InboxWaiter :=
  { waiter with
    deliveredThrough := waiter.deliveredThrough.passAll (waiter.held.take count)
    heldAfter := waiter.heldAfter.passAll (waiter.held.take count)
    held := waiter.held.drop count }

def catchUp (waiter : InboxWaiter) : InboxWaiter :=
  { waiter with deliveredThrough := waiter.fetchedThrough, heldAfter := waiter.fetchedThrough }

def take (waiter : InboxWaiter) (delivery : Delivery) : WokenBatch × InboxWaiter :=
  let count := consumed delivery.picks
  let previews := picked (waiter.held.take count) delivery.picks
  let taken := waiter.takeUp count
  let caughtUp := if previews.isEmpty && taken.held.isEmpty then taken.catchUp else taken
  let skipped := if 0 < count then delivery.skipped + waiter.dropped else delivery.skipped
  let counted := if 0 < count then { caughtUp with dropped := 0 } else caughtUp
  let stillHeld := counted.heldIds
  ({ previews, wake := delivery.wake, skipped, remaining := delivery.remaining,
     cursor := counted.deliveredThrough.cursor, gaps := counted.readyGaps stillHeld },
   counted.releaseGaps stillHeld)

def peeked (waiter : InboxWaiter) (page : InboxPage) : WokenBatch × InboxWaiter :=
  let noted := waiter.noteGaps page.gaps
  let cursor := page.previews.foldl Position.pass waiter.deliveredThrough
  let others := page.previews.filter fun preview => !preview.fromMe
  let previews := others.filter fun preview => !waiter.options.mentionsOnly || preview.mentionsMe
  ({ previews, wake := .empty (if previews.isEmpty then .timeout else .messages),
     skipped := others.length - previews.length, remaining := 0, cursor := cursor.cursor,
     gaps := noted.readyGaps [] },
   { (noted.releaseGaps []).placedAt cursor with held := [] })

end InboxWaiter

structure Session where
  waiter : InboxWaiter
  moment : Nat

abbrev Waiting := Method BridgeToolFailure Session

section

variable (backend : Backend)

def tick : Waiting Nat := do
  let session ← get
  set { session with moment := session.moment + 1 }
  return session.moment

def now : Waiting Duration := do
  let moment ← tick
  return backend.instant moment

def nowMs : Waiting Millis := do
  let instant ← now backend
  let session ← get
  return session.waiter.clock.nowMs instant

def edit (change : InboxWaiter → InboxWaiter) : Waiting Unit :=
  modify fun session => { session with waiter := change session.waiter }

def answer (change : InboxWaiter → WokenBatch × InboxWaiter) : Waiting WokenBatch := do
  let session ← get
  let result := change session.waiter
  set { session with waiter := result.2 }
  return result.1

def readPage (method : IpcMethod) (cutOff : Option Duration) : Waiting InboxPage := do
  let moment ← tick
  lift (readPageAt backend moment method cutOff)

def peek : Waiting WokenBatch := do
  let session ← get
  let request := session.waiter.deliveredThrough.request session.waiter.roomId session.waiter.limit
    (session.waiter.start = .acknowledged)
  let page ← readPage backend (.readInbox request) none
  answer (·.peeked page)

def fetchOne (keepWaiting : Bool) (waitMs : Option Nat) (cutOff : Option Duration) : Waiting InboxPage := do
  let session ← get
  let asked := session.waiter.fetchedThrough.request session.waiter.roomId fetchPage
    (session.waiter.start = .acknowledged)
  let request := { asked with keepWaiting, waitMs }
  let cutOff := cutOff.map fun cutOff => if waitMs.isSome then cutOff + blockGrace else cutOff
  readPage backend (if keepWaiting then .waitInbox request else .readInbox request) cutOff

def observe (keepWaiting : Bool) (typing : List IpcTyping) (nowMs : Millis) (waiter : InboxWaiter) : InboxWaiter :=
  if keepWaiting then { waiter with typing := waiter.typing.observe typing nowMs } else waiter

def absorbPage (first keepWaiting : Bool) (known : List String) (page : InboxPage) (nowMs : Millis)
    (waiter : InboxWaiter) : InboxWaiter :=
  page.previews.foldl (InboxWaiter.absorb first known nowMs)
    ((observe keepWaiting page.typing nowMs waiter).noteGaps page.gaps)

def fetchPages (first keepWaiting : Bool) (known : List String) (cutOff : Option Duration) :
    Nat → Option Nat → Bool → Waiting Bool
  | 0, _, fetchedOwn => return fetchedOwn
  | pages + 1, waitMs, fetchedOwn => do
    let page ← fetchOne backend keepWaiting waitMs cutOff
    let nowMs ← nowMs backend
    edit (absorbPage first keepWaiting known page nowMs)
    let fetchedOwn := fetchedOwn || page.previews.any (·.fromMe)
    if page.more then fetchPages first keepWaiting known cutOff pages none fetchedOwn
    else return fetchedOwn

def fetch (keepWaiting : Bool) (block : Duration) (cutOff : Option Duration) : Waiting Bool := do
  let session ← get
  let waiter := session.waiter
  let waitMs := if block = 0 then none else some (min (block / 1000000) inboxBlockMillis)
  edit fun waiter => { waiter with fetchedOnce := true }
  let fetchedOwn ←
    fetchPages backend (!waiter.fetchedOnce) keepWaiting waiter.heldIds cutOff fetchPagesPerRound waitMs false
  edit InboxWaiter.trim
  let session ← get
  return fetchedOwn || waiter.held.length + waiter.dropped < session.waiter.held.length + session.waiter.dropped

def refresh (cutOff : Option Duration) : Waiting Unit := do
  let session ← get
  edit fun waiter => { waiter with held := [], fetchedThrough := waiter.heldAfter }
  let _ ← fetch backend true 0 cutOff
  edit (InboxWaiter.restoreArrivals session.waiter.held)

def deadlineMs (nowMs : Millis) (deadline : Duration) (now : Duration) : Millis :=
  saturatingAdd nowMs (millis (deadline - now))

def decision (deadline : Option Duration) : Waiting WaitDecision := do
  let nowMs ← nowMs backend
  let now ← now backend
  let session ← get
  return session.waiter.decideAt nowMs (deadline.map (deadlineMs nowMs · now))

def resolveMentioned : Waiting Unit := do
  let session ← get
  if session.waiter.waitForMentioned then
    edit fun waiter => { waiter with waitForMentioned := false }
    let request := session.waiter.deliveredThrough.latest.request session.waiter.roomId fetchPage false
    let page ← readPage backend (.listPreviews request) none
    let people := mentionedPeople (page.previews.find? (·.fromMe))
    if people.isEmpty then throw (invalid "waitFor")
    else edit fun waiter => { waiter with options := { waiter.options with waitFor := people } }
  else return ()

abbrev Placed := Std.ExtTreeMap String (Millis × String)

def placeOne (placed : Placed) (message : IpcMessagePreviewSummary) : Placed :=
  if (placed[message.roomId]?).all fun known => known.1 < message.createdAtUnixMs
  then placed.insert message.roomId (message.createdAtUnixMs, message.eventId) else placed

def getMessages (ids : List String) : Waiting (List IpcMessagePreviewSummary × List String) := do
  let moment ← tick
  match backend.invoke moment (.getMessages ids) with
  | .error error => throw error
  | .ok (.messages messages more) => return (messages, more)
  | .ok _ => throw (failure "agent.inbox.response_invalid" .internal false)

-- The Bridge may leave some for a further call, so how often to ask is open.
def lookUp : Nat → List String → Placed → Waiting (Option Placed)
  | _, [], placed => return some placed
  | 0, _ :: _, _ => return none
  | rounds + 1, asking, placed => do
    let answered ← getMessages backend (asking.take messageLookupIds)
    let later := asking.drop messageLookupIds ++ if answered.1.isEmpty then [] else answered.2
    lookUp rounds later (answered.1.foldl placeOne placed)

def settleCursor (placed : Option Placed) : Waiting Bool :=
  match placed with
  | none => return false
  | some placed =>
    if placed.isEmpty then throw (failure "bridge.preview_cursor_not_found" .validation false)
    else do
      edit (·.placedAt (.everyRoom (placed.map fun _ known => known.2)))
      return true

def placeCursor (rounds : Nat) : Waiting Bool := do
  let session ← get
  match session.waiter.unplacedCursor with
  | none => return true
  | some given =>
    edit fun waiter => { waiter with unplacedCursor := none }
    let placed ← lookUp backend rounds (cursorEvents given) ∅
    settleCursor placed

def findOwner : Waiting Unit := do
  let session ← get
  if session.waiter.lookupOwner then
    let moment ← tick
    edit fun waiter =>
      match backend.invoke moment .getSelf with
      | .ok (.selfSummary owner) => { waiter with lookupOwner := false, owner }
      | _ => { waiter with lookupOwner := false }
  else return ()

def deadlineOf (wait : MessageWait) (waitFor : List String) (started : Duration) : Option Duration :=
  match wait with
  | .untilMessage => if waitFor.isEmpty then none else some (started + defaultWaitForLimit)
  | .forDuration duration | .continuous duration => some (started + duration)

def cutOffOf (wait : MessageWait) (deadline : Option Duration) : Option Duration :=
  match wait with
  | .continuous _ => none
  | _ => deadline

def isDeliver : WaitDecision → Bool
  | .deliver _ => true
  | .wait _ => false

def blockFor (clock : WaitClock) (recheckAtMs : Option Millis) (deadline : Option Duration) (now clockNow : Duration) :
    Duration :=
  let longest := now + inboxBlockMillis * 1000000
  let untilRecheck := (recheckAtMs.map fun atMs =>
    min longest (now + (saturatingSub atMs (clock.nowMs clockNow)).toNat * 1000000)).getD longest
  (deadline.map (min untilRecheck)).getD untilRecheck - now

def nextBlock (recheckAtMs : Option Millis) (deadline : Option Duration) : Waiting Duration := do
  let instant ← now backend
  let clockNow ← now backend
  let session ← get
  return blockFor session.waiter.clock recheckAtMs deadline instant clockNow

def passedDeadline (deadline : Option Duration) : Waiting Bool :=
  match deadline with
  | none => return false
  | some deadline => do
    let instant ← now backend
    return deadline ≤ instant

def weigh (deadline cutOff : Option Duration) (block : Duration) : Waiting WaitDecision := do
  let expired ← passedDeadline backend deadline
  if expired then decision backend deadline
  else do
    let _ ← fetch backend true block cutOff
    let first ← decision backend deadline
    if isDeliver first then
      refresh backend none
      decision backend deadline
    else return first

def waitLoop (deadline cutOff : Option Duration) : Nat → Duration → Waiting (Option WokenBatch)
  | 0, _ => return none
  | rounds + 1, block => do
    let decided ← weigh backend deadline cutOff block
    match decided with
    | .deliver delivery => some <$> answer (·.take delivery)
    | .wait recheckAtMs =>
      let block ← nextBlock backend recheckAtMs deadline
      waitLoop deadline cutOff rounds block

def await (rounds : Nat) (wait : MessageWait) : Waiting (Option WokenBatch) := do
  findOwner backend
  let started ← now backend
  let session ← get
  let deadline := deadlineOf wait session.waiter.options.waitFor started
  waitLoop backend deadline (cutOffOf wait deadline) rounds 0

-- The wait is left after so many rounds when nothing was handed over by then.
def next (rounds : Nat) (wait : MessageWait) : Waiting (Option WokenBatch) := do
  let placed ← placeCursor backend rounds
  if placed then
    resolveMentioned backend
    if wait = .forDuration 0 then some <$> peek backend else await backend rounds wait
  else return none

end

end AgentRoom.Inbox
