import Mathlib.Algebra.Ring.Nat
import Mathlib.Tactic.Common

namespace AgentRoom.Inbox

-- Durations are nanoseconds, wall clock times Unix milliseconds in an i64.
abbrev Duration := Nat
abbrev Millis := Int

def fromSecs (seconds : Nat) : Duration := seconds * 1000000000
def fromMins (minutes : Nat) : Duration := fromSecs (minutes * 60)

def i64Max : Millis := 9223372036854775807
def i64Min : Millis := -9223372036854775808

def saturatingAdd (left right : Millis) : Millis := max i64Min (min i64Max (left + right))

def millis (duration : Duration) : Millis := min (Int.ofNat (duration / 1000000)) i64Max

def defaultSettle : Duration := fromSecs 5
def maxSettle : Duration := fromSecs 30
def minDigest : Duration := fromMins 1
def maxDigest : Duration := fromMins (24 * 60)
def defaultWaitForLimit : Duration := fromMins 10
def maxPeople : Nat := 200
def maxPeopleBytes : Nat := 12 * 1024

inductive WakeRule where
  | related
  | mentions
  | all
deriving DecidableEq

structure WaitOptions where
  wake : WakeRule := .related
  «from» : List String := []
  waitFor : List String := []
  replyTo : Option String := none
  roomId : Option String := none
  settle : Duration := defaultSettle
  digest : Option Duration := none
  mentionsOnly : Bool := false

inductive WaitOptionsField where
  | settle
  | digest
  | «from»
  | waitFor
deriving DecidableEq

def peopleValid (people : List String) : Bool :=
  people.length ≤ maxPeople && (people.map String.utf8ByteSize).sum ≤ maxPeopleBytes && people.all fun person => !person.isEmpty

namespace WaitOptions

def validate (options : WaitOptions) : Except WaitOptionsField Unit :=
  if maxSettle < options.settle then .error .settle
  else if options.digest.any fun digest => digest < minDigest || maxDigest < digest then .error .digest
  else if !peopleValid options.«from» then .error .«from»
  else if !peopleValid options.waitFor then .error .waitFor
  else .ok ()

def narrowed (options : WaitOptions) : Bool :=
  !options.«from».isEmpty || !options.waitFor.isEmpty || options.replyTo.isSome

end WaitOptions

structure WaitRules where
  options : WaitOptions := {}
  waitForMentioned : Bool := false

structure IpcAgentSummary where
  agentId : String
  displayName : String
  matrixUserId : String

inductive IpcActorSummary where
  | agent (agent : IpcAgentSummary) (instanceId : String)
  | human (principalId displayName matrixUserId : String)

structure IpcReplyExcerpt where
  messageId : String
  actorName : String
  excerpt : String

structure IpcConversationMessage where
  mentions : List String

structure IpcMessagePreviewSummary where
  conversation : Option IpcConversationMessage := none
  replyToMessageId : Option String := none
  replyTo : Option IpcReplyExcerpt := none
  messageId : String
  eventId : String
  roomId : String
  actor : IpcActorSummary
  createdAtUnixMs : Millis
  title : String
  summary : String
  fromMe : Bool := false
  mentionsMe : Bool := false

structure Typist where
  roomId : String
  userId : String
  typing : Bool
  atMs : Millis

structure WakeContext where
  owner : Option String := none
  directRooms : List String := []
  typing : List Typist := []

structure Arrival where
  preview : IpcMessagePreviewSummary
  arrivedAtMs : Millis

inductive WakeReason where
  | messages
  | allReplied
  | digest
  | timeout
  | superseded
  | knocks
deriving DecidableEq

structure IpcWake where
  reason : WakeReason
  eventIds : List String := []
  missing : List String := []
deriving DecidableEq

def IpcWake.empty (reason : WakeReason) : IpcWake := { reason }

structure Delivery where
  picks : List Nat
  skipped : Nat
  remaining : Nat
  wake : IpcWake
deriving DecidableEq

def consumed (picks : List Nat) : Nat := (picks.getLast?.map (· + 1)).getD 0

inductive WaitDecision where
  | deliver (delivery : Delivery)
  | wait (recheckAtMs : Option Millis)
deriving DecidableEq

def actorMatrixId : IpcActorSummary → String
  | .agent agent _ => agent.matrixUserId
  | .human _ _ matrixUserId => matrixUserId

def isHuman : IpcActorSummary → Bool
  | .agent .. => false
  | .human .. => true

def addressedToOthers (preview : IpcMessagePreviewSummary) : Bool :=
  !preview.mentionsMe && (preview.replyTo.isSome || preview.conversation.any fun conversation => !conversation.mentions.isEmpty)

def wakes (preview : IpcMessagePreviewSummary) (options : WaitOptions) (context : WakeContext) : Bool :=
  let actor := actorMatrixId preview.actor
  if preview.fromMe then false
  else if context.owner = some actor && !options.mentionsOnly then true
  else if options.narrowed then
    (options.replyTo.any fun target => preview.replyToMessageId = some target) || options.«from».any (· = actor)
  else
    match options.wake with
    | .all => true
    | .mentions => preview.mentionsMe
    | .related =>
      preview.mentionsMe || context.directRooms.contains preview.roomId || (isHuman preview.actor && !addressedToOthers preview)

def mentionedPeople (lastSent : Option IpcMessagePreviewSummary) : List String :=
  ((lastSent.bind (·.conversation)).map (·.mentions)).getD []

-- A BTreeSet of positions is the increasing list of its members.
def insertIndex (index : Nat) : List Nat → List Nat
  | [] => [index]
  | first :: rest =>
    if index < first then index :: first :: rest
    else if index = first then first :: rest
    else first :: insertIndex index rest

def indexSet (indices : List Nat) : List Nat :=
  indices.foldl (fun chosen index => insertIndex index chosen) []

def fillNewest (limit : Nat) : List Nat → List Nat → List Nat
  | chosen, [] => chosen
  | chosen, index :: older =>
    if limit ≤ chosen.length then chosen else fillNewest limit (insertIndex index chosen) older

def select (heard priority : List Nat) (limit : Nat) : List Nat :=
  if heard.length ≤ limit then heard
  else fillNewest limit (indexSet (priority.take limit)) heard.reverse

structure Trigger where
  reason : WakeReason
  atMs : Millis
  priority : List Nat

structure Scope where
  pending : List Arrival
  options : WaitOptions
  heard : List Nat
  waking : List Nat
  waited : List Nat
  missing : List String

def hears (options : WaitOptions) (arrival : Arrival) : Bool :=
  !arrival.preview.fromMe && options.roomId.all (· = arrival.preview.roomId)

def speaker (pending : List Arrival) (index : Nat) : Option String :=
  (pending[index]?).map fun arrival => actorMatrixId arrival.preview.actor

def missingFrom (pending : List Arrival) (waited : List Nat) (people : List String) : List String :=
  people.foldl (fun missing person =>
    if !missing.contains person && !waited.any (fun index => speaker pending index = some person)
    then missing ++ [person] else missing) []

namespace Scope

def new (pending : List Arrival) (options : WaitOptions) (wakes : IpcMessagePreviewSummary → Bool) : Scope :=
  let heard := (List.range pending.length).filter fun index => (pending[index]?).any (hears options)
  let waking := heard.filter fun index => (pending[index]?).any fun arrival => wakes arrival.preview
  let waited := heard.filter fun index => options.waitFor.any fun person => speaker pending index = some person
  { pending, options, heard, waking, waited, missing := missingFrom pending waited options.waitFor }

def arrivedAt (scope : Scope) (indices : List Nat) : List Millis :=
  indices.filterMap fun index => (scope.pending[index]?).map (·.arrivedAtMs)

def digestDue (scope : Scope) : Option Millis :=
  scope.options.digest.bind fun digest =>
    (scope.arrivedAt scope.heard).min?.map fun oldest => saturatingAdd oldest (millis digest)

-- When the last of the people waited for spoke for the first time.
def repliedAt (scope : Scope) : Option Millis :=
  (scope.options.waitFor.filterMap fun person =>
    (scope.arrivedAt (scope.waited.filter fun index => speaker scope.pending index = some person)).min?).max?

def trigger (scope : Scope) (nowMs : Millis) : Option Trigger :=
  if !scope.options.waitFor.isEmpty && scope.missing.isEmpty then
    some ⟨.allReplied, scope.repliedAt.getD nowMs, indexSet (scope.waited ++ scope.waking)⟩
  else
    match (scope.arrivedAt scope.waking).min? with
    | some atMs => some ⟨.messages, atMs, scope.waking⟩
    | none =>
      match scope.digestDue with
      | none => none
      | some due => if due ≤ nowMs then some ⟨.digest, due, []⟩ else none

def relevant (scope : Scope) (priority : List Nat) (typist : Typist) : Bool :=
  priority.any fun index => (scope.pending[index]?).any fun arrival =>
    typist.roomId = arrival.preview.roomId && typist.userId = actorMatrixId arrival.preview.actor

def typing (scope : Scope) (priority : List Nat) (typing : List Typist) : Bool × Option Millis :=
  let speaking := typing.filter (scope.relevant priority)
  (speaking.any (·.typing), ((speaking.filter fun typist => !typist.typing).map (·.atMs)).max?)

def settleAt (scope : Scope) (triggeredAtMs : Millis) (stoppedTypingAtMs : Option Millis) : Millis :=
  let last := (scope.arrivedAt scope.heard).max?.getD triggeredAtMs
  let last := (stoppedTypingAtMs.map (max last)).getD last
  let quiet := saturatingAdd last (millis (min scope.options.settle maxSettle))
  min quiet (saturatingAdd triggeredAtMs (millis maxSettle))

def picks (scope : Scope) (priority : List Nat) (limit : Nat) (reason : WakeReason) : List Nat :=
  if reason = .timeout && priority.isEmpty then []
  else if scope.options.mentionsOnly then priority.take limit
  else select scope.heard priority limit

def deliver (scope : Scope) (priority : List Nat) (limit : Nat) (reason : WakeReason) : Delivery :=
  let picks := scope.picks priority limit reason
  let lastPosition := picks.getLast?.bind fun last => scope.heard.findIdx? (· = last)
  let counts := (lastPosition.map fun position =>
    (position + 1 - picks.length, scope.heard.length - position - 1)).getD (0, scope.heard.length)
  let eventIds := (picks.filter priority.contains).filterMap fun index =>
    (scope.pending[index]?).map (·.preview.eventId)
  { picks, skipped := counts.1, remaining := counts.2, wake := { reason, eventIds, missing := scope.missing } }

end Scope

def decideWith (pending : List Arrival) (options : WaitOptions) (wakes : IpcMessagePreviewSummary → Bool)
    (typing : List Typist) (limit : Nat) (nowMs : Millis) (deadlineMs : Option Millis) : WaitDecision :=
  let limit := max limit 1
  let scope := Scope.new pending options wakes
  let timedOut := deadlineMs.any fun deadline => deadline ≤ nowMs
  match scope.trigger nowMs with
  | none =>
    if timedOut then .deliver (scope.deliver scope.waited limit .timeout)
    else .wait scope.digestDue
  | some trigger =>
    if options.settle = 0 || limit ≤ scope.heard.length || timedOut then
      .deliver (scope.deliver trigger.priority limit trigger.reason)
    else
      let cap := saturatingAdd trigger.atMs (millis maxSettle)
      let typing := scope.typing trigger.priority typing
      let typingNow := typing.1 && nowMs < cap
      let settleAt := scope.settleAt trigger.atMs typing.2
      if settleAt ≤ nowMs && !typingNow then .deliver (scope.deliver trigger.priority limit trigger.reason)
      else
        let recheckAtMs := if typingNow then cap else settleAt
        .wait (some ((deadlineMs.map (min · recheckAtMs)).getD recheckAtMs))

def decide (pending : List Arrival) (options : WaitOptions) (context : WakeContext) (limit : Nat) (nowMs : Millis)
    (deadlineMs : Option Millis) : WaitDecision :=
  decideWith pending options (wakes · options context) context.typing limit nowMs deadlineMs

end AgentRoom.Inbox
