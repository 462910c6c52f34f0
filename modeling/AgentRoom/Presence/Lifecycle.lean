import AgentRoom.Domain.Basics
import Mathlib.Data.List.Induction

namespace AgentRoom

def reconnectGraceMs : Int := 30000

def receptionFreshnessMs : Int := 15000

def waitingLeaseMs : Int := 180000

def i64Min : Int := -(2 ^ 63)

-- Arithmetic on i64 that stops at its ends.
def saturate (value : Int) : Int := max i64Min (min value i64Max)

def saturatingAdd (first second : Int) : Int := saturate (first + second)

def saturatingSub (first second : Int) : Int := saturate (first - second)

def UtcMillis.toInt (time : UtcMillis) : Int := time.value

inductive AgentWorkStatus where
  | offline
  | idle
  | working
  | waitingInput
  | blocked
  | completed
deriving DecidableEq

inductive AgentConnection where
  | online
  | reconnecting
  | offline
deriving DecidableEq

inductive AgentReception where
  | waiting
  | onResume
  | unknown
  | unavailable

inductive AgentArchiveReason where
  | expired
  | capacity
deriving DecidableEq

inductive MatrixPresenceState where
  | online
  | unavailable
  | offline
deriving DecidableEq

structure MatrixPresenceObservation where
  state : MatrixPresenceState
  offlineSeenAt : Option Int
  lastActiveAt : Option Int
deriving DecidableEq

inductive AgentLiveness where
  | lease
  | presence (observation : Option MatrixPresenceObservation)

structure AgentPresenceEvidence where
  reportedStatus : AgentWorkStatus
  leaseExpiresAt : Int
  lastActiveAt : Int
  lastPolledAt : Option Int
  listeningUntil : Option Int
  receptionKnown : Bool
  liveness : AgentLiveness

structure AgentLifecycle where
  connection : AgentConnection
  reception : AgentReception
  offlineSince : Option Int
  archiveReason : Option AgentArchiveReason

namespace AgentPresenceEvidence

variable (evidence : AgentPresenceEvidence)

def leaseConnection (now : Int) : AgentConnection :=
  if evidence.reportedStatus = .offline then .offline
  else if now < evidence.leaseExpiresAt then .online
  else if now < saturatingAdd evidence.leaseExpiresAt reconnectGraceMs then .reconnecting
  else .offline

def leaseState (now : Int) : AgentConnection × AgentReception × Option Int :=
  let connection := evidence.leaseConnection now
  let offlineSince :=
    if connection = .offline then
      some (if evidence.reportedStatus = .offline then evidence.lastActiveAt
        else saturatingAdd evidence.leaseExpiresAt reconnectGraceMs)
    else none
  let reception :=
    if connection ≠ .online then .unavailable
    else if evidence.listeningUntil.any (now < ·) then .waiting
    else if evidence.receptionKnown then .onResume
    else .unknown
  (connection, reception, offlineSince)

def unseenSince (observation : Option MatrixPresenceObservation) : Int :=
  match observation.bind (·.lastActiveAt) with
  | none => evidence.lastActiveAt
  | some active => max active evidence.lastActiveAt

def presenceState (observation : Option MatrixPresenceObservation) (now : Int) :
    AgentConnection × AgentReception × Option Int :=
  match observation.map MatrixPresenceObservation.state with
  | some .online => (.online, .waiting, none)
  | some .unavailable => (.online, .onResume, none)
  | some .offline | none =>
    let since := min ((observation.bind (·.offlineSeenAt)).getD (evidence.unseenSince observation)) now
    (.offline, .unavailable, some since)

def lifecycle (now : Int) (archiveAfterDays : Nat) : AgentLifecycle :=
  let (connection, reception, offlineSince) :=
    match evidence.liveness with
    | .lease => evidence.leaseState now
    | .presence observation => evidence.presenceState observation now
  { connection
    reception
    offlineSince
    archiveReason := (offlineSince.filter fun since => archiveAfterDays * 86400000 ≤ now - since).map fun _ => .expired }

end AgentPresenceEvidence

end AgentRoom

namespace AgentRoom.Presence

def watchingGapMs : Int := 120000

structure MatrixUserId where
  value : String
deriving DecidableEq

structure MatrixUserPresence where
  userId : MatrixUserId
  state : MatrixPresenceState
  lastActiveAgoMs : Option UInt64
deriving DecidableEq

structure MatrixPresenceUpdate where
  observedAt : UtcMillis
  fullState : Bool
  users : List MatrixUserPresence
deriving DecidableEq

structure TrackedPresence where
  observation : MatrixPresenceObservation
  confirmedAt : Option Int

structure MatrixPresenceTracker where
  entries : MatrixUserId → Option TrackedPresence
  failedAt : MatrixUserId → Option Int

def lastActiveAt (presence : MatrixUserPresence) (moment : Int) : Option Int :=
  (presence.lastActiveAgoMs.filter (·.toNat ≤ i64Max)).map fun ago => saturatingSub moment ago.toNat

-- It was watched all along when the last confirmation is not too old.
def offlineSeenAt (previous : Option TrackedPresence) (moment : Int) : Option Int :=
  match previous with
  | none => none
  | some previous =>
    if previous.observation.state = .offline then previous.observation.offlineSeenAt
    else (previous.confirmedAt.filter fun confirmed => moment - confirmed ≤ watchingGapMs).map fun _ => moment

def tracked (previous : Option TrackedPresence) (presence : MatrixUserPresence) (moment : Int) : TrackedPresence :=
  if presence.state = .offline then
    { observation :=
        { state := presence.state, offlineSeenAt := offlineSeenAt previous moment, lastActiveAt := lastActiveAt presence moment }
      confirmedAt := none }
  else
    { observation := { state := presence.state, offlineSeenAt := none, lastActiveAt := lastActiveAt presence moment }
      confirmedAt := some moment }

def confirmed (moment : Int) (entry : TrackedPresence) : TrackedPresence :=
  if entry.observation.state ≠ .offline then { entry with confirmedAt := some moment } else entry

namespace MatrixPresenceTracker

def default : MatrixPresenceTracker := ⟨fun _ => none, fun _ => none⟩

variable (tracker : MatrixPresenceTracker)

def record (presence : MatrixUserPresence) (moment : Int) : MatrixPresenceTracker :=
  { tracker with
    entries := Function.update tracker.entries presence.userId
      (some (tracked (tracker.entries presence.userId) presence moment)) }

def clear : MatrixPresenceTracker := { tracker with entries := fun _ => none }

def confirmAll (moment : Int) : MatrixPresenceTracker :=
  { tracker with entries := fun userId => (tracker.entries userId).map (confirmed moment) }

def applySync (update : MatrixPresenceUpdate) : MatrixPresenceTracker :=
  let start := if update.fullState then tracker.clear else tracker
  let recorded := update.users.foldl (fun tracker presence => tracker.record presence update.observedAt.toInt) start
  recorded.confirmAll update.observedAt.toInt

def recordFetched (userId : MatrixUserId) (presence : Option MatrixUserPresence) (moment : UtcMillis) : MatrixPresenceTracker :=
  match presence with
  | none => { tracker with failedAt := Function.update tracker.failedAt userId (some moment.toInt) }
  | some presence =>
    let answered := { tracker with failedAt := Function.update tracker.failedAt userId none }
    if (answered.entries userId).isNone then answered.record presence moment.toInt else answered

def observation (userId : MatrixUserId) : Option MatrixPresenceObservation :=
  (tracker.entries userId).map (·.observation)

end MatrixPresenceTracker

end AgentRoom.Presence
