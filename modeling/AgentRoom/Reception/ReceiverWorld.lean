import AgentRoom.Reception.Runtime
import AgentRoom.Reception.Writers

namespace AgentRoom.Reception

open Library

-- Where one bound task runs: the account and the device that speak for it, the
-- record it has on the server, and the order of the room's events.
structure ReceiverSite where
  principal : PrincipalId
  device : DeviceId
  agentId : AgentId
  catalogId : RoomCatalogId
  position : String → Nat

structure HostTurn where
  delivery : HostDelivery
  batch : WokenBatch
  file : Option ReceiverState
  server : Option ReceptionProgress

-- What happened: the states written to the file, the times no turn of the host
-- is under way, the turns and which of them gave nothing, the replies found, the
-- events told and the answers of the owner.
inductive ReceiverFact where
  | wrote (state : ReceiverState)
  | idle
  | turn (turn : HostTurn)
  | silent (turn : HostTurn)
  | verified (record : DeliveryRecord)
  | told (event : ReceiverEvent) (file : Option ReceiverState) (server : Option ReceptionProgress)
  | resolved (action : Resolution) (record : Option DeliveryRecord)

structure ReceiverWorld where
  file : Option ReceiverState
  table : ReceptionTable
  log : List ReceiverFact

inductive ReceiverOutcome where
  | loaded
  | stored (written : Bool) (failure : Option ReceptionFailure)
  | minted (id : Nat)
  | opened (answer : Except Halt HostSession)
  | readied (answer : Except Halt AgentInstanceId)
  | placed (answer : Except Halt (Option String))
  | controlled (drains : List ReceptionTurn) (executed : Option ReceptionAuthority) (lost : Option Halt)
  | verified (answer : Except Halt String)
  | roomsListed (answer : Except Halt Bool)
  | woken (answer : Except Halt WokenBatch)
  | resumed (answer : Except Halt HostReply)
  | sent (answer : Except Halt Nat)
  | passed (answer : Except Halt Unit)
  | emitted (failure : Option ReceptionFailure)

def answered {ε : Type} (failure : Option ε) : Except ε Unit :=
  match failure with
  | none => .ok ()
  | some failure => .error failure

-- An event lies beyond a cursor, or the cursor has reached it.
def Beyond (position : String → Nat) (cursor : Option String) (event : String) : Prop :=
  ∀ at_ ∈ cursor, position at_ < position event

def Reached (position : String → Nat) (cursor : Option String) (event : String) : Prop :=
  ∃ at_ ∈ cursor, position event ≤ position at_

instance (position : String → Nat) (cursor : Option String) (event : String) : Decidable (Beyond position cursor event) := by
  unfold Beyond
  infer_instance

instance (position : String → Nat) (cursor : Option String) (event : String) : Decidable (Reached position cursor event) := by
  unfold Reached
  cases cursor with
  | none => exact .isFalse (by simp)
  | some at_ => exact decidable_of_iff (position event ≤ position at_) (by simp)

-- A batch holds events beyond the cursor it was asked for, up to its own cursor.
def Follows (position : String → Nat) (cursor : Option String) (batch : WokenBatch) : Prop :=
  ∀ anchor ∈ batch.cursor, Beyond position cursor anchor ∧
    ∀ message ∈ batch.previews, Beyond position cursor message.eventId ∧ position message.eventId ≤ position anchor

instance (position : String → Nat) (cursor : Option String) (batch : WokenBatch) : Decidable (Follows position cursor batch) := by
  unfold Follows
  infer_instance

namespace ReceiverSite

variable (site : ReceiverSite)

def record (world : ReceiverWorld) : Option ReceptionRecord := world.table (site.agentId, site.catalogId)

def progress (world : ReceiverWorld) : Option ReceptionProgress := (site.record world).map (·.progress)

def summary (instanceId : AgentInstanceId) : SelfSummary := ⟨site.agentId, some site.catalogId, instanceId⟩

end ReceiverSite

-- Only the owner's requests to hand the task over reach the record from elsewhere.
def drained (table : ReceptionTable) (turn : ReceptionTurn) : ReceptionTable :=
  match turn.call with
  | .execute _ _ _ => table
  | .drain _ _ _ _ =>
    match perform turn table with
    | .ok (next, _) => next
    | .error _ => table

section

variable (site : ReceiverSite)

-- A request is carried out or not, and its answer arrives or not.
def controlled (table : ReceptionTable) (request : ReceptionRequest) (executed : Option ReceptionAuthority) (lost : Option Halt) :
    Option (Except Halt ReceptionRecord × ReceptionTable) :=
  match executed with
  | none => lost.map fun halt => (.error halt, table)
  | some authority =>
    match execute authority table site.principal site.device request with
    | .ok (next, record) => some (lost.elim (.ok record) .error, next)
    | .error _ => lost.map fun halt => (.error halt, table)

variable (world : ReceiverWorld)

def stored (state : ReceiverState) (written : Bool) : ReceiverWorld :=
  if written = true then { world with file := some state, log := world.log ++ [.wrote state] } else world

def noted (fact : ReceiverFact) : ReceiverWorld := { world with log := world.log ++ [fact] }

def turned (turn : HostTurn) (answer : Except Halt HostReply) : ReceiverWorld :=
  let begun := noted world (.turn turn)
  match answer with
  | .ok .silent => noted begun (.silent turn)
  | .ok (.body _) | .error _ => begun

def found (record : DeliveryRecord) (answer : Except Halt String) : ReceiverWorld :=
  match answer with
  | .ok _ => noted world (.verified record)
  | .error _ => world

def answer (op : ReceiverOp) (outcome : ReceiverOutcome) : Option (op.Answer × ReceiverWorld) :=
  match op, outcome with
  | .load, .loaded => some (.ok world.file, world)
  | .store state, .stored written failure =>
    if failure = none → written = true then some (answered failure, stored world state written) else none
  | .mint, .minted id => some (id, world)
  | .openHostSession _ _, .opened result => some (result, noted world .idle)
  | .waitUntilReady _, .readied result => some (result.map site.summary, world)
  | .initialCursor _ _, .placed result => some (result, world)
  | .control _ request, .controlled drains executed lost =>
    (controlled site (drains.foldl drained world.table) request executed lost).map fun ended =>
      (ended.1, { world with table := ended.2 })
  | .verify _ record _ _, .verified result => some (result, found world record result)
  | .listRooms, .roomsListed result => some (result, world)
  | .nextBatch _ cursor _, .woken result =>
    match result with
    | .ok batch => if Follows site.position cursor batch then some (.ok batch, noted world .idle) else none
    | .error halt => some (.error halt, noted world .idle)
  | .fullText _ _, .passed result => some (result, world)
  | .resume _ delivery batch, .resumed result =>
    some (result, turned world ⟨delivery, batch, world.file, site.progress world⟩ result)
  | .send _ _ _ _, .sent result => some (result, world)
  | .acknowledge _ _, .passed result => some (result, world)
  | .closeHostSession _, .passed result => some (result, world)
  | .sleep _, .passed result => some (result, world)
  | .emit event, .emitted failure => some (answered failure, noted world (.told event world.file (site.progress world)))
  | _, _ => none

def receiverMachine : Machine ReceiverWorld ReceiverOp ReceiverOp.Answer ReceiverOutcome := ⟨answer site⟩

end

-- A process runs until it ends or is cut off, or the owner answers while none runs.
inductive ReceiverEpisode where
  | process (mode : ReceiverMode) (rounds attempts : Nat) (outcomes : List ReceiverOutcome)
  | resolve (event : String) (action : Resolution) (written : Bool)

structure ReceiverTask where
  site : ReceiverSite
  service : String

def resolveFile (world : ReceiverWorld) (event : String) (action : Resolution) (written : Bool) : ReceiverWorld :=
  match world.file with
  | none => world
  | some state =>
    match state.resolve event action with
    | .error _ => world
    | .ok next =>
      if written = true then stored (noted world (.resolved action state.lastDelivery)) next true else world

def EpisodeStep (task : ReceiverTask) (allowed : ReceiverWorld → ReceiverOp → ReceiverOutcome → Prop) (world : ReceiverWorld)
    (episode : ReceiverEpisode) (next : ReceiverWorld) : Prop :=
  match episode with
  | .process mode rounds attempts outcomes => ∃ rest,
      Drives (receiverMachine task.site) allowed (run task.service mode rounds attempts) world outcomes rest next
  | .resolve event action written => next = resolveFile world event action written

def Unrestricted (_ : ReceiverWorld) (_ : ReceiverOp) (_ : ReceiverOutcome) : Prop := True

-- A task that was configured, whatever the server knows of its Agent from earlier executors.
structure Opening (task : ReceiverTask) (world : ReceiverWorld) : Prop where
  file : ∃ binding, world.file = some (configured binding task.service)
  keyed : Keyed world.table
  ordered : ∀ progress ∈ task.site.progress world,
    (∀ pending ∈ progress.pending, Beyond task.site.position progress.afterEventId pending.eventId) ∧
      ∀ retry ∈ progress.retry, Beyond task.site.position progress.afterEventId retry.eventId
  log : world.log = []

open Library

section

variable {record : ReceptionRecord}

def Obeyed (before : Option ReceptionRecord) (record : ReceptionRecord) : ReceptionCommand → Prop
  | .claim _ _ initial => record.status = .active ∧
      (before = none ∧ record.progress = initial ∨ ∃ known, before = some known ∧ record.progress = known.progress)
  | .save _ progress => record.progress = progress ∧ ∃ known, before = some known
  | .heartbeat | .release => ∃ known, before = some known ∧ record.progress = known.progress

theorem find_again (found : findAgain table agent catalog = .ok record) :
    table (agent, catalog) = some record ∧ record.progress.valid = true := by
  obtain ⟨sought, looked, rest⟩ := unbind found
  cases sought with
  | none => cases rest
  | some stored =>
    cases rest
    refine ⟨find_some looked, ?_⟩
    rw [find, find_some looked] at looked
    obtain ⟨decoded, checked, same⟩ := (map_ok ..).mp looked
    obtain ⟨_, valid, built⟩ := unbind checked
    cases built
    cases same
    exact (ensure_ok ..).mp valid

theorem create_effect (created : create authority table device request = .ok (next, record)) :
    next (request.agentId, request.catalogId) = some record ∧ record.progress.valid = true ∧
      Obeyed none record request.command := by
  rw [create] at created
  cases command : request.command with
  | claim sessionKey displayName initial =>
    rw [command] at created
    obtain ⟨_, _, rest⟩ := unbind created
    obtain ⟨stored, found, built⟩ := unbind rest
    cases built
    obtain ⟨there, valid⟩ := find_again found
    have whole := there
    rw [put_same] at whole
    cases whole
    exact ⟨there, valid, rfl, .inl ⟨rfl, rfl⟩⟩
  | heartbeat =>
    rw [command] at created
    cases created
  | save revision progress =>
    rw [command] at created
    cases created
  | release =>
    rw [command] at created
    cases created

theorem obey_effect (obeyed : obey device request known = .ok (changed, execution')) (status : record.status = execution'.mode)
    (progress : record.progress = changed.progress) : Obeyed (some known) record request.command := by
  rw [obey] at obeyed
  cases command : request.command with
  | claim sessionKey displayName initial =>
    rw [command] at obeyed
    obtain ⟨_, _, rest⟩ := unbind obeyed
    obtain ⟨execution, applies, built⟩ := unbind rest
    cases built
    have active := (claimed known execution' _ (applied_ok known execution' applies)).2
    exact ⟨status.trans active, .inr ⟨known, rfl, progress⟩⟩
  | heartbeat =>
    rw [command] at obeyed
    obtain ⟨_, _, built⟩ := unbind obeyed
    cases built
    exact ⟨known, rfl, progress⟩
  | save revision saved =>
    rw [command] at obeyed
    obtain ⟨_, _, rest⟩ := unbind obeyed
    obtain ⟨advanced, stepped, built⟩ := unbind rest
    cases built
    rcases advance_ok known changed revision saved stepped with ⟨same, equal⟩ | ⟨_, _, same⟩
    · exact ⟨by rw [progress, same, equal], known, rfl⟩
    · exact ⟨by rw [progress, same], known, rfl⟩
  | release =>
    rw [command] at obeyed
    obtain ⟨_, _, built⟩ := unbind obeyed
    cases built
    exact ⟨known, rfl, progress⟩

theorem execute_effect (keyed : Keyed table) (executed : execute authority table principal device request = .ok (next, record)) :
    next (request.agentId, request.catalogId) = some record ∧ record.progress.valid = true ∧
      Obeyed (table (request.agentId, request.catalogId)) record request.command := by
  obtain ⟨_, _, rest⟩ := unbind executed
  obtain ⟨_, _, locked⟩ := unbind rest
  obtain ⟨_, _, rest⟩ := unbind locked
  obtain ⟨_, _, rest⟩ := unbind rest
  obtain ⟨found, sought, rest⟩ := unbind rest
  cases found with
  | none =>
    rw [find_none sought]
    exact create_effect rest
  | some stored =>
    have there := find_some sought
    obtain ⟨_, _, rest⟩ := unbind rest
    obtain ⟨⟨changed, execution'⟩, obeyed, rest⟩ := unbind rest
    obtain ⟨again, looked, built⟩ := unbind rest
    cases built
    obtain ⟨here, valid⟩ := find_again looked
    have own := (obey_key obeyed).trans (keyed _ stored there)
    obtain ⟨sameAgent, sameCatalog⟩ := Prod.mk.inj own
    have whole := here
    simp only [save, sameAgent, sameCatalog, there, put_same] at whole
    cases whole
    refine ⟨here, valid, ?_⟩
    rw [there]
    exact obey_effect obeyed rfl rfl

end

theorem drained_step (turn : ReceptionTurn) : ReceptionStep table turn (drained table turn) := by
  obtain ⟨authority, call⟩ := turn
  cases call with
  | execute => exact .inl rfl
  | drain principal agent catalog nextDevice =>
    cases done : perform ⟨authority, .drain principal agent catalog nextDevice⟩ table with
    | error kind => exact .inl (by rw [drained, done])
    | ok answer => exact .inr ⟨answer.2, by rw [drained, done]⟩

theorem drained_progress (keyed : Keyed table) : ((drained table turn) key).map (·.progress) = (table key).map (·.progress) := by
  have stepped : ReceptionStep table turn (drained table turn) := drained_step turn
  cases call : turn.call with
  | execute => rw [drained, call]
  | drain principal agent catalog nextDevice =>
    rcases step_wrote keyed stepped with same | ⟨record, free, _, built⟩ | ⟨before, after, there, _, fenced, built⟩
    · rw [same]
    · rw [drained, call] at stepped
      cases done : perform turn table with
      | error kind => rw [drained, call, done]
      | ok answer =>
        obtain ⟨authority, _⟩ := turn
        cases call
        obtain ⟨_, _, rest⟩ := unbind done
        obtain ⟨_, _, rest⟩ := unbind rest
        obtain ⟨found, sought, rest⟩ := unbind rest
        cases found with
        | none => cases rest
        | some stored =>
          have held := find_some sought
          have empty : table (agent, catalog) = none := free
          rw [empty] at held
          cases held
    · have same : after.progress = before.progress := by
        by_contra changed
        have owner := (fenced.progress changed).1
        simp [ReceptionCall.owner, call] at owner
      by_cases here : key = turn.call.key
      · rw [built, here, put_same, there, Option.map_some, Option.map_some, same]
      · rw [built, put_other table turn.call.key.1 turn.call.key.2 after key here]

theorem drains_progress (turns : List ReceptionTurn) (keyed : Keyed table) (key : AgentId × RoomCatalogId) :
    Keyed (turns.foldl drained table) ∧
      ((turns.foldl drained table) key).map (·.progress) = (table key).map (·.progress) := by
  induction turns generalizing table with
  | nil => exact ⟨keyed, rfl⟩
  | cons turn rest ih =>
    have kept := step_keyed keyed (drained_step turn)
    obtain ⟨keyed', same⟩ := ih kept
    exact ⟨keyed', same.trans (drained_progress keyed)⟩

end AgentRoom.Reception
