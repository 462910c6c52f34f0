import AgentRoom.Reception.ReceiverRuns

namespace AgentRoom.Reception

open Library

section

variable (site : ReceiverSite)

-- Other devices claim, save and release the same record, and the owner hands it over.
def elsewhere (table : ReceptionTable) (turn : ReceptionTurn) : ReceptionTable :=
  match turn.call with
  | .execute _ device _ => if device = site.device then table else ((perform turn table).map Prod.fst).toOption.getD table
  | .drain _ _ _ _ => ((perform turn table).map Prod.fst).toOption.getD table

structure SharedOutcome where
  turns : List ReceptionTurn
  outcome : ReceiverOutcome

-- A call of the receiver, and what other devices did before it.
def sharedMachine : Machine ReceiverWorld ReceiverOp ReceiverOp.Answer SharedOutcome :=
  ⟨fun world op shared => answer site { world with table := shared.turns.foldl (elsewhere site) world.table } op shared.outcome⟩

inductive SharedEpisode where
  | process (mode : ReceiverMode) (rounds attempts : Nat) (outcomes : List SharedOutcome)
  | resolve (event : String) (action : Resolution) (written : Bool)
  | elsewhere (turn : ReceptionTurn)

def SharedStep (task : ReceiverTask) (world : ReceiverWorld) (episode : SharedEpisode) (next : ReceiverWorld) : Prop :=
  match episode with
  | .process mode rounds attempts outcomes => ∃ rest,
      Drives (sharedMachine task.site) (fun _ _ _ => True) (run task.service mode rounds attempts) world outcomes rest next
  | .resolve event action written => next = resolveFile world event action written
  | .elsewhere turn => next = { world with table := elsewhere task.site world.table turn }

-- Every row is under its own key, with a progress the store accepts.
structure Stored (table : ReceptionTable) : Prop where
  keyed : Keyed table
  valid : ∀ key record, table key = some record → record.progress.valid = true

structure SharedOpening (task : ReceiverTask) (world : ReceiverWorld) : Prop where
  file : ∃ binding, world.file = some (configured binding task.service)
  stored : Stored world.table

end

section

variable (site : ReceiverSite) (revoked : AgentInstanceId → Bool)

-- The person still owns the Agent, and may send through what is not revoked.
structure Grants (authority : ReceptionAuthority) : Prop where
  send : ∀ request, request.agentId = site.agentId → revoked request.agentInstanceId = false → authority.maySend request = true
  owns : authority.ownsAgent site.principal site.agentId = true
  instances : ∀ instanceId, authority.instanceAllowed instanceId site.agentId site.device = !revoked instanceId

def refusal : RepositoryErrorKind → ReceptionFailure
  | .conflict => ⟨"reception.execution_conflict", false⟩
  | .forbidden => ⟨"reception.forbidden", false⟩
  | .notFound => ⟨"reception.not_found", false⟩
  | .constraint => ⟨"reception.invalid_request", false⟩
  | .unavailable | .corruptData => ⟨"reception.unavailable", true⟩

def refusedWith {α : Type} : StoreResult α → Option Halt
  | .ok _ => none
  | .error kind => some (.failure (refusal kind))

-- What a call is answered while the disk, the Bridge and the server are there.
def Served (world : ReceiverWorld) (op : ReceiverOp) (outcome : ReceiverOutcome) : Prop :=
  match op, outcome with
  | .store _, .stored _ failure => failure = none
  | .mint, .minted id => v7 id = true ∧ ∀ record ∈ site.record world, record.runId ≠ ⟨id⟩
  | .openHostSession _ _, .opened result => ∃ session, result = .ok session ∧ session.ended = false
  | .waitUntilReady _, .readied result => ∃ instanceId, result = .ok instanceId ∧ v7 instanceId.uuid = true ∧ revoked instanceId = false
  | .initialCursor _ _, .placed result => ∃ cursor, result = .ok cursor ∧ cursor.all eventReference = true
  | .control _ request, .controlled drains executed lost => drains = [] ∧ ∃ authority, executed = some authority ∧
      Grants site revoked authority ∧ lost = refusedWith (execute authority world.table site.principal site.device request)
  | _, _ => True

def HoldsRecord (world : ReceiverWorld) : Prop :=
  ∃ record, site.record world = some record ∧ record.status = .active ∧ record.deviceId = site.device

def ReleasesOwn (world : ReceiverWorld) (state : ReceiverState) : Prop :=
  ∀ execution ∈ state.execution, execution.releasing = true → ∃ request, state.request .release = .ok request ∧
    request.valid = true ∧ request.agentId = site.agentId ∧ revoked request.instanceId = false ∧
      ∃ record, world.table (request.agentId, request.catalogId) = some record ∧ record.roomId = request.roomId ∧
        record.owner = ⟨request.instanceId, site.device, request.runId⟩

-- The file is one its task can go on with: it is bound to this Bridge and this
-- Agent, and to the session and the room of the record.
structure Resumable (service : String) (state : ReceiverState) (record : ReceptionRecord) : Prop where
  service : state.bridgeService = service
  agent : ∀ agentId ∈ state.agentId, agentId = site.agentId
  room : record.roomId = state.binding.roomId
  session : record.sessionKey = state.binding.sessionKey
  name : record.displayName = state.binding.displayName
  progress : ∃ progress, state.progress = .ok progress ∧ progress.valid = true
  formed : v7 site.agentId.uuid = true ∧ v7 site.catalogId.uuid = true ∧ matrixRoomReference state.binding.roomId = true ∧
    v7 state.binding.sessionKey = true ∧ validDisplayName state.binding.displayName = true

structure Startable (service : String) (world : ReceiverWorld) (state : ReceiverState) (record : ReceptionRecord) : Prop where
  resumable : Resumable site service state record
  leftover : ReleasesOwn site revoked world state
  fresh : ∀ execution ∈ state.execution, execution.releasing = false →
    v7 execution.runId.uuid = true ∧ execution.runId ≠ record.runId

end

section

variable {site : ReceiverSite} {table next : ReceptionTable}

theorem performed_stored (stored : Stored table) (turn : ReceptionTurn)
    (done : perform turn table = .ok (next, record)) : Stored next := by
  have stepped : ReceptionStep table turn next := .inr ⟨record, done⟩
  refine ⟨step_keyed stored.keyed stepped, ?_⟩
  intro key row found
  have written : next turn.call.key = some record ∧ record.progress.valid = true := by
    obtain ⟨authority, call⟩ := turn
    cases call with
    | execute principal device request =>
      obtain ⟨here, valid, _⟩ := execute_effect stored.keyed done
      exact ⟨here, valid⟩
    | drain principal agent catalog nextDevice =>
      obtain ⟨_, _, rest⟩ := unbind done
      obtain ⟨_, _, rest⟩ := unbind rest
      obtain ⟨found, sought, rest⟩ := unbind rest
      cases found with
      | none => cases rest
      | some known =>
        obtain ⟨_, _, rest⟩ := unbind rest
        obtain ⟨again, looked, built⟩ := unbind rest
        cases built
        exact find_again looked
  by_cases here : key = turn.call.key
  · rw [here, written.1] at found
    cases found
    exact written.2
  · have same : next key = table key := by
      rcases step_wrote stored.keyed stepped with same | ⟨created, _, _, built⟩ | ⟨_, after, _, _, _, built⟩
      · rw [same]
      · rw [built]
        exact put_other table turn.call.key.1 turn.call.key.2 created key here
      · rw [built]
        exact put_other table turn.call.key.1 turn.call.key.2 after key here
    exact stored.valid key row (same ▸ found)

theorem elsewhere_stored (stored : Stored table) (turn : ReceptionTurn) : Stored (elsewhere site table turn) := by
  have performed : Stored (((perform turn table).map Prod.fst).toOption.getD table) := by
    cases done : perform turn table with
    | error kind => exact stored
    | ok ended => exact performed_stored stored turn done
  unfold elsewhere
  split
  · split
    · exact stored
    · exact performed
  · exact performed

theorem drained_stored (stored : Stored table) (turn : ReceptionTurn) : Stored (drained table turn) := by
  unfold drained
  split
  · exact stored
  · cases done : perform turn table with
    | error kind => exact stored
    | ok ended => exact performed_stored stored turn done

theorem turns_stored (apply : ReceptionTable → ReceptionTurn → ReceptionTable)
    (keeps : ∀ table turn, Stored table → Stored (apply table turn)) (turns : List ReceptionTurn) (stored : Stored table) :
    Stored (turns.foldl apply table) := by
  induction turns generalizing table with
  | nil => exact stored
  | cons turn rest ih => exact ih (keeps table turn stored)

variable {world : ReceiverWorld}

theorem answer_stored {after : ReceiverWorld} {outcome : ReceiverOutcome}
    (stored : Stored world.table) (performed : answer site world op outcome = some (given, after)) : Stored after.table := by
  cases op with
  | control session request =>
    cases outcome <;> simp only [answer, reduceCtorEq] at performed
    rename_i drains executed lost
    obtain ⟨⟨told, table⟩, ended, built⟩ := Option.map_eq_some_iff.mp performed
    cases built
    have kept := turns_stored drained (fun _ turn kept => drained_stored kept turn) drains stored
    cases executed with
    | none =>
      obtain ⟨_, _, built⟩ := Option.map_eq_some_iff.mp ended
      cases built
      exact kept
    | some authority =>
      simp only [controlled] at ended
      cases done : execute authority (drains.foldl drained world.table) site.principal site.device request with
      | error kind =>
        rw [done] at ended
        obtain ⟨_, _, built⟩ := Option.map_eq_some_iff.mp ended
        cases built
        exact kept
      | ok ended' =>
        rw [done] at ended
        cases ended
        exact performed_stored kept ⟨authority, .execute site.principal site.device request⟩ done
  | nextBatch session cursor privateRoom =>
    cases outcome <;> simp only [answer, reduceCtorEq] at performed
    split at performed
    · split at performed
      · cases performed
        exact stored
      · cases performed
    · cases performed
      exact stored
  | resume session delivery batch =>
    cases outcome <;> simp only [answer, reduceCtorEq] at performed
    cases performed
    unfold turned
    split <;> exact stored
  | verify session record agentId seconds =>
    cases outcome <;> simp only [answer, reduceCtorEq] at performed
    cases performed
    unfold found
    split <;> exact stored
  | store state =>
    cases outcome <;> simp only [answer, reduceCtorEq] at performed
    split at performed
    · cases performed
      unfold AgentRoom.Reception.stored
      split <;> exact stored
    · cases performed
  | load | mint | openHostSession | waitUntilReady | initialCursor | listRooms | fullText | send | acknowledge | closeHostSession
  | sleep | emit =>
    cases outcome <;> simp only [answer, reduceCtorEq] at performed
    cases performed
    exact stored

theorem shared_step_stored (task : ReceiverTask) (world after : ReceiverWorld) (episode : SharedEpisode)
    (stored : Stored world.table) (stepped : SharedStep task world episode after) : Stored after.table := by
  cases episode with
  | process mode rounds attempts outcomes =>
    obtain ⟨rest, driven⟩ := stepped
    generalize run task.service mode rounds attempts = program at driven
    induction outcomes generalizing program world with
    | nil =>
      obtain ⟨_, same⟩ := (drives_nil ..).mp driven
      exact same ▸ stored
    | cons outcome later ih =>
      cases program with
      | done value => exact driven.elim
      | call op next =>
        obtain ⟨_, given, middle, performed, onward⟩ := driven
        have moved := turns_stored (elsewhere task.site) (fun _ turn kept => elsewhere_stored kept turn) outcome.turns stored
        exact ih middle (answer_stored moved performed) _ onward
  | resolve event action written =>
    rw [stepped]
    unfold resolveFile
    split
    · exact stored
    · split
      · exact stored
      · split <;> exact stored
  | elsewhere turn =>
    rw [stepped]
    exact elsewhere_stored stored turn

theorem shared_stored {task : ReceiverTask} {start : ReceiverWorld}
    (opening : SharedOpening task start) (run : Runs (SharedStep task) start episodes world) : Stored world.table :=
  runs_invariant (fun world => Stored world.table)
    (fun world episode after stored stepped => shared_step_stored task world after episode stored stepped)
    opening.stored run

end

section

variable {site : ReceiverSite} {revoked : AgentInstanceId → Bool} {authority : ReceptionAuthority} {table : ReceptionTable}
  {request : ReceptionRequest} {record : ReceptionRecord}

theorem find_stored (stored : Stored table) (held : table (agent, catalog) = some record) :
    find table agent catalog = .ok (some record) := by
  simp only [find, held, decode, ensure, stored.valid _ _ held, if_true]
  rfl

def rewritten (authority : ReceptionAuthority) (record changed : ReceptionRecord) (execution' : ReceptionExecution) : ReceptionRecord :=
  { record with
    instanceId := changed.instanceId
    deviceId := changed.deviceId
    runId := changed.runId
    status := execution'.mode
    nextDeviceId := execution'.nextDevice
    revision := changed.revision
    progress := changed.progress
    lastSeenUnixMs := authority.now }

theorem execute_checked (stored : Stored table) (grants : Grants site revoked authority) (valid : request.valid = true)
    (agent : request.agentId = site.agentId) (allowed : revoked request.instanceId = false)
    (held : table (request.agentId, request.catalogId) = some record) (room : record.roomId = request.roomId)
    (obeyed : obey site.device request record = .ok (changed, execution')) (progress : changed.progress.valid = true)
    (key : (changed.agentId, changed.catalogId) = (record.agentId, record.catalogId)) :
    execute authority table site.principal site.device request =
      .ok (put table request.agentId request.catalogId (rewritten authority record changed execution'),
        rewritten authority record changed execution') := by
  obtain ⟨sameAgent, sameCatalog⟩ := Prod.mk.inj (key.trans (stored.keyed _ record held))
  have saved : save authority table { changed with status := execution'.mode, nextDeviceId := execution'.nextDevice } =
      put table request.agentId request.catalogId (rewritten authority record changed execution') := by
    simp only [save, sameAgent, sameCatalog, held]
    rfl
  have again : findAgain (put table request.agentId request.catalogId (rewritten authority record changed execution'))
      request.agentId request.catalogId = .ok (rewritten authority record changed execution') := by
    simp only [findAgain, find, put_same, decode, ensure, rewritten, progress, if_true]
    rfl
  refine (bind_ok ..).mpr ⟨(), (ensure_ok ..).mpr valid, (bind_ok ..).mpr ⟨(), (ensure_ok ..).mpr ?_, ?_⟩⟩
  · exact fun _ => grants.send _ agent allowed
  · refine (bind_ok ..).mpr ⟨(), (ensure_ok ..).mpr ?_, (bind_ok ..).mpr ⟨(), (ensure_ok ..).mpr ?_, ?_⟩⟩
    · rw [agent]
      exact grants.owns
    · rw [agent, grants.instances, allowed]
      rfl
    · refine (bind_ok ..).mpr ⟨some record, find_stored stored held, ?_⟩
      refine (bind_ok ..).mpr ⟨(), (ensure_ok ..).mpr room, (bind_ok ..).mpr ⟨(changed, execution'), obeyed, ?_⟩⟩
      simp only [saved]
      exact (bind_ok ..).mpr ⟨_, again, rfl⟩

structure Free (site : ReceiverSite) (record : ReceptionRecord) : Prop where
  idle : record.status = .idle
  unreserved : ∀ device ∈ record.nextDeviceId, device = site.device

theorem claim_obeyed (free : Free site record) (initial : ReceptionProgress)
    (command : request.command = .claim record.sessionKey record.displayName initial) (fresh : request.runId ≠ record.runId) :
    ∃ changed execution', obey site.device request record = .ok (changed, execution') ∧ execution'.mode = .active ∧
      changed.deviceId = site.device ∧ changed.progress = record.progress ∧
        (changed.agentId, changed.catalogId) = (record.agentId, record.catalogId) := by
  let owner : ReceptionOwner := ⟨request.instanceId, site.device, request.runId⟩
  have notAgain : ¬ ((execution record).mode = .active ∧ (execution record).owner = some owner) := by
    intro both
    rw [show (execution record).mode = record.status from rfl, free.idle] at both
    cases both.1
  have idle : ¬ (execution record).mode ≠ .idle := not_not.mpr free.idle
  have device : ¬ (execution record).nextDevice.any (· ≠ owner.deviceId) = true := by
    cases reserved : record.nextDeviceId with
    | none => simp [execution, reserved]
    | some device => simp [execution, reserved, free.unreserved device reserved, owner]
  have stale : ¬ (execution record).owner.any (·.runId = owner.runId) = true := by
    simpa [execution, ReceptionRecord.owner, owner] using fun same => fresh same.symm
  have applies : applied (execution record) (.claim owner) = .ok ⟨some owner, .active, none⟩ := by
    rw [applied, ReceptionExecution.apply, if_neg notAgain, if_neg idle, if_neg device, if_neg stale]
    rfl
  refine ⟨{ record with instanceId := request.instanceId, deviceId := site.device, runId := request.runId },
    ⟨some owner, .active, none⟩, ?_, rfl, rfl, rfl, rfl⟩
  simp only [obey, command]
  exact (bind_ok ..).mpr ⟨(), (ensure_ok ..).mpr (by simp), (bind_ok ..).mpr ⟨_, applies, rfl⟩⟩

theorem release_obeyed (command : request.command = .release)
    (own : record.owner = ⟨request.instanceId, site.device, request.runId⟩) :
    ∃ execution', obey site.device request record = .ok (record, execution') ∧ execution'.mode = .idle ∧
      execution'.nextDevice = record.nextDeviceId := by
  have same : ¬ (execution record).owner ≠ some ⟨request.instanceId, site.device, request.runId⟩ :=
    not_not.mpr (congrArg some own)
  have applies : applied (execution record) (.release ⟨request.instanceId, site.device, request.runId⟩) =
      .ok { execution record with mode := .idle } := by
    rw [applied, ReceptionExecution.apply, if_neg same]
    rfl
  refine ⟨{ execution record with mode := .idle }, ?_, rfl, rfl⟩
  simp only [obey, command]
  exact (bind_ok ..).mpr ⟨_, applies, rfl⟩

theorem released_own (grants : Grants site revoked authority) (command : request.command = .release)
    (agent : request.agentId = site.agentId) {after : ReceptionRecord}
    (done : execute authority table site.principal site.device request = .ok (next, after)) :
    request.valid = true ∧ revoked request.instanceId = false ∧
      ∃ record, table (request.agentId, request.catalogId) = some record ∧ record.roomId = request.roomId ∧
        record.owner = ⟨request.instanceId, site.device, request.runId⟩ := by
  obtain ⟨_, valid, rest⟩ := unbind done
  obtain ⟨_, _, locked⟩ := unbind rest
  obtain ⟨_, _, rest⟩ := unbind locked
  obtain ⟨_, allowed, rest⟩ := unbind rest
  obtain ⟨found, sought, rest⟩ := unbind rest
  have allowed' : (!revoked request.instanceId) = true := by
    rw [← grants.instances, ← agent]
    exact (ensure_ok ..).mp allowed
  cases found with
  | none =>
    simp only [create, command, reduceCtorEq] at rest
  | some record =>
    obtain ⟨_, room, rest⟩ := unbind rest
    obtain ⟨ended, obeyed, _⟩ := unbind rest
    refine ⟨(ensure_ok ..).mp valid, by simpa using allowed', record, find_some sought, (ensure_ok ..).mp room, ?_⟩
    simp only [obey, command] at obeyed
    obtain ⟨execution', applies, _⟩ := unbind obeyed
    by_contra other
    have stale : (execution record).owner ≠ some ⟨request.instanceId, site.device, request.runId⟩ :=
      fun same => other (Option.some.inj same)
    rw [applied, ReceptionExecution.apply, if_pos stale] at applies
    cases applies

end

section

variable {site : ReceiverSite} {revoked : AgentInstanceId → Bool} {α : Type} {receiver : ReceiverProcess} {world : ReceiverWorld}

abbrev Gets (site : ReceiverSite) (revoked : AgentInstanceId → Bool) (routine : Receiver α)
    (post : α → ReceiverProcess → ReceiverWorld → Prop) (receiver : ReceiverProcess) (world : ReceiverWorld) : Prop :=
  Routine.Passes (receiverMachine site) (Served site revoked) (HoldsRecord site) post routine receiver world

variable {session : String}

theorem gets_state
    (led : Gets site revoked (next receiver.state) post receiver world) : Gets site revoked (getState >>= next) post receiver world := led

theorem gets_change (led : Gets site revoked next post { receiver with state } world) :
    Gets site revoked (setState state >>= fun _ => next) post receiver world := led

theorem gets_settled (value : β) (found : known = .ok value)
    (led : Gets site revoked (next value) post receiver world) : Gets site revoked (settle known >>= next) post receiver world := by
  subst found
  exact led

theorem served_save {outcome : ReceiverOutcome} {after : ReceiverWorld} (served : Served site revoked world (.store state) outcome)
    (performed : answer site world (.store state) outcome = some (given, after)) :
    given = .ok () ∧ after = stored world state true := by
  cases outcome <;> simp [answer] at performed
  rename_i written failure
  obtain ⟨writes, rfl, rfl⟩ := performed
  have none : failure = none := served
  subst none
  have whole : written = true := writes rfl
  subst whole
  exact ⟨rfl, rfl⟩

theorem save_gets {post : Unit → ReceiverProcess → ReceiverWorld → Prop}
    (done : post () receiver (stored world receiver.state true)) : Gets site revoked saveState post receiver world := by
  refine Routine.passes_ask ⟨.stored true none, .ok (), stored world receiver.state true, rfl, rfl⟩ ?_
  intro outcome given after served performed
  obtain ⟨rfl, rfl⟩ := served_save served performed
  exact .inr ⟨(), rfl, done⟩

theorem mint_gets
    (led : ∀ id, v7 id = true → (∀ record ∈ site.record world, record.runId ≠ ⟨id⟩) → Gets site revoked (next id) post receiver world) :
    Gets site revoked (Routine.ask .mint (fun id => .ok id) >>= next) post receiver world := by
  have possible : ∃ id, v7 id = true ∧ ∀ record ∈ site.record world, record.runId ≠ ⟨id⟩ := by
    cases held : site.record world with
    | none => exact ⟨0x019b76daa80070008000000000000001, by decide +kernel, fun _ none => (by cases none)⟩
    | some record =>
      by_cases used : record.runId = ⟨0x019b76daa80070008000000000000001⟩
      · refine ⟨0x019b76daa80070008000000000000002, by decide +kernel, ?_⟩
        rintro _ ⟨⟩
        rw [used]
        simp
      · refine ⟨0x019b76daa80070008000000000000001, by decide +kernel, ?_⟩
        rintro _ ⟨⟩
        exact used
  obtain ⟨id, formed, new⟩ := possible
  refine Routine.passes_asked ⟨.minted id, id, world, ⟨formed, new⟩, rfl⟩ ?_
  intro outcome given after served performed
  cases outcome <;> simp only [receiverMachine, answer, reduceCtorEq] at performed
  cases performed
  exact ⟨_, rfl, led _ served.1 served.2⟩

theorem open_session_gets {post : HostSession → ReceiverProcess → ReceiverWorld → Prop}
    (done : ∀ session, post session { receiver with session := some session.sessionId } (noted world .idle)) :
    Gets site revoked openSession post receiver world := by
  refine gets_state (Routine.passes_asked ⟨.opened (.ok ⟨"session", false, none⟩), _, _, ⟨_, rfl, rfl⟩, rfl⟩ ?_)
  intro outcome given after served performed
  cases outcome <;> simp only [receiverMachine, answer, reduceCtorEq] at performed
  cases performed
  obtain ⟨session, told, open_⟩ := served
  have checked : ensure (ReceptionFailure.local (session.errorCode.getD "receiver.session_failed")) (session.ended = false) = .ok () :=
    (ensure_ok ..).mpr open_
  exact ⟨session, told, gets_settled () checked (Routine.passes_pure (done session))⟩

theorem wait_gets (available : ∃ instanceId : AgentInstanceId, v7 instanceId.uuid = true ∧ revoked instanceId = false)
    (led : ∀ instanceId, v7 instanceId.uuid = true → revoked instanceId = false →
      Gets site revoked (next (site.summary instanceId)) post receiver world) :
    Gets site revoked (Routine.ask (.waitUntilReady session) id >>= next) post receiver world := by
  obtain ⟨instanceId, formed, allowed⟩ := available
  refine Routine.passes_asked ⟨.readied (.ok instanceId), _, _, ⟨_, rfl, formed, allowed⟩, rfl⟩ ?_
  intro outcome given after served performed
  cases outcome <;> simp only [receiverMachine, answer, reduceCtorEq] at performed
  cases performed
  obtain ⟨instanceId, told, formed, allowed⟩ := served
  subst told
  exact ⟨_, rfl, led instanceId formed allowed⟩

theorem initial_cursor_gets {start : ReceiverStart}
    (led : ∀ cursor : Option String, cursor.all eventReference = true → Gets site revoked (next cursor) post receiver world) :
    Gets site revoked (Routine.ask (.initialCursor session start) id >>= next) post receiver world := by
  refine Routine.passes_asked ⟨.placed (.ok none), _, _, ⟨none, rfl, rfl⟩, rfl⟩ ?_
  intro outcome given after served performed
  cases outcome <;> simp only [receiverMachine, answer, reduceCtorEq] at performed
  cases performed
  obtain ⟨cursor, told, formed⟩ := served
  exact ⟨cursor, told, led cursor formed⟩

def granting (revoked : AgentInstanceId → Bool) : ReceptionAuthority where
  maySend _ := true
  ownsAgent _ _ := true
  instanceAllowed instanceId _ _ := !revoked instanceId
  agentSlug _ _ := true
  deviceAllowed _ _ := true
  instanceRevoked := revoked
  matrixDeviceRevoked := revoked
  now := 0

theorem granting_grants : Grants site revoked (granting revoked) := ⟨fun _ _ _ => rfl, rfl, fun _ => rfl⟩

theorem control_gets {session : Option String} {post : ReceptionRecord → ReceiverProcess → ReceiverWorld → Prop}
    (carried : ∀ authority, Grants site revoked authority → ∃ table record,
      execute authority world.table site.principal site.device request = .ok (table, record) ∧
        (HoldsRecord site { world with table } ∨ post record receiver { world with table })) :
    Gets site revoked (control session request) post receiver world := by
  refine Routine.passes_ask ?_ ?_
  · obtain ⟨table, record, done, _⟩ := carried (granting revoked) granting_grants
    refine ⟨.controlled [] (some (granting revoked)) none, .ok record, { world with table }, ?_, ?_⟩
    · exact ⟨rfl, _, rfl, granting_grants, by rw [done]; rfl⟩
    · simp only [receiverMachine, answer, controlled, List.foldl_nil, done]
      rfl
  · intro outcome given after served performed
    cases outcome <;> simp only [receiverMachine, answer, reduceCtorEq] at performed
    obtain ⟨none, authority, same, grants, lost⟩ := served
    obtain ⟨table, record, done, reached⟩ := carried authority grants
    subst none
    subst same
    rw [done] at lost
    subst lost
    simp only [controlled, List.foldl_nil, done, refusedWith] at performed
    cases performed
    rcases reached with now | reached
    · exact .inl now
    · exact .inr ⟨record, rfl, reached⟩

end

section

variable {site : ReceiverSite} {revoked : AgentInstanceId → Bool} {receiver : ReceiverProcess} {world : ReceiverWorld}
  {record : ReceptionRecord} {service : String}

structure Waits (site : ReceiverSite) (world : ReceiverWorld) (record : ReceptionRecord) : Prop where
  stored : Stored world.table
  held : world.table site.key = some record
  free : Free site record

structure Asks (site : ReceiverSite) (revoked : AgentInstanceId → Bool) (service : String) (state : ReceiverState)
    (record : ReceptionRecord) : Prop where
  resumable : Resumable site service state record
  agent : state.agentId = some site.agentId
  catalog : state.roomCatalogId = some site.catalogId
  instance_ : ∃ instanceId, state.instanceId = some instanceId ∧ v7 instanceId.uuid = true ∧ revoked instanceId = false
  fresh : ∀ execution ∈ state.execution, v7 execution.runId.uuid = true ∧ execution.runId ≠ record.runId

variable {session : String}

theorem claim_gets (waits : Waits site world record) (asks : Asks site revoked service receiver.state record) :
    Gets site revoked (claim session) (fun _ _ _ => False) receiver world := by
  refine Routine.passes_bind (fun _ receiver' world' => (∃ execution, receiver'.state = { receiver.state with execution := some execution } ∧
    v7 execution.runId.uuid = true ∧ execution.runId ≠ record.runId) ∧ world'.table = world.table) ?_ ?_
  · refine gets_state ?_
    by_cases none : receiver.state.execution = none
    · simp only [none, if_true]
      refine mint_gets ?_
      intro id formed new
      refine gets_change (save_gets ⟨⟨_, rfl, formed, fun same => new record waits.held same.symm⟩, rfl⟩)
    · simp only [none, if_false]
      obtain ⟨execution, runs⟩ := Option.ne_none_iff_exists'.mp none
      obtain ⟨formed, new⟩ := asks.fresh execution runs
      exact Routine.passes_pure ⟨⟨execution, by rw [← runs], formed, new⟩, rfl⟩
  · rintro _ receiver' world' ⟨⟨execution, state', formed, new⟩, table⟩
    obtain ⟨initial, told, valid⟩ := asks.resumable.progress
    obtain ⟨instanceId, instance_, formed', allowed⟩ := asks.instance_
    obtain ⟨agentFormed, catalogFormed, roomFormed, sessionFormed, nameFormed⟩ := asks.resumable.formed
    let command : ReceptionCommand := .claim receiver.state.binding.sessionKey receiver.state.binding.displayName initial
    let request : ReceptionRequest :=
      ⟨site.agentId, instanceId, site.catalogId, receiver.state.binding.roomId, execution.runId, command⟩
    have asked : receiver'.state.request command = .ok request := by
      rw [state']
      simp only [ReceiverState.request, asks.agent, asks.catalog, instance_, required]
      rfl
    have told' : receiver'.state.progress = .ok initial := by
      rw [state']
      exact told
    have binding : receiver'.state.binding = receiver.state.binding := by rw [state']
    have valid' : request.valid = true := by
      simp [request, ReceptionRequest.valid, agentFormed, catalogFormed, roomFormed, formed, formed', command,
        ReceptionCommand.valid, sessionFormed, nameFormed, valid]
    refine gets_state (gets_settled initial told' ?_)
    rw [binding]
    refine gets_settled request asked ?_
    refine Routine.passes_bind (fun _ _ _ => False) (Routine.passes_attempt
      (control_gets ?_)) (fun _ _ _ never => never.elim)
    intro authority grants
    have stored' : Stored world'.table := table ▸ waits.stored
    have held' : world'.table (request.agentId, request.catalogId) = some record := table ▸ waits.held
    obtain ⟨changed, execution', obeyed, active, device, progress, key⟩ := @claim_obeyed site request record waits.free initial
      (by rw [asks.resumable.session, asks.resumable.name]) new
    have done := execute_checked stored' grants valid' rfl allowed held' asks.resumable.room obeyed
      (progress ▸ waits.stored.valid _ record waits.held) key
    refine ⟨_, _, done, .inl ⟨_, put_same .., ?_, ?_⟩⟩
    · exact active
    · exact device

theorem settled_gets (value : α)
    (found : known = .ok value) (reached : post value receiver world) : Gets site revoked (settle known) post receiver world := by
  subst found
  exact Routine.passes_pure reached

theorem last_received_valid {state : ReceiverState} (known : state.progress = .ok progress)
    (valid : progress.valid = true) : (state.lastReceived.map (·.pending)).all ReceptionPending.valid = true := by
  cases last : state.lastReceived with
  | none => rfl
  | some record =>
    have delivery : state.lastDelivery = some record := (Option.filter_eq_some_iff.mp last).1
    simp only [ReceiverState.progress, delivery, required, last, Option.map_some] at known
    simp only [ReceptionProgress.valid, Bool.and_eq_true] at valid
    split at known
    · cases known
      simpa using valid.1.2
    · cases known
      simpa using valid.2

theorem identify_gets {instanceId : AgentInstanceId} (formed : v7 instanceId.uuid = true)
    (allowed : revoked instanceId = false) (resumable : Resumable site service receiver.state record)
    (fresh : ∀ execution ∈ receiver.state.execution, v7 execution.runId.uuid = true ∧ execution.runId ≠ record.runId) :
    Gets site revoked (identify session (site.summary instanceId))
      (fun _ receiver' world' => Asks site revoked service receiver'.state record ∧ world' = world) receiver world := by
  refine gets_state (gets_change ?_)
  obtain ⟨progress, told, valid⟩ := resumable.progress
  cases bound : receiver.state.agentId with
  | some agentId =>
    have same : agentId = site.agentId := resumable.agent agentId bound
    refine settled_gets () ((ensure_ok ..).mpr same) ⟨⟨?_, ?_, rfl, ⟨instanceId, rfl, formed, allowed⟩, fresh⟩, rfl⟩
    · exact ⟨resumable.service, fun _ told => resumable.agent _ (bound.trans told), resumable.room, resumable.session, resumable.name, ⟨progress, told, valid⟩,
        resumable.formed⟩
    · exact congrArg some same
  | none =>
    refine initial_cursor_gets ?_
    intro cursor formed'
    refine .done _ _ ⟨(), rfl, ⟨⟨resumable.service, ?_, resumable.room, resumable.session, resumable.name, ?_, resumable.formed⟩, rfl,
      rfl, ⟨instanceId, rfl, formed, allowed⟩, fresh⟩, rfl⟩
    · rintro _ ⟨⟩
      rfl
    · refine ⟨⟨cursor, none, receiver.state.lastReceived.map (·.pending)⟩, rfl, ?_⟩
      simp [ReceptionProgress.valid, formed', last_received_valid told valid]

theorem receive_connected_gets (waits : Waits site world record) (resumable : Resumable site service receiver.state record)
    (fresh : ∀ execution ∈ receiver.state.execution, v7 execution.runId.uuid = true ∧ execution.runId ≠ record.runId)
    (available : ∃ instanceId : AgentInstanceId, v7 instanceId.uuid = true ∧ revoked instanceId = false) :
    Gets site revoked (receiveConnected mode rounds) (fun _ _ _ => False) receiver world := by
  refine Routine.passes_bind (fun _ receiver' world' => receiver'.state = receiver.state ∧ world'.table = world.table)
    (open_session_gets fun session => ⟨rfl, rfl⟩) ?_
  rintro session receiver' world' ⟨state, table⟩
  refine wait_gets available ?_
  intro instanceId formed allowed
  refine Routine.passes_bind (fun _ receiver'' world'' => Asks site revoked service receiver''.state record ∧ world'' = world')
    (identify_gets formed allowed (state ▸ resumable) (state ▸ fresh)) ?_
  rintro _ receiver'' world'' ⟨asks, here⟩
  subst here
  refine Routine.passes_bind (fun _ receiver3 world3 => receiver3 = receiver'' ∧ world3.table = world''.table)
    (save_gets ⟨rfl, rfl⟩) ?_
  rintro _ receiver3 world3 ⟨same, table'⟩
  subst same
  have onward : Waits site world3 record :=
    ⟨table' ▸ table ▸ waits.stored, (congrFun (table'.trans table) _).trans waits.held, waits.free⟩
  exact Routine.passes_bind (fun _ _ _ => False) (claim_gets onward asks) fun _ _ _ never => never.elim

theorem released_waits (waits : Waits site world record) (resumable : Resumable site service receiver.state record)
    (grants : Grants site revoked authority) (valid : request.valid = true) (agent : request.agentId = site.agentId)
    (allowed : revoked request.instanceId = false) (command : request.command = .release)
    (held : world.table (request.agentId, request.catalogId) = some own) (room : own.roomId = request.roomId)
    (owner : own.owner = ⟨request.instanceId, site.device, request.runId⟩) :
    ∃ table after, execute authority world.table site.principal site.device request = .ok (table, after) ∧ after.status = .idle ∧
      ∃ record', Waits site { world with table } record' ∧ Resumable site service receiver.state record' := by
  obtain ⟨execution', obeyed, idle, next⟩ := @release_obeyed site request own command owner
  have done := execute_checked waits.stored grants valid agent allowed held room obeyed
    (waits.stored.valid _ own held) rfl
  have stored' := performed_stored waits.stored ⟨authority, .execute site.principal site.device request⟩ done
  refine ⟨_, _, done, idle, ?_⟩
  by_cases here : site.key = (request.agentId, request.catalogId)
  · have same : own = record := Option.some.inj ((here ▸ held).symm.trans waits.held)
    subst same
    refine ⟨rewritten authority own own execution', ⟨stored', ?_, idle, ?_⟩, ?_⟩
    · exact here ▸ put_same ..
    · intro device reserved
      exact waits.free.unreserved device (next ▸ reserved)
    · exact ⟨resumable.service, resumable.agent, resumable.room, resumable.session, resumable.name, resumable.progress,
        resumable.formed⟩
  · refine ⟨record, ⟨stored', ?_, waits.free⟩, resumable⟩
    exact (put_other _ _ _ _ _ here).trans waits.held

theorem finish_release_gets (waits : Waits site world record) (startable : Startable site revoked service world receiver.state record) :
    Gets site revoked finishRelease (fun _ receiver' world' => ∃ record', Waits site world' record' ∧
      Resumable site service receiver'.state record' ∧ ∀ execution ∈ receiver'.state.execution,
        v7 execution.runId.uuid = true ∧ execution.runId ≠ record'.runId) receiver world := by
  refine gets_state ?_
  by_cases leaving : receiver.state.execution.any (·.releasing) = true
  · rw [if_pos leaving]
    obtain ⟨execution, runs, releasing⟩ := (Option.any_eq_true ..).mp leaving
    obtain ⟨request, asked, valid, agent, allowed, own, held, room, owner⟩ := startable.leftover execution runs releasing
    have command : request.command = .release := by
      obtain ⟨_, _, rest⟩ := unbind asked
      obtain ⟨_, _, rest⟩ := unbind rest
      obtain ⟨_, _, rest⟩ := unbind rest
      obtain ⟨_, _, built⟩ := unbind rest
      cases built
      rfl
    have same : { receiver.state with execution := some { execution with releasing := true } } = receiver.state := by
      rw [← releasing, ← runs]
    refine gets_state ?_
    rw [runs]
    refine gets_state (gets_change ?_)
    rw [same]
    refine Routine.passes_bind (fun _ receiver' world' => receiver' = receiver ∧ world'.table = world.table)
      (save_gets ⟨rfl, rfl⟩) ?_
    rintro _ receiver' world' ⟨here, table⟩
    subst here
    refine gets_state (gets_settled request asked ?_)
    have waits' : Waits site world' record := ⟨table ▸ waits.stored, table ▸ waits.held, waits.free⟩
    refine Routine.passes_bind (fun answered receiver'' world'' => answered.status = .idle ∧ receiver'' = receiver' ∧
      ∃ record', Waits site world'' record' ∧ Resumable site service receiver'.state record')
      (control_gets ?_) ?_
    · intro authority grants
      obtain ⟨next, after, done, idle, rest⟩ := released_waits waits' startable.resumable grants valid agent
        allowed command (table ▸ held) room owner
      exact ⟨next, after, done, .inr ⟨idle, rfl, rest⟩⟩
    · rintro answered receiver'' world'' ⟨idle, here, record', onward, resumable⟩
      subst here
      refine gets_settled () ((ensure_ok ..).mpr idle) (gets_change (save_gets ?_))
      refine ⟨record', ⟨onward.stored, onward.held, onward.free⟩, ?_, fun _ none => (by cases none)⟩
      exact ⟨resumable.service, resumable.agent, resumable.room, resumable.session, resumable.name, resumable.progress,
        resumable.formed⟩
  · rw [if_neg leaving]
    refine Routine.passes_pure ⟨record, waits, startable.resumable, ?_⟩
    intro execution runs
    have kept : execution.releasing = false := by
      simpa [Option.mem_def.mp runs] using leaving
    exact startable.fresh execution runs kept

theorem supervise_gets {attempts : Nat} (waits : Waits site world record)
    (startable : Startable site revoked service world receiver.state record)
    (available : ∃ instanceId : AgentInstanceId, v7 instanceId.uuid = true ∧ revoked instanceId = false) :
    Gets site revoked (supervise mode rounds (attempts + 1)) (fun _ _ _ => False) receiver world := by
  refine Routine.passes_bind _ (finish_release_gets waits startable) ?_
  rintro _ receiver' world' ⟨record', waits', resumable, fresh⟩
  refine Routine.passes_bind (fun _ _ _ => False) (Routine.passes_attempt ?_) fun _ _ _ never => never.elim
  exact Routine.passes_bind (fun _ _ _ => False) (Routine.passes_attempt
    (receive_connected_gets waits' resumable fresh available)) fun _ _ _ never => never.elim

end

section

variable {site : ReceiverSite} {revoked : AgentInstanceId → Bool} {receiver : ReceiverProcess} {world : ReceiverWorld}
  {service : String}

abbrev Refuses {α : Type} (site : ReceiverSite) (revoked : AgentInstanceId → Bool) (routine : Receiver α)
    (receiver : ReceiverProcess) (world : ReceiverWorld) : Prop :=
  Routine.Holds (receiverMachine site) (Served site revoked) (fun world => ¬ HoldsRecord site world)
    (fun ended _ _ => ∃ halt, ended = .error halt) routine receiver world

theorem holds_record_table (same : other.table = world.table) (held : HoldsRecord site other) : HoldsRecord site world := by
  obtain ⟨record, found, rest⟩ := held
  exact ⟨record, (congrFun same _).symm.trans found, rest⟩

variable {α : Type}

theorem refuses_state (led : Refuses site revoked (next receiver.state) receiver world) :
    Refuses site revoked (getState >>= next) receiver world := led

variable {next : Receiver α}

theorem refuses_change (led : Refuses site revoked next { receiver with state } world) :
    Refuses site revoked (setState state >>= fun _ => next) receiver world := led

theorem refuses_settled {known : ReceiverResult β} {next : β → Receiver α} (notHeld : ¬ HoldsRecord site world)
    (found : ∀ value, known = .ok value → Refuses site revoked (next value) receiver world) :
    Refuses site revoked (settle known >>= next) receiver world := by
  cases known with
  | ok value => exact found value rfl
  | error failure => exact ⟨notHeld, _, rfl⟩

theorem save_refuses (notHeld : ¬ HoldsRecord site world)
    (led : ∀ world', world'.table = world.table → Refuses site revoked next receiver world') :
    Refuses site revoked (saveState >>= fun _ => next) receiver world := by
  have ask : Routine.Holds (receiverMachine site) (Served site revoked) (fun world => ¬ HoldsRecord site world)
      (Routine.Onward (fun (ended : Except Halt α) _ _ => ∃ halt, ended = .error halt)
        fun (_ : Unit) receiver' world' => receiver' = receiver ∧ world'.table = world.table) saveState receiver world := by
    refine Routine.holds_ask notHeld ?_
    intro outcome given after served performed
    obtain ⟨rfl, rfl⟩ := served_save served performed
    exact ⟨fun held => notHeld (holds_record_table rfl held), rfl, rfl⟩
  refine Routine.holds_bind _ ask ?_
  rintro _ receiver' world' _ ⟨here, table⟩
  subst here
  exact led world' table

theorem finish_release_refuses (notHeld : ¬ HoldsRecord site world) (leaving : receiver.state.execution.any (·.releasing) = true)
    (bound : ∀ agentId ∈ receiver.state.agentId, agentId = site.agentId)
    (foreign : ¬ ReleasesOwn site revoked world receiver.state) : Refuses site revoked finishRelease receiver world := by
  obtain ⟨execution, runs, releasing⟩ := (Option.any_eq_true ..).mp leaving
  have same : { receiver.state with execution := some { execution with releasing := true } } = receiver.state := by
    rw [← releasing, ← runs]
  refine refuses_state ?_
  rw [if_pos leaving]
  refine refuses_state ?_
  rw [runs]
  refine refuses_state (refuses_change ?_)
  rw [same]
  refine save_refuses notHeld ?_
  intro world' table
  have notHeld' : ¬ HoldsRecord site world' := fun held => notHeld (holds_record_table table held)
  refine refuses_state (refuses_settled notHeld' ?_)
  intro request asked
  obtain ⟨agentId, agent, rest⟩ := unbind asked
  obtain ⟨_, _, rest⟩ := unbind rest
  obtain ⟨_, _, rest⟩ := unbind rest
  obtain ⟨_, _, built⟩ := unbind rest
  have sent : request.command = .release ∧ request.agentId = site.agentId := by
    cases built
    exact ⟨rfl, bound agentId ((required_ok ..).mp agent)⟩
  have refused : Routine.Holds (receiverMachine site) (Served site revoked) (fun world => ¬ HoldsRecord site world)
      (Routine.Onward (fun (ended : Except Halt Unit) _ _ => ∃ halt, ended = .error halt) fun _ _ _ => False)
      (control none request) receiver world' := by
    refine Routine.holds_ask notHeld' ?_
    intro outcome given after served performed
    cases outcome <;> simp only [receiverMachine, answer, reduceCtorEq] at performed
    obtain ⟨none, authority, same, grants, lost⟩ := served
    subst none
    subst same
    cases done : execute authority world'.table site.principal site.device request with
    | ok ended =>
      obtain ⟨valid, allowed, own, held, room, owner⟩ := released_own grants sent.1 sent.2 done
      refine absurd ?_ foreign
      intro other runs' _
      exact ⟨request, asked, valid, sent.2, allowed, own, (congrFun table _).symm.trans held, room, owner⟩
    | error kind =>
      rw [done] at lost
      subst lost
      simp only [controlled, List.foldl_nil, done, refusedWith] at performed
      cases performed
      exact ⟨notHeld', _, rfl⟩
  exact Routine.holds_bind _ refused fun _ _ _ _ never => never.elim

end

section

variable (task : ReceiverTask) (revoked : AgentInstanceId → Bool) (mode : ReceiverMode) (rounds attempts : Nat)

variable {state : ReceiverState}

theorem run_inevitable (world : ReceiverWorld) (record : ReceptionRecord) (saved : world.file = some state)
    (waits : Waits task.site world record) (startable : Startable task.site revoked task.service world state record)
    (available : ∃ instanceId : AgentInstanceId, v7 instanceId.uuid = true ∧ revoked instanceId = false) :
    Inevitable (receiverMachine task.site) (Served task.site revoked) (HoldsRecord task.site)
      (run task.service mode rounds (attempts + 1)) world := by
  have started : start task.service (.ok world.file) = .ok state := by
    rw [saved]
    exact (bind_ok ..).mpr ⟨_, rfl, (bind_ok ..).mpr ⟨state, rfl, (bind_ok ..).mpr ⟨(),
      (ensure_ok ..).mpr startable.resumable.service, rfl⟩⟩⟩
  refine .call _ _ _ ⟨.loaded, _, _, trivial, rfl⟩ ?_
  intro outcome given after _ performed
  cases outcome <;> simp only [receiverMachine, answer, reduceCtorEq] at performed
  cases performed
  simp only [started]
  refine comes_bind (supervise_gets waits startable available) ?_
  rintro ended final ⟨_, _, never⟩
  exact never.elim

theorem run_refused (saved : world.file = some state)
    (notHeld : ¬ HoldsRecord task.site world) (leaving : state.execution.any (·.releasing) = true)
    (bound : ∀ agentId ∈ state.agentId, agentId = task.site.agentId) (foreign : ¬ ReleasesOwn task.site revoked world state) :
    ¬ Inevitable (receiverMachine task.site) (Served task.site revoked) (HoldsRecord task.site)
      (run task.service mode rounds attempts) world := by
  refine never_inevitable (fun ended _ => ∃ halt, ended.1 = .error halt) ⟨notHeld, ?_⟩
  intro outcome given after _ performed
  cases outcome <;> simp only [receiverMachine, answer, reduceCtorEq] at performed
  cases performed
  cases started : start task.service (.ok world.file) with
  | error failure =>
    simp only [started]
    exact ⟨notHeld, _, rfl⟩
  | ok known =>
    have same : known = state := by
      rw [saved] at started
      obtain ⟨_, found, rest⟩ := unbind started
      cases found
      obtain ⟨_, found, rest⟩ := unbind rest
      cases found
      obtain ⟨_, _, built⟩ := unbind rest
      cases built
      rfl
    subst same
    simp only [started]
    have refused : Refuses task.site revoked finishRelease ⟨known, none⟩ world := finish_release_refuses notHeld leaving bound foreign
    have supervised : Refuses task.site revoked (supervise mode rounds attempts) ⟨known, none⟩ world := by
      refine Routine.holds_bind (fun _ _ _ => False) (Routine.holds_mono refused ?_)
        fun _ _ _ _ never => never.elim
      rintro ended _ _ _ ⟨halt, told⟩
      subst told
      exact ⟨halt, rfl⟩
    refine keeps_bind (fun (ended : Except Halt Unit × ReceiverProcess) _ => ∃ halt, ended.1 = .error halt) _ _ supervised ?_
    rintro ended final holds ⟨halt, told⟩
    exact ⟨holds, halt, told⟩

end

def playShared (task : ReceiverTask) (world : ReceiverWorld) : SharedEpisode → Option ReceiverWorld
  | .process mode rounds attempts outcomes =>
    play (sharedMachine task.site) (fun _ _ _ => True) (run task.service mode rounds attempts) world outcomes
  | .resolve event action written => some (resolveFile world event action written)
  | .elsewhere turn => some { world with table := elsewhere task.site world.table turn }

theorem played_shared (task : ReceiverTask) (opened final : ReceiverWorld) (episodes : List SharedEpisode)
    (played : episodes.foldlM (playShared task) opened = some final) : Runs (SharedStep task) opened episodes final := by
  induction episodes generalizing opened with
  | nil => exact Option.some.inj played
  | cons episode later ih =>
    rw [List.foldlM_cons] at played
    obtain ⟨next, first, onward⟩ := Option.bind_eq_some_iff.mp played
    refine ⟨next, ?_, ih next onward⟩
    cases episode with
    | process mode rounds attempts outcomes => exact play_drives _ _ _ _ _ _ first
    | resolve event action written => exact (Option.some.inj first).symm
    | elsewhere turn => exact (Option.some.inj first).symm

def undisturbed (outcomes : List ReceiverOutcome) : List SharedOutcome := outcomes.map fun outcome => ⟨[], outcome⟩

def losesRelease : SharedEpisode :=
  .process .listen 0 1 (undisturbed (.loaded :: connects ++ [.placed (.ok none), written, .minted 0x019b76daa80070008000000000000006,
    written, carriedOut, written, .emitted none, .roomsListed (.ok false), .passed (.ok ()), written,
    .controlled [] (some openAuthority) (some (.failure ⟨"network.unavailable", true⟩))]))

def otherTurn (command : ReceptionCommand) : ReceptionTurn where
  authority := openAuthority
  call := .execute ⟨0x019b76daa80070008000000000000001⟩ ⟨0x019b76daa80070008000000000000032⟩ {
    agentId := lobbyKey.1
    instanceId := ⟨0x019b76daa80070008000000000000034⟩
    catalogId := lobbyKey.2
    roomId := "!lobby:example.org"
    runId := ⟨0x019b76daa80070008000000000000036⟩
    command }

def otherOwner : List SharedEpisode :=
  [.elsewhere (otherTurn (.claim 0x019b76daa80070008000000000000007 "Ada" freshProgress)), .elsewhere (otherTurn .release)]

def leftState : ReceiverState where
  execution := some ⟨⟨0x019b76daa80070008000000000000006⟩, 0, true⟩
  binding := lobbyBinding
  bridgeService := "bridge"
  agentId := some lobbyKey.1
  roomCatalogId := some lobbyKey.2
  instanceId := some ⟨0x019b76daa80070008000000000000004⟩
  checkpoint := .ready none
  enabled := false
  lastDelivery := none

def leftRecord (instanceId device runId : Nat) : ReceptionRecord :=
  { lobbyRecord 0 freshProgress with
    instanceId := ⟨instanceId⟩
    deviceId := ⟨device⟩
    runId := ⟨runId⟩
    status := .idle }

def ownLeft : ReceptionRecord :=
  leftRecord 0x019b76daa80070008000000000000004 0x019b76daa80070008000000000000002 0x019b76daa80070008000000000000006

def otherLeft : ReceptionRecord :=
  leftRecord 0x019b76daa80070008000000000000034 0x019b76daa80070008000000000000032 0x019b76daa80070008000000000000036

def leftWith (world : ReceiverWorld) : Option ReceiverState × Option ReceptionRecord := (world.file, lobbyTask.site.record world)

theorem lobby_shared_opening : SharedOpening lobbyTask lobbyStart :=
  ⟨⟨lobbyBinding, rfl⟩, fun _ _ found => (by cases found), fun _ _ found => (by cases found)⟩

theorem left_resumable (instanceId device runId : Nat) :
    Resumable lobbyTask.site "bridge" leftState (leftRecord instanceId device runId) where
  service := rfl
  agent := by
    rintro _ ⟨⟩
    rfl
  room := rfl
  session := rfl
  name := rfl
  progress := ⟨freshProgress, rfl, by decide⟩
  formed := by decide +kernel

theorem left_free (instanceId device runId : Nat) : Free lobbyTask.site (leftRecord instanceId device runId) :=
  ⟨rfl, fun _ reserved => (by cases reserved)⟩

theorem left_fresh {record : ReceptionRecord} (execution : ReceiverExecution) (runs : execution ∈ leftState.execution)
    (kept : execution.releasing = false) : v7 execution.runId.uuid = true ∧ execution.runId ≠ record.runId := by
  cases runs
  cases kept

def leftRequest : ReceptionRequest where
  agentId := lobbyKey.1
  instanceId := ⟨0x019b76daa80070008000000000000004⟩
  catalogId := lobbyKey.2
  roomId := "!lobby:example.org"
  runId := ⟨0x019b76daa80070008000000000000006⟩
  command := .release

-- A start that must claim the record that waits for it, whatever is left over.
def StartsAgain (task : ReceiverTask) (opened : ReceiverWorld) : Prop :=
  ∀ episodes world revoked state record, Runs (SharedStep task) opened episodes world → world.file = some state →
    world.table task.site.key = some record → Free task.site record → Resumable task.site task.service state record →
      (∃ instanceId : AgentInstanceId, v7 instanceId.uuid = true ∧ revoked instanceId = false) →
        Inevitable (receiverMachine task.site) (Served task.site revoked) (HoldsRecord task.site) (run task.service .listen 1 1) world

end AgentRoom.Reception
