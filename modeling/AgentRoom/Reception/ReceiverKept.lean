import AgentRoom.Library.Log
import AgentRoom.Reception.ReceiverWorld

namespace AgentRoom.Reception

open Library

def turnOf : ReceiverFact → Option HostTurn
  | .turn turn => some turn
  | _ => none

def ReceiverState.endedAt (state : ReceiverState) : Option String :=
  match state.checkpoint, state.lastDelivery with
  | .ready (some event), some record => if record.stage.ending = true ∧ record.eventId = event then some event else none
  | _, _ => none

def endedOf : ReceiverFact → Option String
  | .wrote state => state.endedAt
  | _ => none

def Ending (log : List ReceiverFact) (event : String) : Prop := ∃ fact ∈ log, endedOf fact = some event

def Finishes (submissionId : Nat) : ReceiverFact → Prop
  | .verified record => record.submissionId = submissionId
  | .silent turn => turn.delivery.submissionId = submissionId
  | .resolved .skip (some record) => record.submissionId = submissionId
  | _ => False

def Answered (turn : HostTurn) (after : List ReceiverFact) : Prop :=
  ∃ fact ∈ after, Finishes turn.delivery.submissionId fact

def Retried (turn : HostTurn) (after : List ReceiverFact) : Prop :=
  ∃ record, .resolved .retry (some record) ∈ after ∧ record.submissionId = turn.delivery.submissionId

def HostTurn.intent (turn : HostTurn) (anchor : String) : ReceptionPending :=
  ⟨anchor, turn.delivery.replyTo, turn.delivery.submissionId⟩

def Intended (turn : HostTurn) : Prop :=
  ∃ anchor, turn.batch.cursor = some anchor ∧ (∃ state ∈ turn.file, (∃ after, state.checkpoint = .pending after anchor) ∧
      ∃ record ∈ state.lastDelivery, record.pending = turn.intent anchor) ∧
    ∃ progress ∈ turn.server, progress.pending = some (turn.intent anchor)

def Common (first second : HostTurn) : Prop :=
  ∃ message ∈ first.delivery.messages, ∃ other ∈ second.delivery.messages, message.eventId = other.eventId

def Separated (first : HostTurn) (between : List ReceiverFact) (second : HostTurn) : Prop :=
  Common first second → Retried first between ∧ first.delivery.submissionId = second.delivery.submissionId ∧
    first.delivery.replyTo = second.delivery.replyTo

def Spares (position : String → Nat) (event : String) : ReceiverFact → Prop
  | .wrote state => ∀ record ∈ state.lastDelivery, record.stage = .needsReview → record.eventId ≠ event
  | .turn turn => ∀ message ∈ turn.delivery.messages, position event < position message.eventId
  | .told (.delivery record) _ _ => record.stage = .needsReview → record.eventId ≠ event
  | .told .ready file server => ∃ progress ∈ server, Reached position progress.afterEventId event ∧
      ∃ state ∈ file, state.checkpoint.cursor = progress.afterEventId
  | _ => True

structure HostTurnsSafe (site : ReceiverSite) (world : ReceiverWorld) : Prop where
  durable : ∀ turn, .turn turn ∈ world.log → Intended turn
  passed : EachSince turnOf (fun turn after => ∀ anchor ∈ turn.batch.cursor,
    (∃ state ∈ world.file, Reached site.position state.checkpoint.cursor anchor) ∨
      (∃ progress ∈ site.progress world, Reached site.position progress.afterEventId anchor) → Answered turn after) world.log
  separated : EachPair turnOf Separated world.log

def StaysFinished (site : ReceiverSite) (world : ReceiverWorld) : Prop :=
  EachSince endedOf (fun event after => ∀ fact ∈ after, Spares site.position event fact) world.log

-- A batch taken up while another is being retried reaches as far as that one.
def ReachesRetried (site : ReceiverSite) (world : ReceiverWorld) (op : ReceiverOp) (outcome : ReceiverOutcome) : Prop :=
  match op, outcome with
  | .nextBatch _ _ _, .woken (.ok batch) => ∀ progress ∈ site.progress world, ∀ retry ∈ progress.retry,
      ∀ anchor ∈ batch.cursor, site.position retry.eventId ≤ site.position anchor
  | _, _ => True

-- A claim finds the server level with a batch that ended here, or still holding one that was skipped.
def ClaimsLevel (site : ReceiverSite) (world : ReceiverWorld) (op : ReceiverOp) : Prop :=
  match op with
  | .control _ request =>
    match request.command with
    | .claim _ _ _ => ∀ state ∈ world.file, ∀ event ∈ state.endedAt, ∀ progress ∈ site.progress world,
        progress = ⟨some event, none, none⟩ ∨
          (∃ record ∈ state.lastDelivery, record.stage = .skipped) ∧ ∃ pending ∈ progress.pending, pending.eventId = event
    | _ => True
  | _ => True

def ReceiverFact.idleOrTurn : ReceiverFact → Bool
  | .idle | .turn _ => true
  | _ => false

def TurnOpen (log : List ReceiverFact) : Prop :=
  ∃ turn, (log.filter ReceiverFact.idleOrTurn).getLast? = some (.turn turn)

def RepliedHere (state : ReceiverState) : Prop :=
  state.endedAt.isSome = true ∧ ∃ record ∈ state.lastDelivery, record.stage = .replied

-- Nothing fails within a turn once its reply is recorded.
def EndsUnfailed (world : ReceiverWorld) (op : ReceiverOp) (outcome : ReceiverOutcome) : Prop :=
  match op, outcome with
  | .store state, .stored written (some _) => ∀ file ∈ (stored world state written).file, RepliedHere file → ¬ TurnOpen world.log
  | .control _ _, .controlled _ _ (some (.failure _)) => ∀ file ∈ world.file, RepliedHere file → ¬ TurnOpen world.log
  | .emit _, .emitted (some _) => ∀ file ∈ world.file, RepliedHere file → ¬ TurnOpen world.log
  | _, _ => True

def SettlesEndings (site : ReceiverSite) (world : ReceiverWorld) (op : ReceiverOp) (outcome : ReceiverOutcome) : Prop :=
  ClaimsLevel site world op ∧ EndsUnfailed world op outcome

section

variable (site : ReceiverSite) (world : ReceiverWorld) (op : ReceiverOp) (outcome : ReceiverOutcome)

instance : Decidable (Unrestricted world op outcome) := inferInstanceAs (Decidable True)

instance : Decidable (ReachesRetried site world op outcome) := by
  unfold ReachesRetried
  split <;> infer_instance

instance : Decidable (ClaimsLevel site world op) := by
  unfold ClaimsLevel
  split
  · split <;> infer_instance
  · infer_instance

def ReceiverFact.isTurn : ReceiverFact → Bool
  | .turn _ => true
  | _ => false

instance (log : List ReceiverFact) : Decidable (TurnOpen log) :=
  decidable_of_iff (((log.filter ReceiverFact.idleOrTurn).getLast?.any ReceiverFact.isTurn) = true) (by
    unfold TurnOpen
    cases (log.filter ReceiverFact.idleOrTurn).getLast? with
    | none => simp
    | some fact => cases fact <;> simp [ReceiverFact.isTurn])

instance (state : ReceiverState) : Decidable (RepliedHere state) := by
  unfold RepliedHere
  infer_instance

instance : Decidable (EndsUnfailed world op outcome) := by
  unfold EndsUnfailed
  split <;> infer_instance

instance : Decidable (SettlesEndings site world op outcome) := by
  unfold SettlesEndings
  infer_instance

end

section

variable (turn : HostTurn) (after : List ReceiverFact) (fact : ReceiverFact)

theorem answered_grows (done : Answered turn after) : Answered turn (after ++ [fact]) := by
  obtain ⟨ending, listed, finishes⟩ := done
  exact ⟨ending, List.mem_append_left _ listed, finishes⟩

theorem answered_now (finishes : Finishes turn.delivery.submissionId fact) : Answered turn (after ++ [fact]) :=
  ⟨fact, List.mem_concat_self, finishes⟩

theorem retried_grows (done : Retried turn after) : Retried turn (after ++ [fact]) := by
  obtain ⟨record, listed, same⟩ := done
  exact ⟨record, List.mem_append_left _ listed, same⟩

theorem ending_grows (listed : Ending (log ++ [fact]) event) : Ending log event ∨ endedOf fact = some event := by
  obtain ⟨ending, member, ends⟩ := listed
  rcases List.mem_append.mp member with old | new
  · exact .inl ⟨ending, old, ends⟩
  · exact .inr (List.mem_singleton.mp new ▸ ends)

end

section

variable (position : String → Nat) (cursor : Option String)

theorem beyond_not_reached (beyond : Beyond position cursor event) : ¬ Reached position cursor event := by
  rintro ⟨at_, here, reached⟩
  exact absurd (beyond at_ here) (not_lt.mpr reached)

theorem reached_advanced (beyond : Beyond position cursor next) (reached : Reached position cursor event) :
    Reached position (some next) event := by
  obtain ⟨at_, here, below⟩ := reached
  exact ⟨next, rfl, le_trans below (le_of_lt (beyond at_ here))⟩

theorem reached_behind (reached : Reached position cursor event) (beyond : Beyond position cursor message) :
    position event < position message := by
  obtain ⟨at_, here, below⟩ := reached
  exact lt_of_le_of_lt below (beyond at_ here)

end

-- What the server knows and what happened, all that the receiver's own state is judged by.
structure Standing where
  progress : ReceptionProgress
  claimed : Bool
  log : List ReceiverFact

def Standing.note (standing : Standing) (fact : ReceiverFact) : Standing := { standing with log := standing.log ++ [fact] }

def Standing.advance (standing : Standing) (progress : ReceptionProgress) : Standing :=
  { standing with progress, claimed := true }

def ReceiverSite.standing (site : ReceiverSite) (world : ReceiverWorld) : Standing where
  progress := (site.progress world).getD ⟨none, none, none⟩
  claimed := (site.record world).isSome
  log := world.log

section

variable (site : ReceiverSite) (strict settled : Prop)

def Careful (world : ReceiverWorld) (op : ReceiverOp) (outcome : ReceiverOutcome) : Prop :=
  (strict → ReachesRetried site world op outcome) ∧ (settled → SettlesEndings site world op outcome)

def Open (pending : ReceptionPending) (turn : HostTurn) (anchor : String) : Prop :=
  pending.submissionId = turn.delivery.submissionId ∧ pending.messageId = turn.delivery.replyTo ∧
    site.position anchor ≤ site.position pending.eventId

-- A turn is behind the server's cursor and answered, or its submission is
-- pending, or the owner asked for it to be tried again.
def Placed (progress : ReceptionProgress) (turn : HostTurn) (after : List ReceiverFact) : Prop :=
  ∃ anchor, turn.batch.cursor = some anchor ∧ ((Reached site.position progress.afterEventId anchor ∧ Answered turn after) ∨
      (Beyond site.position progress.afterEventId anchor ∧ ∃ pending, progress.pending = some pending ∧ Open site pending turn anchor) ∨
      (Beyond site.position progress.afterEventId anchor ∧ progress.pending = none ∧
        (∃ retry, progress.retry = some retry ∧ Open site retry turn anchor) ∧ Retried turn after))

def Unpassed (progress : ReceptionProgress) (turn : HostTurn) : Prop :=
  ∃ anchor ∈ turn.batch.cursor, Beyond site.position progress.afterEventId anchor

def Bounded (turn : HostTurn) : Prop :=
  ∀ anchor ∈ turn.batch.cursor, ∀ message ∈ turn.delivery.messages, site.position message.eventId ≤ site.position anchor

def Untouched (log : List ReceiverFact) : Prop := (∀ turn, .turn turn ∉ log) ∧ ∀ event, ¬ Ending log event

structure LogSound (standing : Standing) : Prop where
  pending : ∀ pending ∈ standing.progress.pending, Beyond site.position standing.progress.afterEventId pending.eventId
  retry : ∀ retry ∈ standing.progress.retry, Beyond site.position standing.progress.afterEventId retry.eventId
  durable : ∀ turn, .turn turn ∈ standing.log → Intended turn
  bounded : ∀ turn, .turn turn ∈ standing.log → Bounded site turn
  placed : strict → EachSince turnOf (Placed site standing.progress) standing.log
  separated : strict → EachPair turnOf Separated standing.log
  spared : settled → EachSince endedOf (fun event after => ∀ fact ∈ after, Spares site.position event fact) standing.log
  untouched : standing.claimed = false → Untouched standing.log

-- A state the receiver may hold, in its file or in its memory.
structure Fits (standing : Standing) (state : ReceiverState) : Prop where
  agent : ∀ agentId ∈ state.agentId, agentId = site.agentId
  catalog : ∀ catalogId ∈ state.roomCatalogId, catalogId = site.catalogId
  pending : ∀ after event, state.checkpoint = .pending after event →
    Beyond site.position standing.progress.afterEventId event ∧ ∃ record ∈ state.lastDelivery, record.eventId = event ∧
      ∀ pending ∈ standing.progress.pending, pending.eventId = event →
        after = standing.progress.afterEventId ∧ record.pending = pending
  submission : strict → state.checkpoint.isPending = true → ∀ record ∈ state.lastDelivery,
    EachSince turnOf (fun turn _ => Unpassed site standing.progress turn → record.submissionId = turn.delivery.submissionId)
      standing.log
  retried : ∀ after record pending, state.checkpoint = .ready after → record ∈ state.lastDelivery → record.stage = .received →
    pending ∈ standing.progress.pending → record.eventId = pending.eventId →
      after = standing.progress.afterEventId ∧ record.pending = pending ∧
        (strict → EachSince turnOf (fun turn after => Unpassed site standing.progress turn → Retried turn after) standing.log)
  skipped : ∀ after record pending, state.checkpoint = .ready after → record ∈ state.lastDelivery → record.stage = .skipped →
    pending ∈ standing.progress.pending → record.eventId = pending.eventId →
      after = some pending.eventId ∧ (strict → EachSince turnOf Answered standing.log)
  passed : strict → EachSince turnOf (fun turn after => ∀ anchor ∈ turn.batch.cursor,
    Reached site.position state.checkpoint.cursor anchor → Answered turn after) standing.log
  ended : settled → ∀ event, Ending standing.log event →
    Reached site.position standing.progress.afterEventId event ∨ state.endedAt = some event
  review : settled → ∀ record ∈ state.lastDelivery, record.stage = .needsReview → ¬ Ending standing.log record.eventId
  fresh : state.agentId = none ∨ standing.claimed = false →
    state.lastDelivery = none ∧ state.checkpoint.isPending = false ∧ Untouched standing.log

structure Sound (world : ReceiverWorld) : Prop where
  keyed : Keyed world.table
  log : LogSound site strict settled (site.standing world)
  file : ∀ state ∈ world.file, Fits site strict settled (site.standing world) state

abbrev Ready (receiver : ReceiverProcess) (world : ReceiverWorld) : Prop := Fits site strict settled (site.standing world) receiver.state

end

open Library

section

variable {state : ReceiverState} {progress : ReceptionProgress}

theorem progress_ready (after : Option String) (ready : state.checkpoint = .ready after) :
    state.progress = .ok ⟨after, none, state.lastReceived.map (·.pending)⟩ := by
  simp [ReceiverState.progress, ready, ReceptionCheckpoint.isPending, ReceptionCheckpoint.cursor]

theorem progress_pending {after : Option String} (event : String) (record : DeliveryRecord)
    (pending : state.checkpoint = .pending after event) (last : state.lastDelivery = some record) :
    state.progress = .ok ⟨after, some record.pending, none⟩ := by
  simp only [ReceiverState.progress, pending, ReceptionCheckpoint.isPending, ReceptionCheckpoint.cursor, last, required, if_true]
  rfl

theorem progress_cases (told : state.progress = .ok progress) :
    (∃ after, state.checkpoint = .ready after ∧ progress = ⟨after, none, state.lastReceived.map (·.pending)⟩) ∨
      ∃ after event record, state.checkpoint = .pending after event ∧ state.lastDelivery = some record ∧
        progress = ⟨after, some record.pending, none⟩ := by
  cases checkpoint : state.checkpoint with
  | ready after =>
    rw [progress_ready after checkpoint] at told
    exact .inl ⟨after, rfl, (Except.ok.inj told).symm⟩
  | pending after event =>
    cases last : state.lastDelivery with
    | none => simp [ReceiverState.progress, checkpoint, ReceptionCheckpoint.isPending, last, required, bind, Except.bind] at told
    | some record =>
      rw [progress_pending event record checkpoint last] at told
      exact .inr ⟨after, event, record, rfl, rfl, (Except.ok.inj told).symm⟩

theorem last_received (last : state.lastReceived = some record) :
    state.lastDelivery = some record ∧ record.stage = .received := by
  have both := Option.filter_eq_some_iff.mp last
  exact ⟨both.1, by simpa using both.2⟩

variable {event : String}

theorem ended_ready (ended : state.endedAt = some event) : state.checkpoint = .ready (some event) ∧
      ∃ record, state.lastDelivery = some record ∧ record.stage.ending = true ∧ record.eventId = event := by
  unfold ReceiverState.endedAt at ended
  split at ended
  · rename_i here record checkpoint last
    split at ended
    · rename_i both
      cases ended
      exact ⟨checkpoint, record, last, both⟩
    · cases ended
  · cases ended

theorem ending_ended (ready : state.checkpoint = .ready (some event))
    (last : state.lastDelivery = some record) (ending : record.stage.ending = true) (same : record.eventId = event) :
    state.endedAt = some event := by
  simp [ReceiverState.endedAt, ready, last, ending, same]

end

section

variable {site : ReceiverSite} {strict settled : Prop} {standing : Standing} {state : ReceiverState}

variable {fact : ReceiverFact}

theorem turnless_listed (turnless : turnOf fact = none) {turn : HostTurn}
    (listed : .turn turn ∈ log ++ [fact]) : .turn turn ∈ log := by
  rcases List.mem_append.mp listed with old | new
  · exact old
  · have same := List.mem_singleton.mp new
    rw [← same] at turnless
    cases turnless

theorem untouched_grows (turnless : turnOf fact = none) (endless : endedOf fact = none) (untouched : Untouched log) : Untouched (log ++ [fact]) := by
  constructor
  · exact fun turn listed => untouched.1 turn (turnless_listed turnless listed)
  · intro event listed
    rcases ending_grows fact listed with old | new
    · exact untouched.2 event old
    · rw [endless] at new
      cases new

theorem each_turn_grows {fact : ReceiverFact} (turnless : turnOf fact = none)
    {log : List ReceiverFact} (each : EachSince turnOf holds log)
    (grows : ∀ turn after, holds turn after → later turn (after ++ [fact])) : EachSince turnOf later (log ++ [fact]) :=
  each_since_snoc turnOf each grows fun item selected => by rw [turnless] at selected; cases selected

theorem placed_grows {progress : ReceptionProgress} {fact : ReceiverFact} (turn : HostTurn) (after : List ReceiverFact)
    (placed : Placed site progress turn after) : Placed site progress turn (after ++ [fact]) := by
  obtain ⟨anchor, cursor, ⟨reached, done⟩ | ⟨beyond, pending⟩ | ⟨beyond, free, retry, asked⟩⟩ := placed
  · exact ⟨anchor, cursor, .inl ⟨reached, answered_grows turn after fact done⟩⟩
  · exact ⟨anchor, cursor, .inr (.inl ⟨beyond, pending⟩)⟩
  · exact ⟨anchor, cursor, .inr (.inr ⟨beyond, free, retry, retried_grows turn after fact asked⟩)⟩

theorem spared_grows {position : String → Nat} {fact : ReceiverFact}
    (spared : EachSince endedOf (fun event after => ∀ fact ∈ after, Spares position event fact) log)
    (spares : ∀ event, Ending log event → Spares position event fact) :
    EachSince endedOf (fun event after => ∀ fact ∈ after, Spares position event fact) (log ++ [fact]) := by
  intro before entry after event split selected
  rcases snoc_split split with ⟨none, _, _⟩ | ⟨earlier, built, older⟩
  · rw [none]
    exact fun other listed => by cases listed
  · intro other listed
    rw [built] at listed
    rcases List.mem_append.mp listed with old | new
    · exact spared before entry earlier event older selected other old
    · have ends : Ending log event := ⟨entry, by rw [older]; exact List.mem_append_cons_self, selected⟩
      exact List.mem_singleton.mp new ▸ spares event ends

theorem log_sound_grows {fact : ReceiverFact} (turnless : turnOf fact = none) (sound : LogSound site strict settled standing)
    (spares : settled → ∀ event, Ending standing.log event → Spares site.position event fact)
    (endless : standing.claimed = false → endedOf fact = none) : LogSound site strict settled (standing.note fact) where
  pending := sound.pending
  retry := sound.retry
  durable := fun turn listed => sound.durable turn (turnless_listed turnless listed)
  bounded := fun turn listed => sound.bounded turn (turnless_listed turnless listed)
  placed := fun on => each_turn_grows turnless (sound.placed on) (placed_grows)
  separated := fun on => each_pair_snoc turnOf (sound.separated on) fun other selected => by
    rw [turnless] at selected
    cases selected
  spared := fun on => spared_grows (sound.spared on) (spares on)
  untouched := fun unclaimed => untouched_grows turnless (endless unclaimed) (sound.untouched unclaimed)

theorem fits_grows {fact : ReceiverFact} (turnless : turnOf fact = none)
    (ends : ∀ event, endedOf fact = some event → state.endedAt = some event) (fits : Fits site strict settled standing state) :
    Fits site strict settled (standing.note fact) state where
  agent := fits.agent
  catalog := fits.catalog
  pending := fits.pending
  submission := fun on waits record last =>
    each_turn_grows turnless (fits.submission on waits record last) fun _ _ same => same
  retried := by
    intro after record pending ready last stage open_ same
    obtain ⟨cursor, whole, asked⟩ := fits.retried after record pending ready last stage open_ same
    exact ⟨cursor, whole, fun on => each_turn_grows turnless (asked on) fun turn after known unpassed =>
      retried_grows turn after fact (known unpassed)⟩
  skipped := by
    intro after record pending ready last stage open_ same
    obtain ⟨cursor, done⟩ := fits.skipped after record pending ready last stage open_ same
    exact ⟨cursor, fun on => each_turn_grows turnless (done on) fun turn after => answered_grows turn after fact⟩
  passed := fun on => each_turn_grows turnless (fits.passed on) fun turn after known anchor here reached =>
    answered_grows turn after fact (known anchor here reached)
  ended := by
    intro on event listed
    rcases ending_grows fact listed with old | new
    · exact fits.ended on event old
    · exact .inr (ends event new)
  review := by
    intro on record last stage listed
    rcases ending_grows fact listed with old | new
    · exact fits.review on record last stage old
    · obtain ⟨_, other, last', ending, _⟩ := ended_ready (ends _ new)
      have same : record = other := Option.some.inj (last.symm.trans last')
      rw [← same, stage] at ending
      cases ending
  fresh := by
    intro new
    obtain ⟨nothing, ready, untouched⟩ := fits.fresh new
    refine ⟨nothing, ready, untouched_grows turnless ?_ untouched⟩
    cases ended : endedOf fact with
    | none => rfl
    | some event =>
      obtain ⟨_, record, last, _⟩ := ended_ready (ends event ended)
      rw [nothing] at last
      cases last

theorem log_sound_wrote (sound : LogSound site strict settled standing) (fits : Fits site strict settled standing state) :
    LogSound site strict settled (standing.note (.wrote state)) := by
  refine log_sound_grows rfl sound ?_ ?_
  · intro on event ends record last stage same
    exact fits.review on record last stage (same ▸ ends)
  · intro unclaimed
    cases ended : state.endedAt with
    | none => exact ended
    | some event =>
      obtain ⟨_, record, last, _⟩ := ended_ready ended
      rw [(fits.fresh (.inr unclaimed)).1] at last
      cases last

theorem fits_wrote (fits : Fits site strict settled standing state) :
    Fits site strict settled (standing.note (.wrote state)) state :=
  fits_grows rfl (fun _ ended => ended) fits

end

section

variable {site : ReceiverSite} {strict settled : Prop} {standing : Standing} {state : ReceiverState}

-- The server may take over what the receiver holds.
structure Advances (site : ReceiverSite) (strict : Prop) (standing : Standing) (progress : ReceptionProgress) : Prop where
  cursor : ∀ event, Reached site.position standing.progress.afterEventId event → Reached site.position progress.afterEventId event
  pending : ∀ pending ∈ progress.pending, Beyond site.position progress.afterEventId pending.eventId
  retry : ∀ retry ∈ progress.retry, Beyond site.position progress.afterEventId retry.eventId
  placed : strict → EachSince turnOf (Placed site progress) standing.log

theorem log_sound_advance (sound : LogSound site strict settled standing)
    (advances : Advances site strict standing progress) : LogSound site strict settled (standing.advance progress) where
  pending := advances.pending
  retry := advances.retry
  durable := sound.durable
  bounded := sound.bounded
  placed := advances.placed
  separated := sound.separated
  spared := sound.spared
  untouched := fun claimed => by cases claimed

theorem placed_submission (progress : ReceptionProgress) (pending : ReceptionPending) (open_ : progress.pending = some pending)
    (turn : HostTurn) (after : List ReceiverFact) (placed : Placed site progress turn after)
    (unpassed : Unpassed site progress turn) : pending.submissionId = turn.delivery.submissionId := by
  obtain ⟨anchor, cursor, way⟩ := placed
  obtain ⟨other, here, beyond⟩ := unpassed
  have same : other = anchor := Option.some.inj (here.symm.trans cursor)
  rcases way with ⟨reached, _⟩ | ⟨_, held, kept, opened⟩ | ⟨_, free, _⟩
  · exact absurd reached (beyond_not_reached _ _ (same ▸ beyond))
  · rw [open_] at kept
    exact Option.some.inj kept ▸ opened.1
  · rw [open_] at free
    cases free

theorem fits_advance (told : state.progress = .ok progress)
    (fits : Fits site strict settled standing state) (advances : Advances site strict standing progress) :
    Fits site strict settled (standing.advance progress) state where
  agent := fits.agent
  catalog := fits.catalog
  pending := by
    intro after event checkpoint
    obtain ⟨_, record, last, same, _⟩ := fits.pending after event checkpoint
    have whole := Except.ok.inj (told.symm.trans (progress_pending event record checkpoint last))
    subst whole
    refine ⟨same ▸ advances.pending record.pending rfl, record, last, same, ?_⟩
    intro pending held _
    exact ⟨rfl, Option.some.inj held⟩
  submission := by
    intro on waits record last
    rcases progress_cases told with ⟨after, ready, _⟩ | ⟨after, event, other, checkpoint, last', whole⟩
    · rw [ready] at waits
      cases waits
    · have same : record = other := Option.some.inj ((Option.mem_def.mp last).symm.trans last')
      refine each_since_mono turnOf (advances.placed on) fun turn after placed unpassed => ?_
      exact placed_submission progress record.pending (by rw [whole, same]) turn after placed unpassed
  retried := by
    intro after record pending ready last stage open_ same
    have whole := Except.ok.inj (told.symm.trans (progress_ready after ready))
    subst whole
    cases open_
  skipped := by
    intro after record pending ready last stage open_ same
    have whole := Except.ok.inj (told.symm.trans (progress_ready after ready))
    subst whole
    cases open_
  passed := fits.passed
  ended := fun on event listed => (fits.ended on event listed).imp_left (advances.cursor event)
  review := fits.review
  fresh := by
    rintro (new | unclaimed)
    · exact fits.fresh (.inl new)
    · cases unclaimed

end

end AgentRoom.Reception
