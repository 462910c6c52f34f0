import AgentRoom.Reception.ReceiverClaims

namespace AgentRoom.Reception

open Library

variable {site : ReceiverSite} {strict settled : Prop} {receiver : ReceiverProcess} {world : ReceiverWorld}

variable {state : ReceiverState} {record : DeliveryRecord}

structure Serving (site : ReceiverSite) (state : ReceiverState) (world : ReceiverWorld) : Prop where
  synced : Synced site state world
  equipped : Equipped state
  ready : state.checkpoint.isPending = false

structure Begun (site : ReceiverSite) (record : DeliveryRecord) (state : ReceiverState) (world : ReceiverWorld) : Prop where
  equipped : Equipped state
  claimed : (site.standing world).claimed = true
  file : world.file = some state
  checkpoint : state.checkpoint = .pending (site.standing world).progress.afterEventId record.eventId
  last : state.lastDelivery = some record
  server : (site.standing world).progress.pending = some record.pending

def Within (site : ReceiverSite) (cursor : Option String) (batch : WokenBatch) (anchor : String) : Prop :=
  ∀ message ∈ batch.previews, Beyond site.position cursor message.eventId ∧ site.position message.eventId ≤ site.position anchor

structure TakenUp (site : ReceiverSite) (standing : Standing) (anchor : String) (state begun : ReceiverState) (record : DeliveryRecord) :
    Prop where
  state : begun = { state with checkpoint := .pending standing.progress.afterEventId anchor, lastDelivery := some record }
  here : record.eventId = anchor
  stage : record.stage = .received
  carried : ∀ retry ∈ standing.progress.retry, record.submissionId = retry.submissionId ∧ record.messageId = retry.messageId

theorem not_ending_grows (endless : endedOf fact = none) (unended : ¬ Ending log event) : ¬ Ending (log ++ [fact]) event := by
  intro ends
  rcases ending_grows fact ends with old | new
  · exact unended old
  · rw [endless] at new
    cases new

theorem review_not_ended (stage : record.stage = .needsReview) :
    ({ state with lastDelivery := some record } : ReceiverState).endedAt = none := by
  cases ended : ({ state with lastDelivery := some record } : ReceiverState).endedAt with
  | none => rfl
  | some event =>
    obtain ⟨_, other, last, ending, _⟩ := ended_ready ended
    cases last
    rw [stage] at ending
    cases ending

theorem synced_noted (synced : Synced site state world) :
    Synced site state (noted world fact) := ⟨synced.claimed, synced.level, synced.file⟩

theorem wrote_open (open_ : TurnOpen log) : TurnOpen (log ++ [.wrote state]) :=
  (turn_open_quiet rfl).mpr open_

theorem serving_cursor (serving : Serving site state world) :
    state.checkpoint.cursor = (site.standing world).progress.afterEventId := level_cursor serving.synced.level

theorem serving_progress (serving : Serving site state world) :
    (site.standing world).progress = ⟨state.checkpoint.cursor, none, state.lastReceived.map (·.pending)⟩ := by
  rcases progress_cases serving.synced.level with ⟨after, ready, whole⟩ | ⟨after, event, _, pending, _⟩
  · rw [whole, ready]
    rfl
  · have waits := serving.ready
    rw [pending] at waits
    cases waits

theorem begun_noted (fact : ReceiverFact) (begun : Begun site record state world) : Begun site record state (noted world fact) :=
  ⟨begun.equipped, begun.claimed, begun.file, begun.checkpoint, begun.last, begun.server⟩

theorem unrun_grows (fact : ReceiverFact) (turnless : turnOf fact = none) (unrun : Unrun site standing) :
    Unrun site (standing.note fact) :=
  each_turn_grows turnless unrun fun turn after asked unpassed => retried_grows turn after fact (asked unpassed)

theorem begun_doubt (begun : Begun site record state world)
    (moved : record.stage = .running ∨ record.stage = .verifying) : InDoubt (site.standing world) state record := by
  refine ⟨begun.checkpoint, begun.last, .inl ⟨begun.server, ?_⟩⟩
  rcases moved with same | same <;> rw [same] <;> exact ⟨by simp, by simp⟩

theorem turn_open_now {turn : HostTurn} : TurnOpen (log ++ [.turn turn]) :=
  ⟨turn, by simp [List.filter_append, ReceiverFact.idleOrTurn]⟩

theorem serving_unrun (sound : Sound site strict settled world) (serving : Serving site state world)
    (on : strict) : Unrun site (site.standing world) := by
  have whole := serving_progress serving
  refine each_since_mono turnOf (sound.log.placed on) ?_
  rintro turn after ⟨anchor, cursor, way⟩ ⟨other, held, unpassed⟩
  have same : other = anchor := Option.some.inj (held.symm.trans cursor)
  rcases way with ⟨reached, _⟩ | ⟨_, pending, waits, _⟩ | ⟨_, _, _, asked⟩
  · exact absurd reached (beyond_not_reached _ _ (same ▸ unpassed))
  · rw [whole] at waits
    cases waits
  · exact asked

section

variable {post : Unit → ReceiverState → ReceiverWorld → Prop} {session : String} {agentId : AgentId}
variable (sound : Sound site strict settled world) (fits : Ready site strict settled receiver world)
include sound fits

theorem acknowledge_leads {session anchor : String}
    (done : post () receiver.state world) : Leads site strict settled bad (acknowledgeInBridge session anchor) post receiver world := by
  refine leads_bind (fun _ state after => post () state after) (leads_attempt (leads_ask sound fits _ _ ?_ ?_ ?_)) ?_
  · intro outcome given after performed
    cases outcome <;> simp only [answer, reduceCtorEq] at performed
    cases performed
    rfl
  · exact fun _ _ _ _ _ => done
  · exact fun _ => done
  · exact fun _ _ _ sound' fits' reached => leads_pure sound' fits' reached

theorem change_record_leads (last : receiver.state.lastDelivery = some record)
    (changed : Fits site strict settled (site.standing world) { receiver.state with lastDelivery := some (change record) })
    (done : Fits site strict settled (site.standing (stored world { receiver.state with lastDelivery := some (change record) } true))
        { receiver.state with lastDelivery := some (change record) } →
      post () { receiver.state with lastDelivery := some (change record) }
        (stored world { receiver.state with lastDelivery := some (change record) } true))
    (failing : ∀ written,
      Unfailed settled (stored world { receiver.state with lastDelivery := some (change record) } written).file world.log →
        bad { receiver.state with lastDelivery := some (change record) }
          (stored world { receiver.state with lastDelivery := some (change record) } written)) :
    Leads site strict settled bad (changeRecord change) post receiver world := by
  refine leads_state (leads_settled sound fits ?_ (fun _ none => by rw [last] at none; cases none))
  intro record' held
  have same : record = record' := Option.some.inj (last.symm.trans ((required_ok ..).mp held))
  subst same
  exact leads_change (save_state_leads sound changed (fun _ => done) failing)

theorem emit_delivery_leads (last : receiver.state.lastDelivery = some record)
    (spares : settled → record.stage = .needsReview → ¬ Ending world.log record.eventId)
    (done : ∀ told, told = noted world (.told (.delivery record) world.file (site.progress world)) → post () receiver.state told)
    (failing : ∀ told, told = noted world (.told (.delivery record) world.file (site.progress world)) →
      Unfailed settled world.file world.log → bad receiver.state told) :
    Leads site strict settled bad emitDelivery post receiver world := by
  refine leads_state (leads_settled sound fits ?_ (fun _ none => by rw [last] at none; cases none))
  intro record' held
  have same : record = record' := Option.some.inj (last.symm.trans ((required_ok ..).mp held))
  subst same
  refine emit_leads sound fits ?_ done failing
  intro on event ends stage here
  exact spares on stage (here ▸ ends)

theorem stop_leads (turn : Prop) (unended : settled → ∀ record ∈ receiver.state.lastDelivery, ¬ Ending world.log record.eventId) :
    Leads site strict settled (Allowed settled turn) (do markFailure noticed; emitDelivery; failed told) post receiver world := by
  cases last : receiver.state.lastDelivery with
  | none =>
    refine leads_bind (fun _ _ _ => False) ?_ (fun _ _ _ _ _ never => never.elim)
    refine leads_state (leads_settled sound fits (fun _ some_ => by rw [last] at some_; cases some_) ?_)
    intro _ _ _ _ record held
    rw [last] at held
    cases held
  | some record =>
    have unended' : settled → ¬ Ending world.log record.eventId := fun on => unended on record last
    refine leads_bind (fun _ state after =>
      state.lastDelivery = some { record with stage := .needsReview, failure := some noticed } ∧
        (settled → ¬ Ending after.log record.eventId))
      (change_record_leads sound fits last
        (fits_record fits last rfl ⟨by simp, by simp⟩ (.inr unended')) ?_ ?_) ?_
    · intro _
      exact ⟨rfl, fun on => not_ending_grows (review_not_ended rfl) (unended' on)⟩
    · intro written _ on _ other held
      cases held
      cases written with
      | true => exact not_ending_grows (review_not_ended rfl) (unended' on)
      | false => exact unended' on
    · rintro _ receiver' world' sound' fits' ⟨last', still⟩
      refine leads_bind (fun _ state after => Allowed settled turn state after)
        (emit_delivery_leads sound' fits' last' (fun on _ => still on) ?_ ?_) ?_
      · rintro told' rfl on _ other held
        rw [last'] at held
        cases held
        exact not_ending_grows rfl (still on)
      · rintro told' rfl _ on _ other held
        rw [last'] at held
        cases held
        exact not_ending_grows rfl (still on)
      · exact fun _ _ _ sound' fits' reached => leads_failed sound' fits' reached

theorem complete_batch_leads
    (doubt : InDoubt (site.standing world) receiver.state record) (answered : strict → EachSince turnOf Answered world.log)
    (done : Fits site strict settled (site.standing world) { receiver.state with checkpoint := .ready (some record.eventId) } →
      post () { receiver.state with checkpoint := .ready (some record.eventId) } world) :
    Leads site strict settled bad (completeBatch session record.eventId) post receiver world := by
  have completed : receiver.state.complete record.eventId =
      .ok { receiver.state with checkpoint := .ready (some record.eventId) } := by
    simp [ReceiverState.complete, doubt.checkpoint, ReceptionCheckpoint.complete]
  have fits' := fits_completed doubt fits answered
  refine leads_state (leads_settled sound fits ?_ (fun _ none => by rw [completed] at none; cases none))
  intro state held
  rw [completed] at held
  cases held
  exact leads_change (acknowledge_leads sound fits' (done fits'))

theorem finish_leads (turn : Prop) (record : DeliveryRecord) (equipped : Equipped receiver.state)
    (doubt : InDoubt (site.standing world) receiver.state record) (answered : strict → EachSince turnOf Answered world.log)
    (same : (change record).pending = record.pending) (ends : (change record).stage = .replied ∨ (change record).stage = .noReply)
    (replied : turn → (change record).stage = .replied) (within : turn → TurnOpen world.log) :
    Leads site strict settled (Allowed settled turn)
      (do completeBatch session record.eventId; changeRecord change; saveProgress (some session); emitDelivery)
      (fun _ state world => Serving site state world) receiver world := by
  have unended : settled → ¬ Ending world.log record.eventId := pending_unended fits doubt.checkpoint
  have here : (change record).eventId = record.eventId := congrArg ReceptionPending.eventId same
  have ending : (change record).stage.ending = true := by rcases ends with stage | stage <;> rw [stage] <;> rfl
  have moved : (change record).stage ≠ .received ∧ (change record).stage ≠ .skipped := by
    rcases ends with stage | stage <;> rw [stage] <;> exact ⟨by simp, by simp⟩
  refine leads_bind (fun _ state after =>
    state = { receiver.state with checkpoint := .ready (some record.eventId) } ∧ after = world)
    (complete_batch_leads sound fits doubt answered fun _ => ⟨rfl, rfl⟩) ?_
  rintro _ receiver₁ world₁ sound₁ fits₁ ⟨state₁, rfl⟩
  have last₁ : receiver₁.state.lastDelivery = some record := by rw [state₁]; exact doubt.last
  have ready₁ : receiver₁.state.checkpoint = .ready (some record.eventId) := by rw [state₁]
  have equipped₁ : Equipped receiver₁.state := by
    rw [state₁]
    exact ⟨equipped.agent, equipped.catalog, equipped.instance_, equipped.execution⟩
  let final : ReceiverState := { receiver₁.state with lastDelivery := some (change record) }
  have final_ended : final.endedAt = some record.eventId := ending_ended ready₁ rfl ending here
  have recorded : turn → RepliedHere final := fun turns => ⟨by rw [final_ended]; rfl, change record, rfl, replied turns⟩
  refine leads_bind (fun _ state after => state = final ∧ after = stored world₁ final true)
    (change_record_leads sound₁ fits₁ last₁ (fits_record fits₁ last₁ same moved (.inl ending))
      (fun _ => ⟨rfl, rfl⟩) ?_) ?_
  · intro written unfailed on turns other held
    cases held
    cases written with
    | true => exact absurd (within turns) (unfailed on final rfl (recorded turns))
    | false => exact here ▸ unended on
  rintro _ receiver₂ world₂ sound₂ fits₂ ⟨state₂, built⟩
  rw [built] at sound₂ fits₂ ⊢
  have answered₂ : strict → EachSince turnOf Answered (stored world₁ final true).log := fun on =>
    each_turn_grows rfl (answered on) fun turn after => answered_grows turn after _
  have open_ : (site.standing (stored world₁ final true)).progress.pending = some record.pending ∨
      ((site.standing (stored world₁ final true)).progress.pending = none ∧
        (site.standing (stored world₁ final true)).progress.retry = some record.pending) :=
    doubt.open.imp (fun waits => waits.1) (fun asked => asked)
  have told : receiver₂.state.progress = .ok ⟨some record.eventId, none, none⟩ := by
    rw [state₂]
    exact finished_level ending ready₁ rfl
  refine leads_bind (fun _ state after => ∃ revision, state = final.withRevision revision ∧ Synced site state after ∧
    after.log = (stored world₁ final true).log ++ [.wrote state])
    (save_progress_leads (some session) turn sound₂ fits₂ (by rw [state₂]; rfl)
      (by rw [state₂]; exact ⟨equipped₁.agent, equipped₁.catalog, equipped₁.instance_, equipped₁.execution⟩) told
      (advances_finished open_ sound₂.log answered₂)
      (fun _ turns => ⟨state₂ ▸ recorded turns, wrote_open (within turns)⟩) ?_) ?_
  · intro revision after synced _ log
    rw [state₂] at synced log ⊢
    exact ⟨revision, rfl, synced, log⟩
  rintro _ receiver₃ world₃ sound₃ fits₃ ⟨revision, state₃, synced, log⟩
  have alike := alike_revision final revision
  have last₃ : receiver₃.state.lastDelivery = some (change record) := by rw [state₃]; rfl
  refine emit_delivery_leads sound₃ fits₃ last₃ ?_ ?_ ?_
  · intro _ review
    rw [review] at ending
    cases ending
  · rintro told' rfl
    refine ⟨synced_noted synced, ?_, by rw [state₃, alike.checkpoint]; exact congrArg ReceptionCheckpoint.isPending ready₁⟩
    rw [state₃]
    have kept : Equipped final := ⟨equipped₁.agent, equipped₁.catalog, equipped₁.instance_, equipped₁.execution⟩
    exact equipped_revision kept revision
  · rintro told' rfl unfailed on turns
    have open_ : TurnOpen world₃.log := by
      rw [log]
      exact wrote_open (wrote_open (within turns))
    exact absurd open_ (unfailed on receiver₃.state synced.file (state₃ ▸ replied_alike alike (recorded turns)))

theorem reconcile_leads (agentId : AgentId) (turn : Prop) (equipped : Equipped receiver.state)
    (doubt : InDoubt (site.standing world) receiver.state record) (within : turn → TurnOpen world.log) :
    Leads site strict settled (Allowed settled turn) (reconcile session agentId) (fun _ state world => Serving site state world)
      receiver world := by
  refine leads_state (leads_settled sound fits ?_ (fun _ none => by rw [doubt.last] at none; cases none))
  intro record' held
  have same : record = record' := Option.some.inj (doubt.last.symm.trans ((required_ok ..).mp held))
  subst same
  refine leads_bind (fun found state after => state = receiver.state ∧
    (∀ replyEventId, found = .ok replyEventId → after = noted world (.verified record)) ∧
      ∀ failure, found = .error failure → after = world)
    (leads_attempt (verify_leads sound fits ?_ ?_)) ?_
  · exact fun replyEventId => ⟨rfl, fun _ _ => rfl, fun _ none => (by cases none)⟩
  · exact fun failure => ⟨rfl, fun _ none => (by cases none), fun _ _ => rfl⟩
  · rintro found receiver' world' sound' fits' ⟨state', answered, failed⟩
    rw [Ready, ← state'] at fits
    rw [← state'] at equipped doubt
    cases found with
    | ok replyEventId =>
      have here := answered replyEventId rfl
      rw [here] at sound' fits' ⊢
      refine finish_leads sound' fits' turn record equipped ⟨doubt.checkpoint, doubt.last, doubt.open⟩ ?_ rfl
        (.inl rfl) (fun _ => rfl) ?_
      · exact finish_answers (.verified record) rfl rfl (by rw [doubt.checkpoint]; rfl) doubt.last sound.log fits
      · exact fun turns => (turn_open_quiet rfl).mpr (within turns)
    | error failure =>
      have here := failed failure rfl
      rw [here] at sound' fits' ⊢
      refine stop_leads sound' fits' turn ?_
      intro on other held
      have same : record = other := Option.some.inj (doubt.last.symm.trans held)
      exact same ▸ pending_unended fits' doubt.checkpoint on

-- Outside of a turn a failure only ends the connection.
theorem reconcile_anyhow {agentId : AgentId} (record : DeliveryRecord)
    (equipped : Equipped receiver.state) (doubt : InDoubt (site.standing world) receiver.state record) :
    Leads site strict settled Anyhow (reconcile session agentId) (fun _ state world => Serving site state world) receiver world :=
  leads_mono (reconcile_leads sound fits agentId False equipped doubt fun never => never.elim)
    (fun _ _ _ _ reached => reached) (fun _ _ _ _ => trivial)

theorem recover_reply_leads (serving : Serving site receiver.state world) (received : receiver.state.lastReceived = some previous) :
    Leads site strict settled Anyhow (recoverReply session agentId previous)
      (fun recovered state after => (recovered = true ∧ Serving site state after) ∨
        (recovered = false ∧ state = receiver.state ∧ after = world)) receiver world := by
  refine leads_bind (fun found state after => state = receiver.state ∧
    (∀ replyEventId, found = .ok replyEventId → after = noted world (.verified previous)) ∧
      ∀ failure, found = .error failure → after = world)
    (leads_attempt (verify_leads sound fits ?_ ?_)) ?_
  · exact fun replyEventId => ⟨rfl, fun _ _ => rfl, fun _ none => (by cases none)⟩
  · exact fun failure => ⟨rfl, fun _ none => (by cases none), fun _ _ => rfl⟩
  · rintro found receiver' world' sound' fits' ⟨state', answered, failed⟩
    cases found with
    | ok replyEventId =>
      have here := answered replyEventId rfl
      rw [here] at sound' fits' ⊢
      refine leads_state ?_
      have whole := serving_progress serving
      rw [← state'] at serving received whole
      have cursor := serving_cursor serving
      have free : (site.standing world).progress.pending = none := by rw [whole]
      have asked : (site.standing world).progress.retry = some previous.pending := by rw [whole, received]; rfl
      have recovered := fits_recovered sound'.log fits' serving.synced.level received free asked
      rw [cursor]
      refine leads_change (leads_bind (fun _ state after => Serving site state after)
        (reconcile_anyhow sound' recovered previous
          ⟨serving.equipped.agent, serving.equipped.catalog, serving.equipped.instance_, serving.equipped.execution⟩
          ⟨rfl, (last_received received).1, .inr ⟨free, asked⟩⟩) ?_)
      exact fun _ receiver'' world'' sound'' fits'' reached => leads_pure sound'' fits'' (.inl ⟨rfl, reached⟩)
    | error failure =>
      have here := failed failure rfl
      rw [here] at sound' fits' ⊢
      refine leads_settled sound' fits' ?_ (fun _ _ => trivial)
      exact fun _ _ => leads_pure sound' fits' (.inr ⟨rfl, state', rfl⟩)

theorem recover_previous_leads (serving : Serving site receiver.state world) :
    Leads site strict settled Anyhow (recoverPrevious session agentId)
      (fun recovered state after => (recovered = true ∧ Serving site state after) ∨
        (recovered = false ∧ state = receiver.state ∧ after = world)) receiver world := by
  refine leads_state ?_
  cases received : receiver.state.lastReceived with
  | none => exact leads_pure sound fits (.inr ⟨rfl, rfl, rfl⟩)
  | some previous => exact recover_reply_leads sound fits serving received

theorem stage_leads (stage : DeliveryStage) (moved : stage = .running ∨ stage = .verifying)
    (begun : Begun site record receiver.state world)
    (rest : ∀ receiver' world', Sound site strict settled world' → Fits site strict settled (site.standing world') receiver'.state →
      Begun site { record with stage } receiver'.state world' → (TurnOpen world.log → TurnOpen world'.log) →
        (site.standing world').progress = (site.standing world).progress →
          (Unrun site (site.standing world) → Unrun site (site.standing world')) →
            Leads site strict settled Anyhow next post receiver' world') :
    Leads site strict settled Anyhow (do changeStage stage; emitDelivery; next) post receiver world := by
  have unended : settled → ¬ Ending world.log record.eventId := pending_unended fits begun.checkpoint
  have other : stage ≠ .received ∧ stage ≠ .skipped := by
    rcases moved with same | same <;> rw [same] <;> exact ⟨by simp, by simp⟩
  let staged : ReceiverState := { receiver.state with lastDelivery := some { record with stage } }
  have begun' : Begun site { record with stage } staged (stored world staged true) :=
    ⟨⟨begun.equipped.agent, begun.equipped.catalog, begun.equipped.instance_, begun.equipped.execution⟩, begun.claimed, rfl,
      begun.checkpoint, rfl, begun.server⟩
  refine leads_bind (fun _ state after => state = staged ∧ after = stored world staged true)
    (change_record_leads sound fits begun.last (fits_record fits begun.last rfl other (.inr unended))
      (fun _ => ⟨rfl, rfl⟩) (fun _ _ => trivial)) ?_
  rintro _ receiver₁ world₁ sound₁ fits₁ ⟨state₁, here⟩
  rw [here] at sound₁ fits₁ ⊢
  have last₁ : receiver₁.state.lastDelivery = some { record with stage } := by rw [state₁]
  refine leads_bind (fun _ state after => state = receiver₁.state ∧
    ∃ told, after = noted (stored world staged true) (.told told (some staged) (site.progress (stored world staged true))))
    (emit_delivery_leads sound₁ fits₁ last₁ ?_ ?_ (fun _ _ _ => trivial)) ?_
  · intro _ review
    rcases moved with same | same <;> rw [same] at review <;> cases review
  · exact fun told same => ⟨rfl, _, same⟩
  rintro _ receiver₂ world₂ sound₂ fits₂ ⟨state₂, told, same⟩
  rw [same] at sound₂ fits₂ ⊢
  have whole : receiver₂.state = staged := state₂.trans state₁
  refine rest receiver₂ _ sound₂ fits₂ (by rw [whole]; exact begun_noted _ begun') ?_ rfl ?_
  · exact fun was => (turn_open_quiet rfl).mpr (wrote_open was)
  · exact fun was => unrun_grows _ rfl (unrun_grows _ rfl was)

theorem await_receipt_leads (begun : Begun site record receiver.state world) (within : TurnOpen world.log) :
    Leads site strict settled Anyhow (awaitReceipt session agentId sent) (fun _ state world => Serving site state world)
      receiver world := by
  refine stage_leads sound fits .verifying (.inr rfl) begun ?_
  intro receiver₁ world₁ sound₁ fits₁ begun₁ open₁ _ _
  refine leads_bind (fun ended state after => (ended = .ok () → Serving site state after) ∧
    ∀ failure, ended = .error failure → Allowed settled True state after)
    (leads_attempt (leads_mono (reconcile_leads sound₁ fits₁ agentId True begun₁.equipped
      (begun_doubt begun₁ (.inr rfl)) fun _ => open₁ within) ?_ ?_)) ?_
  · exact fun _ _ _ _ reached => ⟨fun _ => reached, fun _ none => (by cases none)⟩
  · exact fun _ _ _ allowed failure => ⟨fun none => (by cases none), fun _ _ => allowed⟩
  · rintro ended receiver₂ world₂ sound₂ fits₂ ⟨served, allowed⟩
    cases ended with
    | ok value => exact leads_pure sound₂ fits₂ (served rfl)
    | error receipt =>
      exact leads_mono (stop_leads sound₂ fits₂ False fun on => allowed receipt rfl on trivial)
        (fun _ _ _ _ reached => reached) (fun _ _ _ _ => trivial)

theorem send_reply_leads {body : String} :
    Leads site strict settled (fun state after => state = receiver.state ∧ after = world) (sendReply session record body)
      (fun _ state after => state = receiver.state ∧ after = world) receiver world := by
  refine leads_state (leads_settled sound fits ?_ (fun _ _ => ⟨rfl, rfl⟩))
  intro execution _
  refine leads_bind (fun _ state after => state = receiver.state ∧ after = world) (leads_ask sound fits _ _ ?_ ?_ ?_) ?_
  · intro outcome given after performed
    cases outcome <;> simp only [answer, reduceCtorEq] at performed
    cases performed
    rfl
  · exact fun _ _ _ _ _ => ⟨rfl, rfl⟩
  · exact ⟨rfl, rfl⟩
  · rintro submissionId receiver' world' sound' fits' same
    exact leads_settle sound' fits' (fun _ _ => same) (fun _ _ => same)

theorem full_text_leads {session : String}
    (rest : ∀ receiver' : ReceiverProcess, receiver'.state = receiver.state → Leads site strict settled Anyhow next post receiver' world) :
    Leads site strict settled Anyhow (Routine.attempt handled (Routine.ask (.fullText session messages) id) >>= fun _ => next) post
      receiver world := by
  refine leads_bind (fun _ state after => state = receiver.state ∧ after = world)
    (leads_attempt (leads_ask sound fits _ _ ?_ ?_ ?_)) ?_
  · intro outcome given after performed
    cases outcome <;> simp only [answer, reduceCtorEq] at performed
    cases performed
    rfl
  · exact fun _ _ _ _ _ => ⟨rfl, rfl⟩
  · exact fun _ => ⟨rfl, rfl⟩
  · rintro _ receiver' world' sound' fits' ⟨same, rfl⟩
    exact rest receiver' same

theorem host_turn_leads (given record : DeliveryRecord)
    (begun : Begun site record receiver.state world) (running : record.stage = .running) (same : given.pending = record.pending)
    (unrun : strict → Unrun site (site.standing world)) (cursor : batch.cursor = some record.eventId)
    (within : Within site (site.standing world).progress.afterEventId batch record.eventId) :
    Leads site strict settled Anyhow (hostTurn session agentId batch record.eventId given) (fun _ state world => Serving site state world)
      receiver world := by
  refine full_text_leads sound fits ?_
  intro receiver₁ state₁
  rw [Ready, ← state₁] at fits
  rw [← state₁] at begun
  let delivery : HostDelivery := ⟨given.submissionId, batch.previews, batch.wakeEventIds, given.messageId⟩
  let turn : HostTurn := ⟨delivery, batch, world.file, site.progress world⟩
  have intent : turn.intent record.eventId = record.pending := by
    have target : given.messageId = record.messageId := congrArg ReceptionPending.messageId same
    have submission : given.submissionId = record.submissionId := congrArg ReceptionPending.submissionId same
    simp [HostTurn.intent, turn, delivery, target, submission, DeliveryRecord.pending]
  have known := standing_claimed begun.claimed
  have taken : Taken site (site.standing world) turn record.eventId :=
    ⟨cursor, (fits.pending _ _ begun.checkpoint).1, by rw [intent]; exact begun.server, within,
      record.eventId, cursor, ⟨receiver₁.state, begun.file, ⟨_, begun.checkpoint⟩, record, begun.last, intent.symm⟩,
      _, known, by rw [intent]; exact begun.server⟩
  have sound' : Sound site strict settled (noted world (.turn turn)) := by
    refine ⟨sound.keyed, log_sound_turn taken sound.log begun.claimed unrun
      (pending_endings fits begun.checkpoint), ?_⟩
    intro state held
    have file : state = receiver₁.state := Option.some.inj ((Option.mem_def.mp held).symm.trans begun.file)
    rw [file]
    exact fits_turn taken begun.checkpoint begun.last (congrArg ReceptionPending.submissionId intent).symm fits
  have fits' : Fits site strict settled (site.standing (noted world (.turn turn))) receiver₁.state :=
    fits_turn taken begun.checkpoint begun.last (congrArg ReceptionPending.submissionId intent).symm fits
  have begun' := begun_noted (.turn turn) begun
  refine leads_bind (fun found state after => state = receiver₁.state ∧
    (found = .ok .silent → after = noted (noted world (.turn turn)) (.silent turn)) ∧
      (found ≠ .ok .silent → after = noted world (.turn turn)))
    (leads_attempt (resume_leads sound sound' fits' ?_ ?_ ?_)) ?_
  · exact ⟨rfl, fun _ => rfl, fun never => absurd rfl never⟩
  · exact fun text => ⟨rfl, fun none => (by cases none), fun _ => rfl⟩
  · exact fun failure => ⟨rfl, fun none => (by cases none), fun _ => rfl⟩
  rintro found receiver₂ world₂ sound₂ fits₂ ⟨state₂, silent, spoken⟩
  rw [← state₂] at begun'
  by_cases quiet : found = .ok .silent
  · rw [silent quiet] at sound₂ fits₂ ⊢
    rw [quiet]
    have doubt := begun_doubt begun' (.inl running)
    refine leads_mono (finish_leads sound₂ fits₂ False record begun'.equipped
      ⟨doubt.checkpoint, doubt.last, doubt.open⟩ ?_ rfl (.inr rfl) (fun never => never.elim) (fun never => never.elim))
      (fun _ _ _ _ reached => reached) (fun _ _ _ _ => trivial)
    exact finish_answers (.silent turn) rfl (congrArg ReceptionPending.submissionId intent)
      (by rw [begun'.checkpoint]; rfl) begun'.last sound'.log (state₂ ▸ fits')
  · rw [spoken quiet] at sound₂ fits₂ ⊢
    have open_ : TurnOpen (noted world (.turn turn)).log := turn_open_now
    cases found with
    | error failure => exact await_receipt_leads sound₂ fits₂ begun' open_
    | ok reply =>
      cases reply with
      | silent => exact absurd rfl quiet
      | body body =>
        refine leads_bind (fun _ state after => state = receiver₂.state ∧ after = noted world (.turn turn))
          (leads_attempt (leads_mono (send_reply_leads sound₂ fits₂) ?_ ?_)) ?_
        · exact fun _ _ _ _ reached => reached
        · exact fun _ _ _ reached _ => reached
        · rintro sent receiver₃ world₃ sound₃ fits₃ ⟨state₃, rfl⟩
          exact await_receipt_leads sound₃ fits₃ (state₃ ▸ begun') open_

theorem begin_batch_leads (target : Nat) (serving : Serving site receiver.state world)
    (beyond : Beyond site.position (site.standing world).progress.afterEventId anchor) :
    Leads site strict settled Anyhow (beginBatch anchor target)
      (fun _ state after => after = stored world state true ∧
        ∃ record, TakenUp site (site.standing world) anchor receiver.state state record) receiver world := by
  refine leads_state (mint_leads sound fits ?_)
  intro fresh
  refine leads_settled sound fits ?_ (fun _ _ => trivial)
  intro begun begins
  obtain ⟨free, record, whole, here, stage, carried⟩ := begun_record serving.synced.level begins
  obtain ⟨agentId, agent⟩ := serving.equipped.agent
  have taken : Fits site strict settled (site.standing world) begun := by
    rw [whole]
    exact fits_begun sound.log fits anchor serving.synced.level (by rw [agent]; simp) serving.synced.claimed free beyond here stage
      fun retry asked => (carried retry asked).1
  exact leads_change (save_state_leads sound taken (fun _ _ => ⟨rfl, record, whole, here, stage, carried⟩)
    (fun _ _ => trivial))

theorem hand_over_leads (target : Nat) (serving : Serving site receiver.state world) (cursor : batch.cursor = some anchor)
    (beyond : Beyond site.position (site.standing world).progress.afterEventId anchor)
    (within : Within site (site.standing world).progress.afterEventId batch anchor)
    (reaches : strict → ∀ retry ∈ (site.standing world).progress.retry, site.position retry.eventId ≤ site.position anchor) :
    Leads site strict settled Anyhow (handOver session agentId batch anchor target) (fun _ state world => Serving site state world)
      receiver world := by
  have unrun := serving_unrun sound serving
  have free : (site.standing world).progress.pending = none := by rw [serving_progress serving]
  refine leads_bind _ (begin_batch_leads sound fits target serving beyond) ?_
  rintro _ receiver₁ world₁ sound₁ fits₁ ⟨here₁, record, taken⟩
  rw [here₁] at sound₁ fits₁ ⊢
  have checkpoint₁ : receiver₁.state.checkpoint = .pending (site.standing world).progress.afterEventId anchor := by
    rw [taken.state]
  have last₁ : receiver₁.state.lastDelivery = some record := by rw [taken.state]
  have equipped₁ : Equipped receiver₁.state := by
    rw [taken.state]
    exact ⟨serving.equipped.agent, serving.equipped.catalog, serving.equipped.instance_, serving.equipped.execution⟩
  have told₁ := progress_pending anchor record checkpoint₁ last₁
  have advances : Advances site strict (site.standing (stored world receiver₁.state true))
      ⟨(site.standing world).progress.afterEventId, some record.pending, none⟩ :=
    advances_begun sound₁.log free (show Beyond _ _ record.eventId from taken.here.symm ▸ beyond)
      (fun retry asked => taken.carried retry asked)
      (fun on retry asked => (show _ ≤ site.position record.eventId from taken.here.symm ▸ reaches on retry asked))
  -- The server has the submission before the host has the batch.
  refine leads_bind (fun _ state after => Begun site record state after ∧ (strict → Unrun site (site.standing after)) ∧
    (site.standing after).progress.afterEventId = (site.standing world).progress.afterEventId)
    (leads_mono (save_progress_leads (some session) False sound₁ fits₁ rfl equipped₁ told₁ advances
      (fun _ never => never.elim) ?_) (fun _ _ _ _ reached => reached) (fun _ _ _ _ => trivial)) ?_
  · intro revision after synced stands log
    refine ⟨⟨equipped_revision equipped₁ revision, synced.claimed, synced.file, ?_, last₁, by rw [stands]⟩, ?_, by rw [stands]⟩
    · rw [stands, taken.here]
      exact checkpoint₁
    · intro on
      have grown := unrun_grows (.wrote (receiver₁.state.withRevision revision)) rfl
        (unrun_grows (.wrote receiver₁.state) rfl (unrun on))
      simp only [Unrun, Unpassed, stands]
      rw [show (site.standing after).log = after.log from rfl, log]
      exact grown
  rintro _ receiver₂ world₂ sound₂ fits₂ ⟨begun₂, unrun₂, cursor₂⟩
  refine leads_bind (fun _ state after => Begun site record state after ∧ (strict → Unrun site (site.standing after)) ∧
    (site.standing after).progress.afterEventId = (site.standing world).progress.afterEventId)
    (emit_delivery_leads sound₂ fits₂ begun₂.last ?_ ?_ (fun _ _ _ => trivial)) ?_
  · intro _ review
    rw [taken.stage] at review
    cases review
  · rintro told rfl
    exact ⟨begun_noted _ begun₂, fun on => unrun_grows _ rfl (unrun₂ on), cursor₂⟩
  rintro _ receiver₃ world₃ sound₃ fits₃ ⟨begun₃, unrun₃, cursor₃⟩
  refine leads_state (leads_settled sound₃ fits₃ ?_ (fun _ _ => trivial))
  intro given held
  have same : record = given := Option.some.inj (begun₃.last.symm.trans ((required_ok ..).mp held))
  subst same
  refine stage_leads sound₃ fits₃ .running (.inl rfl) begun₃ ?_
  intro receiver₄ world₄ sound₄ fits₄ begun₄ _ progress₄ unrun₄
  have cursor₄ : (site.standing world₄).progress.afterEventId = (site.standing world).progress.afterEventId := by
    rw [progress₄, cursor₃]
  rw [← taken.here] at cursor within ⊢
  exact host_turn_leads sound₄ fits₄ record { record with stage := .running } begun₄ rfl rfl (fun on => unrun₄ (unrun₃ on)) cursor
    (cursor₄ ▸ within)

theorem deliver_leads {session : String} {agentId : AgentId} (serving : Serving site receiver.state world)
    (follows : Follows site.position (site.standing world).progress.afterEventId batch)
    (reaches : strict → ∀ retry ∈ (site.standing world).progress.retry, ∀ anchor ∈ batch.cursor,
      site.position retry.eventId ≤ site.position anchor) :
    Leads site strict settled Anyhow (deliver session agentId batch) (fun _ state world => Serving site state world)
      receiver world := by
  refine leads_settled sound fits ?_ (fun _ _ => trivial)
  intro anchor found
  have cursor := (required_ok ..).mp found
  refine leads_settled sound fits ?_ (fun _ _ => trivial)
  intro target _
  refine leads_bind _ (recover_previous_leads sound fits serving) ?_
  rintro recovered receiver' world' sound' fits' (⟨done, serving'⟩ | ⟨notYet, same, rfl⟩)
  · rw [done]
    exact leads_pure sound' fits' serving'
  · rw [notYet]
    obtain ⟨beyond, within⟩ := follows anchor cursor
    exact hand_over_leads sound' fits' target (same ▸ serving) cursor beyond within
      fun on retry asked => reaches on retry asked anchor cursor

end

end AgentRoom.Reception
