import AgentRoom.Reception.ReceiverSteps

namespace AgentRoom.Reception

open Library

structure Equipped (state : ReceiverState) : Prop where
  agent : ∃ agentId, state.agentId = some agentId
  catalog : ∃ catalogId, state.roomCatalogId = some catalogId
  instance_ : ∃ instanceId, state.instanceId = some instanceId
  execution : ∃ execution, state.execution = some execution

-- The file, the memory and the server agree.
structure Synced (site : ReceiverSite) (state : ReceiverState) (world : ReceiverWorld) : Prop where
  claimed : (site.standing world).claimed = true
  level : state.progress = .ok (site.standing world).progress
  file : world.file = some state

-- A failure within a turn leaves no batch that ended for the receiver to stop on.
def Allowed (settled turn : Prop) (state : ReceiverState) (world : ReceiverWorld) : Prop :=
  settled → turn → ∀ record ∈ state.lastDelivery, ¬ Ending world.log record.eventId

section

variable {site : ReceiverSite} {strict settled : Prop} {standing : Standing} {state : ReceiverState}

theorem request_made (made : state.request command = .ok request) (fits : Fits site strict settled standing state) :
    (request.agentId, request.catalogId) = site.key ∧ request.command = command := by
  obtain ⟨agentId, agent, rest⟩ := unbind made
  obtain ⟨_, _, rest⟩ := unbind rest
  obtain ⟨catalogId, catalog, rest⟩ := unbind rest
  obtain ⟨_, _, built⟩ := unbind rest
  cases built
  have own := fits.agent agentId ((required_ok ..).mp agent)
  have here := fits.catalog catalogId ((required_ok ..).mp catalog)
  exact ⟨by rw [own, here]; rfl, rfl⟩

theorem request_equipped (equipped : Equipped state) (command : ReceptionCommand) :
    ∃ request, state.request command = .ok request := by
  obtain ⟨agentId, agent⟩ := equipped.agent
  obtain ⟨catalogId, catalog⟩ := equipped.catalog
  obtain ⟨instanceId, instance_⟩ := equipped.instance_
  obtain ⟨execution, runs⟩ := equipped.execution
  simp only [ReceiverState.request, agent, catalog, instance_, runs, required]
  exact ⟨_, rfl⟩

theorem equipped_revision (equipped : Equipped state) (revision : Int) : Equipped (state.withRevision revision) := by
  obtain ⟨agent, catalog, instance_, execution, runs⟩ := equipped
  exact ⟨agent, catalog, instance_, { execution with revision }, by simp [ReceiverState.withRevision, runs]⟩

theorem alike_revision (state : ReceiverState) (revision : Int) : Alike state (state.withRevision revision) := ⟨rfl, rfl, rfl, rfl⟩

theorem alike_execution (state : ReceiverState) {execution : Option ReceiverExecution} : Alike state { state with execution } :=
  ⟨rfl, rfl, rfl, rfl⟩

theorem replied_alike (alike : Alike state other) (replied : RepliedHere state) : RepliedHere other := by
  unfold RepliedHere ReceiverState.endedAt at *
  rw [alike.checkpoint, alike.last]
  exact replied

end

section

variable {site : ReceiverSite} {strict settled : Prop} {receiver : ReceiverProcess} {world : ReceiverWorld}

theorem save_progress_leads (session : Option String) (turn : Prop) (sound : Sound site strict settled world)
    (fits : Ready site strict settled receiver world) (file : world.file = some receiver.state)
    (equipped : Equipped receiver.state) (told : receiver.state.progress = .ok progress)
    (advances : Advances site strict (site.standing world) progress)
    (recorded : settled → turn → RepliedHere receiver.state ∧ TurnOpen world.log)
    (done : ∀ revision after, Synced site (receiver.state.withRevision revision) after →
      (site.standing after).progress = progress → after.log = world.log ++ [.wrote (receiver.state.withRevision revision)] →
        post () (receiver.state.withRevision revision) after) :
    Leads site strict settled (Allowed settled turn) (saveProgress session) post receiver world := by
  obtain ⟨execution, runs⟩ := equipped.execution
  refine leads_state ?_
  refine leads_settled sound fits ?_ (fun _ none => by rw [runs] at none; cases none)
  intro execution' _
  refine leads_settled sound fits ?_ (fun _ none => by rw [told] at none; cases none)
  intro progress' told'
  have same : progress' = progress := Except.ok.inj (told'.symm.trans told)
  subst same
  obtain ⟨request, made⟩ := request_equipped equipped (.save execution'.revision progress')
  refine leads_settled sound fits ?_ (fun _ none => by rw [made] at none; cases none)
  intro request' made'
  obtain ⟨key, command⟩ := request_made made' fits
  have own : Fits site strict settled ((site.standing world).after request'.command) receiver.state := by
    rw [command]
    exact fits_advance told fits advances
  refine leads_bind (fun record state after => state = receiver.state ∧ after.file = world.file ∧
    site.standing after = (site.standing world).advance progress' ∧ record.progress = progress') ?_ ?_
  · refine control_leads sound fits key ?_ ?_ own ?_ ?_
    · rw [command]
      exact log_sound_advance sound.log advances
    · intro state held
      rw [file] at held
      cases held
      exact own
    · intro record after moved told' held _
      rw [command] at moved
      exact ⟨rfl, held, moved, by rw [← told'.progress, moved]; rfl⟩
    · intro after held same unfailed on turns
      obtain ⟨replied, open_⟩ := recorded on turns
      exact absurd open_ (unfailed on receiver.state file replied)
  · rintro record receiver' world' sound' fits' ⟨same, held, moved, saved⟩
    have log : world'.log = world.log := congrArg Standing.log moved
    have alike := alike_revision receiver.state record.revision
    rw [Ready, same] at fits'
    have fits'' := fits_alike alike fits'
    refine leads_change (save_state_leads sound' fits'' ?_ ?_)
    · intro _ _
      have stands : (site.standing world').progress = progress' := by rw [moved]; rfl
      refine done record.revision _ ⟨?_, ?_, rfl⟩ stands (by rw [← log]; rfl)
      · rw [standing_stored]
        exact congrArg Standing.claimed moved
      · rw [alike_progress alike, told]
        exact congrArg Except.ok stands.symm
    · intro written unfailed on turns
      obtain ⟨replied, open_⟩ := recorded on turns
      cases written with
      | true => exact absurd (log ▸ open_) (unfailed on _ rfl (replied_alike alike replied))
      | false => exact absurd (log ▸ open_) (unfailed on receiver.state (held.trans file) replied)

end

section

variable {site : ReceiverSite} {strict settled : Prop} {standing : Standing} {state : ReceiverState}

variable {progress : ReceptionProgress}

theorem explicit_cases (explicit : state.explicitResolution progress = true) :
    ∃ pending delivery after, progress.pending = some pending ∧ state.lastDelivery = some delivery ∧
      delivery.eventId = pending.eventId ∧ (delivery.stage = .received ∨ delivery.stage = .skipped) ∧
      state.checkpoint = .ready after := by
  simp only [ReceiverState.explicitResolution, Bool.and_eq_true, Option.any_eq_true] at explicit
  obtain ⟨⟨pending, waits, delivery, last, both⟩, ready⟩ := explicit
  simp only [Bool.or_eq_true, decide_eq_true_eq] at both
  cases checkpoint : state.checkpoint with
  | ready after => exact ⟨pending, delivery, after, waits, last, both.1, both.2, rfl⟩
  | pending after event =>
    rw [checkpoint] at ready
    cases ready

theorem skipped_explicit (ended : state.endedAt = some event)
    (skipped : ∃ record ∈ state.lastDelivery, record.stage = .skipped) (waits : ∃ pending ∈ progress.pending, pending.eventId = event) :
    state.explicitResolution progress = true := by
  obtain ⟨ready, record, last, _, here⟩ := ended_ready ended
  obtain ⟨other, held, stage⟩ := skipped
  obtain ⟨pending, waits, at_⟩ := waits
  have same : record = other := Option.some.inj (last.symm.trans held)
  subst same
  simp only [ReceiverState.explicitResolution, Option.mem_def.mp waits, last, ready, Option.any_some, stage, here, at_,
    ReceptionCheckpoint.isPending]
  decide

-- A claim finds the server level with what ended here, or an answer of the owner that it does not know yet.
def Level (state : ReceiverState) (progress : ReceptionProgress) : Prop :=
  ∀ event, state.endedAt = some event → progress = ⟨some event, none, none⟩ ∨
    (∃ record ∈ state.lastDelivery, record.stage = .skipped) ∧ ∃ pending ∈ progress.pending, pending.eventId = event

theorem restored_endings (fits : Fits site strict settled standing state) (level : Level state standing.progress)
    (implicit : ¬ state.explicitResolution standing.progress = true) (on : settled) (event : String)
    (ends : Ending standing.log event) : Reached site.position standing.progress.afterEventId event := by
  rcases fits.ended on event ends with reached | ended
  · exact reached
  · rcases level event ended with same | ⟨skipped, waits⟩
    · rw [same]
      exact ⟨event, rfl, le_refl _⟩
    · exact absurd (skipped_explicit ended skipped waits) implicit

theorem restored_review (waits : (state.restore progress).checkpoint.isPending = true) :
    ∃ record, (state.restore progress).lastDelivery = some record ∧ record.stage = .needsReview := by
  obtain ⟨after, pending, retry⟩ := progress
  cases pending with
  | none => cases waits
  | some pending => exact ⟨_, rfl, rfl⟩

theorem advances_explicit (sound : LogSound site strict settled standing)
    (fits : Fits site strict settled standing state) (explicit : state.explicitResolution standing.progress = true)
    (told : state.progress = .ok progress) : Advances site strict standing progress := by
  obtain ⟨pending, delivery, after, waits, last, here, stage, ready⟩ := explicit_cases explicit
  have whole := Except.ok.inj (told.symm.trans (progress_ready after ready))
  subst whole
  rcases stage with received | skipped
  · obtain ⟨cursor, same, asked⟩ := fits.retried after delivery pending ready last received waits here
    have again : state.lastReceived = some delivery := by simp [ReceiverState.lastReceived, last, received]
    rw [cursor, again, Option.map_some, same]
    exact advances_retried waits sound asked
  · obtain ⟨cursor, answered⟩ := fits.skipped after delivery pending ready last skipped waits here
    have never : state.lastReceived = none := by simp [ReceiverState.lastReceived, last, skipped]
    rw [cursor, never]
    exact advances_finished (.inl waits) sound answered

theorem claim_moves (sessionKey : Nat) (displayName : String)
    (sound : LogSound site strict settled standing) (fits : Fits site strict settled standing state)
    (nowhere : standing.claimed = false → standing.progress.afterEventId = none) (told : state.progress = .ok initial) :
    LogSound site strict settled (standing.after (.claim sessionKey displayName initial)) ∧
      Fits site strict settled (standing.after (.claim sessionKey displayName initial)) state := by
  by_cases claimed : standing.claimed = true
  · simp only [Standing.after, claimed, if_true]
    exact ⟨sound, fits⟩
  · simp only [Standing.after, claimed]
    have unclaimed := Bool.eq_false_of_not_eq_true claimed
    obtain ⟨nothing, _, untouched⟩ := fits.fresh (.inr unclaimed)
    have advances : Advances site strict standing initial := by
      rcases progress_cases told with ⟨after, _, whole⟩ | ⟨_, _, record, _, last, _⟩
      · have never : state.lastReceived = none := by simp [ReceiverState.lastReceived, nothing]
        rw [whole, never]
        exact advances_fresh after (nowhere unclaimed) untouched
      · rw [nothing] at last
        cases last
    exact ⟨log_sound_advance sound advances, fits_advance told fits advances⟩

end

section

variable {site : ReceiverSite} {strict settled : Prop} {receiver : ReceiverProcess} {world : ReceiverWorld}

-- A receiver that has claimed its task: a batch it has pending is one it did not see the end of.
structure Claimed (site : ReceiverSite) (state : ReceiverState) (world : ReceiverWorld) : Prop where
  synced : Synced site state world
  equipped : Equipped state
  review : state.checkpoint.isPending = true → ∃ record, state.lastDelivery = some record ∧ record.stage = .needsReview

theorem adopt_leads (sound : Sound site strict settled world)
    (fits : Ready site strict settled receiver world) (equipped : Equipped receiver.state)
    (claimed : (site.standing world).claimed = true) (told : (site.standing world).progress = record.progress)
    (valid : record.progress.valid = true) (level : settled → Level receiver.state record.progress) :
    Leads site strict settled Anyhow (adopt session record) (fun _ state world => Claimed site state world) receiver world := by
  refine leads_settled sound fits ?_ (fun _ _ => trivial)
  intro _ _
  refine leads_state ?_
  have alike := alike_revision receiver.state record.revision
  have known := fits_alike alike fits
  have equipped' := equipped_revision equipped record.revision
  have leveled : settled → Level (receiver.state.withRevision record.revision) (site.standing world).progress := told ▸ level
  rw [← told]
  by_cases explicit : (receiver.state.withRevision record.revision).explicitResolution (site.standing world).progress = true
  · simp only [explicit, if_true]
    refine leads_change (leads_bind (fun _ state after => state = receiver.state.withRevision record.revision ∧
      after = stored world (receiver.state.withRevision record.revision) true)
      (save_state_leads sound known (fun _ _ => ⟨rfl, rfl⟩) (fun _ _ => trivial)) ?_)
    rintro _ receiver' world' sound' fits' ⟨same, built⟩
    obtain ⟨_, _, after, _, _, _, _, ready⟩ := explicit_cases explicit
    rw [← same] at explicit ready equipped'
    have stands : (site.standing world').progress = (site.standing world).progress := by rw [built]; rfl
    rw [← stands] at explicit
    have saved := progress_ready after ready
    refine leads_mono (save_progress_leads (some session) False sound' fits' (by rw [built, same]; rfl) equipped' saved
      (advances_explicit sound'.log fits' explicit saved) (fun _ never => never.elim) ?_)
      (fun _ state after _ reached => reached) (fun _ _ _ _ => trivial)
    intro revision after synced _ _
    refine ⟨synced, equipped_revision equipped' revision, ?_⟩
    intro waits
    rw [(alike_revision receiver'.state revision).checkpoint, ready] at waits
    cases waits
  · simp only [explicit]
    have restored := fits_restored sound.log known (by
      obtain ⟨agentId, agent⟩ := equipped'.agent
      rw [agent]
      simp) claimed fun on => restored_endings known (leveled on) explicit on
    refine leads_change (leads_bind (fun _ state after => Claimed site state after)
      (save_state_leads sound restored ?_ (fun _ _ => trivial)) ?_)
    · intro _ _
      exact ⟨⟨claimed, restored_level (told ▸ valid), rfl⟩,
        ⟨equipped'.agent, equipped'.catalog, equipped'.instance_, equipped'.execution⟩, restored_review⟩
    · intro _ receiver' world' sound' fits' reached
      exact leads_pure sound' fits' reached

structure Identified (state : ReceiverState) : Prop where
  agent : ∃ agentId, state.agentId = some agentId
  catalog : ∃ catalogId, state.roomCatalogId = some catalogId
  instance_ : ∃ instanceId, state.instanceId = some instanceId

variable {post : Unit → ReceiverState → ReceiverWorld → Prop}

theorem mint_leads (sound : Sound site strict settled world)
    (fits : Ready site strict settled receiver world) (led : ∀ id, Leads site strict settled Anyhow (next id) post receiver world) :
    Leads site strict settled Anyhow (Routine.ask .mint (fun id => .ok id) >>= next) post receiver world := by
  refine Routine.holds_bind (fun _ receiver' world' => receiver' = receiver ∧ world' = world)
    (Routine.holds_ask sound ?_) ?_
  · intro outcome given after careful performed
    cases outcome <;> simp only [receiverMachine, answer, reduceCtorEq] at performed
    cases performed
    exact ⟨sound, rfl, rfl⟩
  · rintro id receiver' world' sound' ⟨same, here⟩
    subst same
    subst here
    exact led id

theorem open_execution_leads (sound : Sound site strict settled world) (fits : Ready site strict settled receiver world)
    (identified : Identified receiver.state) (file : world.file = some receiver.state) :
    Leads site strict settled Anyhow openExecution (fun _ state world => Equipped state ∧ world.file = some state) receiver world := by
  refine leads_state ?_
  by_cases none : receiver.state.execution = none
  · simp only [none, if_true]
    refine mint_leads sound fits ?_
    intro id
    refine leads_change (save_state_leads sound (fits_alike (alike_execution receiver.state) fits) ?_ (fun _ _ => trivial))
    exact fun _ _ => ⟨⟨identified.agent, identified.catalog, identified.instance_, _, rfl⟩, rfl⟩
  · simp only [none, if_false]
    obtain ⟨execution, runs⟩ := Option.ne_none_iff_exists'.mp none
    exact leads_pure sound fits ⟨⟨identified.agent, identified.catalog, identified.instance_, execution, runs⟩, file⟩

theorem refused_leads {failure : ReceptionFailure}
    (sound : Sound site strict settled world) (fits : Ready site strict settled receiver world) :
    Leads site strict settled Anyhow (refused failure) post receiver world := by
  by_cases gone : failure.code = "reception.execution_conflict" ∨ failure.code = "reception.forbidden"
  · simp only [refused, gone, if_true]
    refine leads_state (leads_change (leads_bind (fun _ _ _ => True)
      (save_state_leads sound (fits_alike (alike_execution receiver.state) fits) (fun _ _ => trivial) (fun _ _ => trivial)) ?_))
    exact fun _ _ _ sound' fits' _ => leads_failed sound' fits' trivial
  · simp only [refused, gone, if_false]
    exact leads_failed sound fits trivial

theorem claim_leads {session : String} (sound : Sound site strict settled world) (fits : Ready site strict settled receiver world)
    (identified : Identified receiver.state) (file : world.file = some receiver.state) :
    Leads site strict settled Anyhow (claim session) (fun _ state world => Claimed site state world) receiver world := by
  refine leads_bind _ (open_execution_leads sound fits identified file) ?_
  rintro _ receiver world sound fits ⟨equipped, file⟩
  refine leads_state (leads_settled sound fits ?_ (fun _ _ => trivial))
  intro initial told
  refine leads_settled sound fits ?_ (fun _ _ => trivial)
  intro request made
  obtain ⟨key, command⟩ := request_made made fits
  have nowhere : (site.standing world).claimed = false → (site.standing world).progress.afterEventId = none := by
    intro unclaimed
    cases known : site.progress world with
    | none => rw [(standing_unknown known).1]
    | some progress =>
      rw [(standing_known known).2] at unclaimed
      cases unclaimed
  obtain ⟨log, own⟩ := claim_moves receiver.state.binding.sessionKey receiver.state.binding.displayName sound.log fits
    nowhere told
  rw [← command] at log own
  refine leads_bind (fun answered state after => state = receiver.state ∧ ∀ record, answered = .ok record →
    (site.standing after).claimed = true ∧ (site.standing after).progress = record.progress ∧ record.progress.valid = true ∧
      (settled → Level receiver.state record.progress)) (leads_attempt (control_leads sound fits key log ?_ own ?_ ?_)) ?_
  · intro state held
    rw [file] at held
    cases held
    exact own
  · rintro record after moved told' held level
    refine ⟨rfl, ?_⟩
    rintro _ ⟨⟩
    refine ⟨told'.claimed, told'.progress, told'.valid, ?_⟩
    intro on event ended
    have guard := level on
    simp only [ClaimsLevel, command] at guard
    cases known : site.progress world with
    | none =>
      obtain ⟨_, other, last, _⟩ := ended_ready ended
      rw [(fits.fresh (.inr (standing_unknown known).2)).1] at last
      cases last
    | some progress =>
      obtain ⟨stands, claimed⟩ := standing_known known
      have same : record.progress = progress := by
        rw [← told'.progress, moved, command, Standing.after, if_pos claimed, stands]
      exact same ▸ guard receiver.state file event ended progress known
  · intro after _ _ _ failure
    exact ⟨rfl, fun _ none => by cases none⟩
  · rintro answered receiver' world' sound' fits' ⟨same, known⟩
    cases answered with
    | error failure => exact refused_leads sound' fits'
    | ok record =>
      obtain ⟨claimed, progress, valid, level⟩ := known record rfl
      exact adopt_leads sound' fits' (same ▸ equipped) claimed progress valid (same ▸ level)

end

end AgentRoom.Reception
