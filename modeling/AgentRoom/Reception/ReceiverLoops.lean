import AgentRoom.Reception.ReceiverTurns

namespace AgentRoom.Reception

open Library

variable {site : ReceiverSite} {strict settled : Prop} {receiver : ReceiverProcess} {world : ReceiverWorld}

section

variable {α : Type}

def Passing (op : ReceiverOp) : Prop :=
  ∀ (site : ReceiverSite) world outcome given after, answer site world op outcome = some (given, after) → after = world

theorem passing_leads {read : op.Answer → Except Halt α} (passing : Passing op)
    (sound : Sound site strict settled world) (fits : Ready site strict settled receiver world) :
    Leads site strict settled Anyhow (Routine.ask op read) (fun _ state after => state = receiver.state ∧ after = world)
      receiver world :=
  leads_ask sound fits op read (passing site world) (fun _ _ _ _ _ => ⟨rfl, rfl⟩) trivial

theorem list_rooms_passing : Passing .listRooms := by
  intro site world outcome given after performed
  cases outcome <;> simp only [answer, reduceCtorEq] at performed
  cases performed
  rfl

theorem initial_cursor_passing {session : String} {start : ReceiverStart} : Passing (.initialCursor session start) := by
  intro site world outcome given after performed
  cases outcome <;> simp only [answer, reduceCtorEq] at performed
  cases performed
  rfl

theorem close_session_passing {session : String} : Passing (.closeHostSession session) := by
  intro site world outcome given after performed
  cases outcome <;> simp only [answer, reduceCtorEq] at performed
  cases performed
  rfl

theorem sleep_passing (seconds : Nat) : Passing (.sleep seconds) := by
  intro site world outcome given after performed
  cases outcome <;> simp only [answer, reduceCtorEq] at performed
  cases performed
  rfl

theorem leads_caught (led : Leads site strict settled Anyhow routine (fun _ _ _ => True) receiver world) :
    Leads site strict settled Anyhow (Routine.attempt caught routine) (fun _ _ _ => True) receiver world := by
  refine Routine.holds_attempt (Routine.holds_mono led ?_)
  intro ended receiver world _ reached
  cases ended with
  | ok value => exact ⟨reached.1, trivial⟩
  | error halt =>
    cases known : caught halt with
    | some handed =>
      simp only [Routine.Handled, known, Option.elim_some]
      exact ⟨reached.1, trivial⟩
    | none =>
      simp only [Routine.Handled, known, Option.elim_none]
      refine ⟨reached.1, ?_⟩
      cases halt <;> trivial

theorem leads_anyhow (led : Leads site strict settled Anyhow routine post receiver world) :
    Leads site strict settled Anyhow routine (fun _ _ _ => True) receiver world :=
  leads_mono led (fun _ _ _ _ _ => trivial) (fun _ _ _ _ => trivial)

theorem leads_remember (led : Leads site strict settled Anyhow next post (change receiver) world) :
    Leads site strict settled Anyhow (Routine.remember change >>= fun _ => next) post receiver world := led

end

theorem serving_noted (serving : Serving site state world) :
    Serving site state (noted world fact) := ⟨synced_noted serving.synced, serving.equipped, serving.ready⟩

theorem fits_placed (cursor : Option String) (fits : Fits site strict settled standing state) (unknown : state.agentId = none) :
    Fits site strict settled standing { state with checkpoint := .ready cursor, agentId := some site.agentId } := by
  obtain ⟨nothing, _, untouched⟩ := fits.fresh (.inl unknown)
  have turnless : ∀ before entry after turn, standing.log = before ++ entry :: after → turnOf entry = some turn → False := by
    intro before entry after turn split selected
    cases entry <;> cases selected
    exact untouched.1 turn (by rw [split]; simp)
  refine ⟨?_, fits.catalog, fun _ _ waits => (by cases waits), fun _ waits => (by cases waits), ?_, ?_, ?_, ?_, ?_, ?_⟩
  · intro agentId same
    cases same
    rfl
  · intro _ record _ _ last
    rw [Option.mem_def, nothing] at last
    cases last
  · intro _ record _ _ last
    rw [Option.mem_def, nothing] at last
    cases last
  · exact fun _ before entry after turn split selected => (turnless before entry after turn split selected).elim
  · exact fun _ event ends => absurd ends (untouched.2 event)
  · intro _ record last
    rw [Option.mem_def, nothing] at last
    cases last
  · exact fun _ => ⟨nothing, rfl, untouched⟩

theorem fits_located (instanceId : AgentInstanceId) (fits : Fits site strict settled standing state) :
    Fits site strict settled standing { state with roomCatalogId := some site.catalogId, instanceId := some instanceId } where
  agent := fits.agent
  catalog := fun catalogId same => by cases same; rfl
  pending := fits.pending
  submission := fits.submission
  retried := fits.retried
  skipped := fits.skipped
  passed := fits.passed
  ended := fits.ended
  review := fits.review
  fresh := fits.fresh

abbrev Safely {α : Type} (site : ReceiverSite) (strict settled : Prop) (routine : Receiver α) (receiver : ReceiverProcess)
    (world : ReceiverWorld) : Prop :=
  Leads site strict settled Anyhow routine (fun _ _ _ => True) receiver world

theorem safely_then (first : Safely site strict settled routine receiver world)
    (rest : ∀ value receiver world, Sound site strict settled world → Ready site strict settled receiver world →
      Safely site strict settled (next value) receiver world) : Safely site strict settled (routine >>= next) receiver world :=
  leads_bind _ first fun value receiver world sound fits _ => rest value receiver world sound fits

section

variable (sound : Sound site strict settled world) (fits : Ready site strict settled receiver world)
include sound fits

theorem poll_batches_leads
    (serving : Serving site receiver.state world) :
    Safely site strict settled (pollBatches session agentId privateRoom rounds) receiver world := by
  induction rounds generalizing receiver world with
  | zero => exact leads_stopped sound fits
  | succ rounds ih =>
    refine leads_state (leads_bind (fun batch state after => state = receiver.state ∧ after = noted world .idle ∧
      Follows site.position receiver.state.checkpoint.cursor batch ∧
        (strict → ∀ retry ∈ (site.standing world).progress.retry, ∀ anchor ∈ batch.cursor,
          site.position retry.eventId ≤ site.position anchor))
      (next_batch_leads sound fits ?_) ?_)
    · intro batch follows reaches
      exact ⟨rfl, rfl, follows, fun on => reaches on _ (standing_claimed serving.synced.claimed)⟩
    · rintro batch receiver₁ world₁ sound₁ fits₁ ⟨state₁, rfl, follows, reaches⟩
      have serving₁ : Serving site receiver₁.state (noted world .idle) := state₁ ▸ serving_noted serving
      rw [serving_cursor serving] at follows
      refine leads_bind _ (deliver_leads sound₁ fits₁ serving₁ follows reaches) ?_
      exact fun _ receiver₂ world₂ sound₂ fits₂ serving₂ => ih sound₂ fits₂ serving₂

theorem poll_inbox_leads (serving : Serving site receiver.state world) :
    Safely site strict settled (pollInbox session agentId rounds) receiver world := by
  refine leads_bind (fun _ state after => state = receiver.state ∧ after = world) (leads_attempt
    (leads_ask sound fits _ _ (list_rooms_passing site world) (fun _ _ _ _ _ => ⟨rfl, rfl⟩) fun _ => ⟨rfl, rfl⟩)) ?_
  rintro listed receiver₁ world₁ sound₁ fits₁ ⟨state₁, rfl⟩
  rw [← state₁] at serving
  cases listed with
  | ok privateRoom => exact poll_batches_leads sound₁ fits₁ serving
  | error failure => exact poll_batches_leads sound₁ fits₁ serving

theorem open_session_served :
    Leads site strict settled Anyhow openSession (fun _ state after => state = receiver.state ∧ after = noted world .idle)
      receiver world := by
  refine leads_state (leads_bind (fun _ state after => state = receiver.state ∧ after = noted world .idle)
    (open_session_leads sound fits fun _ => ⟨rfl, rfl⟩) ?_)
  rintro session receiver₁ world₁ sound₁ fits₁ same
  refine leads_remember (leads_settled sound₁ fits₁ ?_ (fun _ _ => trivial))
  exact fun _ _ => leads_pure sound₁ fits₁ same

variable {session : String}

theorem wait_until_ready_leads :
    Leads site strict settled Anyhow (Routine.ask (.waitUntilReady session) id)
      (fun summary state after => state = receiver.state ∧ after = world ∧ ∃ instanceId, summary = site.summary instanceId)
      receiver world := by
  refine leads_ask sound fits _ _ ?_ ?_ trivial
  · intro outcome given after performed
    cases outcome <;> simp only [answer, reduceCtorEq] at performed
    cases performed
    rfl
  · intro outcome given summary performed read
    cases outcome <;> simp only [answer, reduceCtorEq] at performed
    rename_i result
    cases performed
    cases result with
    | ok instanceId =>
      cases read
      exact ⟨rfl, rfl, instanceId, rfl⟩
    | error halt => cases read

theorem identify_leads {instanceId : AgentInstanceId} :
    Leads site strict settled Anyhow (identify session (site.summary instanceId)) (fun _ state _ => Identified state)
      receiver world := by
  have located := fits_located instanceId fits
  refine leads_state (leads_change ?_)
  cases agent : receiver.state.agentId with
  | some agentId =>
    rw [agent] at located
    exact leads_settle sound located (fun _ _ => ⟨⟨agentId, rfl⟩, ⟨_, rfl⟩, ⟨_, rfl⟩⟩) (fun _ _ => trivial)
  | none =>
    rw [agent] at located
    refine leads_bind (fun _ _ after => after = world)
      (leads_mono (passing_leads (initial_cursor_passing) sound located)
        (fun _ _ _ _ same => same.2) (fun _ _ _ _ => trivial)) ?_
    rintro cursor receiver₁ world₁ sound₁ _ rfl
    exact leads_set sound₁ (fits_placed cursor located rfl) ⟨⟨_, rfl⟩, ⟨_, rfl⟩, ⟨_, rfl⟩⟩

theorem settle_pending_leads {session : String} (claimed : Claimed site receiver.state world) :
    Leads site strict settled Anyhow (settlePending mode session agentId) (fun _ state after => Serving site state after)
      receiver world := by
  refine leads_state ?_
  by_cases waits : receiver.state.checkpoint.isPending = true
  · simp only [waits, if_true]
    obtain ⟨record, last, review⟩ := claimed.review waits
    refine reconcile_anyhow sound fits record claimed.equipped ?_
    rcases progress_cases claimed.synced.level with ⟨after, ready, _⟩ | ⟨after, event, other, checkpoint, last', whole⟩
    · rw [ready] at waits
      cases waits
    · have same : record = other := Option.some.inj (last.symm.trans last')
      subst same
      obtain ⟨_, known, held, here, _⟩ := fits.pending after event checkpoint
      have own : known = record := Option.some.inj (held.symm.trans last)
      subst own
      refine ⟨by rw [checkpoint, whole, here], last, .inl ⟨by rw [whole], ?_, ?_⟩⟩
      · rw [review]
        simp
      · rw [review]
        simp
  · simp only [waits]
    have ready := Bool.eq_false_of_not_eq_true waits
    exact leads_settle sound fits (fun _ _ => ⟨claimed.synced, claimed.equipped, ready⟩) (fun _ _ => trivial)

theorem listen_on_leads (rounds : Nat) (serving : Serving site receiver.state world) :
    Safely site strict settled (listenOn session agentId rounds) receiver world := by
  refine leads_bind (fun _ state after => Serving site state after) (emit_leads sound fits ?_ ?_ (fun _ _ _ => trivial)) ?_
  · intro on event ends
    exact ⟨_, standing_claimed serving.synced.claimed, level_endings fits serving.synced.level on ends, receiver.state,
      serving.synced.file, serving_cursor serving⟩
  · rintro told rfl
    exact serving_noted serving
  · intro _ receiver₁ world₁ sound₁ fits₁ serving₁
    refine leads_state (leads_settled sound₁ fits₁ ?_ (fun _ _ => trivial))
    exact fun _ _ => poll_inbox_leads sound₁ fits₁ serving₁

theorem receive_connected_leads : Safely site strict settled (receiveConnected mode rounds) receiver world := by
  refine leads_bind _ (open_session_served sound fits) ?_
  rintro session receiver₁ world₁ sound₁ fits₁ _
  refine leads_bind _ (wait_until_ready_leads sound₁ fits₁) ?_
  rintro summary receiver₂ world₂ sound₂ fits₂ ⟨_, _, instanceId, rfl⟩
  refine leads_bind _ (identify_leads sound₂ fits₂) ?_
  rintro _ receiver₃ world₃ sound₃ fits₃ identified
  refine leads_bind (fun _ state after => Identified state ∧ after.file = some state)
    (save_state_leads sound₃ fits₃ (fun _ _ => ⟨identified, rfl⟩) (fun _ _ => trivial)) ?_
  rintro _ receiver₄ world₄ sound₄ fits₄ ⟨identified, file⟩
  refine leads_bind _ (claim_leads sound₄ fits₄ identified file) ?_
  rintro _ receiver₅ world₅ sound₅ fits₅ claimed
  refine leads_bind _ (settle_pending_leads sound₅ fits₅ claimed) ?_
  rintro _ receiver₆ world₆ sound₆ fits₆ serving
  by_cases verifies : mode = .verifyReceipt
  · simp only [verifies, if_true]
    exact leads_pure sound₆ fits₆ trivial
  · simp only [verifies, if_false]
    exact listen_on_leads sound₆ fits₆ rounds serving

theorem safely_pure : Safely site strict settled (pure value) receiver world := leads_pure sound fits trivial

theorem safely_save (alike : Alike receiver.state state) :
    Safely site strict settled (do setState state; saveState) receiver world :=
  leads_change (save_state_leads sound (fits_alike alike fits) (fun _ _ => trivial) (fun _ _ => trivial))

theorem close_session_leads : Safely site strict settled closeSession receiver world := by
  obtain ⟨state, session⟩ := receiver
  cases session with
  | none => exact safely_pure sound fits
  | some session => exact leads_anyhow (passing_leads (close_session_passing) sound fits)

theorem disable_leads : Safely site strict settled disable receiver world :=
  leads_state (safely_save sound fits ⟨rfl, rfl, rfl, rfl⟩)

theorem reconnect_leads (failure : ReceptionFailure) (delay : Nat) :
    Safely site strict settled (reconnect failure delay) receiver world := by
  refine safely_then (close_session_leads sound fits) ?_
  intro _ receiver₁ world₁ sound₁ fits₁
  refine leads_remember (safely_then ?_ ?_)
  · exact emit_leads sound₁ fits₁ (fun _ _ _ => trivial) (fun _ _ => trivial) (fun _ _ _ => trivial)
  · exact fun _ receiver₂ world₂ sound₂ fits₂ => leads_anyhow (passing_leads (sleep_passing delay) sound₂ fits₂)

theorem receive_loop_leads (mode : ReceiverMode) (rounds attempts delay : Nat) :
    Safely site strict settled (receiveLoop mode rounds attempts delay) receiver world := by
  induction attempts generalizing delay receiver world with
  | zero => exact leads_stopped sound fits
  | succ attempts ih =>
    refine safely_then (leads_caught (receive_connected_leads sound fits)) ?_
    intro ended receiver₁ world₁ sound₁ fits₁
    cases ended with
    | ok value => exact safely_pure sound₁ fits₁
    | error failure =>
      by_cases handoff : failure.code = "reception.handoff_requested"
      · simp only [handoff, if_true]
        exact disable_leads sound₁ fits₁
      · simp only [handoff, if_false]
        refine leads_settled sound₁ fits₁ ?_ (fun _ _ => trivial)
        intro _ _
        refine safely_then (reconnect_leads sound₁ fits₁ failure delay) ?_
        exact fun _ receiver₂ world₂ sound₂ fits₂ => ih sound₂ fits₂ (min (delay * 2) 30)

theorem release_execution_leads {execution : ReceiverExecution} :
    Safely site strict settled (releaseExecution execution) receiver world := by
  refine leads_state ?_
  refine leads_change (safely_then (save_state_leads sound (fits_alike (alike_execution receiver.state) fits)
    (fun _ _ => trivial) (fun _ _ => trivial)) ?_)
  intro _ receiver₁ world₁ sound₁ fits₁
  refine leads_state (leads_settled sound₁ fits₁ ?_ (fun _ _ => trivial))
  intro request made
  obtain ⟨key, command⟩ := request_made made fits₁
  refine leads_bind (fun _ state _ => state = receiver₁.state)
    (control_leads sound₁ fits₁ key ?_ ?_ ?_ (fun _ _ _ _ _ _ => rfl) (fun _ _ _ _ => trivial)) ?_
  · rw [command]
    exact sound₁.log
  · rw [command]
    exact sound₁.file
  · rw [command]
    exact fits₁
  · intro record receiver₂ world₂ sound₂ fits₂ state₂
    refine leads_settled sound₂ fits₂ ?_ (fun _ _ => trivial)
    intro _ _
    exact safely_save sound₂ fits₂ (state₂ ▸ alike_execution receiver₁.state)

theorem release_leads : Safely site strict settled release receiver world := by
  refine leads_state ?_
  cases held : receiver.state.execution with
  | none => exact safely_pure sound fits
  | some execution => exact release_execution_leads sound fits

theorem close_down_leads : Safely site strict settled closeDown receiver world :=
  safely_then (close_session_leads sound fits) fun _ _ _ sound₁ fits₁ => release_leads sound₁ fits₁

theorem report_end_leads : Safely site strict settled (reportEnd result closed) receiver world := by
  have tells : Safely site strict settled (emit .stopped) receiver world :=
    emit_leads sound fits (fun _ _ _ => trivial) (fun _ _ => trivial) (fun _ _ _ => trivial)
  have closes : Safely site strict settled (reportEnd (.ok ()) closed) receiver world := by
    cases closed with
    | ok value => exact tells
    | error halt => exact leads_failed sound fits trivial
  cases result with
  | ok value => exact closes
  | error halt =>
    cases halt with
    | failure failure => exact leads_failed sound fits trivial
    | cancelled failure => exact leads_failed sound fits trivial
    | stopped => cases closed <;> exact closes

theorem finish_release_leads : Safely site strict settled finishRelease receiver world := by
  refine leads_state ?_
  by_cases releasing : receiver.state.execution.any (·.releasing) = true
  · simp only [releasing, if_true]
    exact release_leads sound fits
  · simp only [releasing]
    exact safely_pure sound fits

theorem supervise_leads : Safely site strict settled (supervise mode rounds attempts) receiver world := by
  refine safely_then (finish_release_leads sound fits) ?_
  intro _ receiver₁ world₁ sound₁ fits₁
  refine safely_then (leads_caught (receive_loop_leads sound₁ fits₁ mode rounds attempts 1)) ?_
  intro result receiver₂ world₂ sound₂ fits₂
  refine safely_then (leads_caught (close_down_leads sound₂ fits₂)) ?_
  exact fun closed receiver₃ world₃ sound₃ fits₃ => report_end_leads sound₃ fits₃

end

theorem start_ok (starts : start service loaded = .ok state) : loaded = .ok (some state) ∧ state.bridgeService = service := by
  obtain ⟨found, held, rest⟩ := unbind starts
  obtain ⟨known, there, rest⟩ := unbind rest
  obtain ⟨_, bound, built⟩ := unbind rest
  cases built
  exact ⟨by rw [held, (required_ok ..).mp there], (ensure_ok ..).mp bound⟩

-- Whenever a process of the receiver is cut off, and when it ends, the invariant holds.
theorem run_keeps (service : String) (mode : ReceiverMode) (rounds attempts : Nat) (sound : Sound site strict settled world) :
    Keeps (receiverMachine site) (Careful site strict settled) (Sound site strict settled) (fun _ _ => True)
      (run service mode rounds attempts) world := by
  refine ⟨sound, ?_⟩
  intro outcome loaded after _ performed
  cases outcome <;> simp only [receiverMachine, answer, reduceCtorEq] at performed
  cases performed
  cases starts : start service (.ok world.file) with
  | error failure =>
    simp only [starts]
    exact ⟨sound, trivial⟩
  | ok state =>
    have file : world.file = some state := Except.ok.inj (start_ok starts).1
    simp only [starts]
    have supervised : Safely site strict settled (supervise mode rounds attempts) ⟨state, none⟩ world :=
      supervise_leads sound (sound.file state file)
    refine keeps_bind (fun _ _ => True) (fun _ _ => True) world ?_ ?_
    · exact keeps_mono _ _ _ _ supervised fun _ _ _ _ => trivial
    · exact fun _ _ sound' _ => ⟨sound', trivial⟩

end AgentRoom.Reception
