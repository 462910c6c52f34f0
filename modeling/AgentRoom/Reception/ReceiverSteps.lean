import AgentRoom.Reception.ReceiverMoves

namespace AgentRoom.Reception

open Library

variable {α β : Type} (site : ReceiverSite) (strict settled : Prop)

-- However a routine ends, its state fits; a failure that is handled may promise more.
def Ends (bad : ReceiverState → ReceiverWorld → Prop) (post : α → ReceiverState → ReceiverWorld → Prop)
    (ended : Except Halt α) (receiver : ReceiverProcess) (world : ReceiverWorld) : Prop :=
  Ready site strict settled receiver world ∧
    match ended with
    | .ok value => post value receiver.state world
    | .error (.failure _) => bad receiver.state world
    | .error _ => True

def Leads (bad : ReceiverState → ReceiverWorld → Prop) (routine : Receiver α)
    (post : α → ReceiverState → ReceiverWorld → Prop) (receiver : ReceiverProcess) (world : ReceiverWorld) : Prop :=
  Routine.Holds (receiverMachine site) (Careful site strict settled) (Sound site strict settled)
    (Ends site strict settled bad post) routine receiver world

def Anyhow (_ : ReceiverState) (_ : ReceiverWorld) : Prop := True

section

variable {site strict settled} {bad : ReceiverState → ReceiverWorld → Prop} {receiver : ReceiverProcess} {world : ReceiverWorld}

variable {post : α → ReceiverState → ReceiverWorld → Prop} {next : α → Receiver β} {known : ReceiverResult α}

theorem leads_bind (middle : α → ReceiverState → ReceiverWorld → Prop)
    {post : β → ReceiverState → ReceiverWorld → Prop} (first : Leads site strict settled bad routine middle receiver world)
    (rest : ∀ value receiver world, Sound site strict settled world →
      Ready site strict settled receiver world → middle value receiver.state world →
        Leads site strict settled bad (next value) post receiver world) :
    Leads site strict settled bad (routine >>= next) post receiver world := by
  refine Routine.holds_bind (fun value receiver world =>
    Ready site strict settled receiver world ∧ middle value receiver.state world) ?_ ?_
  · refine Routine.holds_mono first ?_
    intro ended receiver world _ reached
    cases ended with
    | ok value => exact reached
    | error halt =>
      cases halt with
      | failure failure => exact reached
      | cancelled failure => exact reached
      | stopped => exact reached
  · intro value receiver world sound reached
    exact rest value receiver world sound reached.1 reached.2

theorem leads_mono (led : Leads site strict settled bad routine post receiver world)
    (implies : ∀ value state world, Sound site strict settled world → post value state world → weaker value state world)
    (failing : ∀ state world, Sound site strict settled world → bad state world → worse state world) :
    Leads site strict settled worse routine weaker receiver world := by
  refine Routine.holds_mono led ?_
  intro ended receiver world sound reached
  cases ended with
  | ok value => exact ⟨reached.1, implies value _ _ sound reached.2⟩
  | error halt =>
    cases halt with
    | failure failure => exact ⟨reached.1, failing _ _ sound reached.2⟩
    | cancelled failure => exact reached
    | stopped => exact reached

theorem leads_set {post : Unit → ReceiverState → ReceiverWorld → Prop}
    (sound : Sound site strict settled world) (fits : Fits site strict settled (site.standing world) state)
    (reached : post () state world) : Leads site strict settled bad (setState state) post receiver world :=
  ⟨sound, fits, reached⟩

theorem leads_state {next : ReceiverState → Receiver α}
    (led : Leads site strict settled bad (next receiver.state) post receiver world) :
    Leads site strict settled bad (getState >>= next) post receiver world := led

theorem leads_change {next : Receiver α} (led : Leads site strict settled bad next post { receiver with state } world) :
    Leads site strict settled bad (setState state >>= fun _ => next) post receiver world := led

theorem leads_attempt {post : ReceiverResult α → ReceiverState → ReceiverWorld → Prop}
    (led : Leads site strict settled (fun state world => ∀ failure, post (.error failure) state world) routine
      (fun value => post (.ok value)) receiver world) :
    Leads site strict settled bad (Routine.attempt handled routine) post receiver world := by
  refine Routine.holds_attempt (Routine.holds_mono led ?_)
  intro ended receiver world _ reached
  cases ended with
  | ok value => exact reached
  | error halt =>
    cases halt with
    | failure failure => exact ⟨reached.1, reached.2 failure⟩
    | cancelled failure => exact ⟨reached.1, trivial⟩
    | stopped => exact ⟨reached.1, trivial⟩

variable {last : β → ReceiverState → ReceiverWorld → Prop} {value : α}
variable (sound : Sound site strict settled world) (fits : Ready site strict settled receiver world)
include sound fits

theorem leads_pure (reached : post value receiver.state world) :
    Leads site strict settled bad (pure value) post receiver world := Routine.holds_pure sound ⟨fits, reached⟩

theorem leads_failed {failure : ReceptionFailure}
    (reached : bad receiver.state world) : Leads site strict settled bad (failed failure) post receiver world :=
  Routine.holds_result sound ⟨fits, reached⟩

theorem leads_stopped : Leads site strict settled bad (Routine.result (.error .stopped)) post receiver world :=
  Routine.holds_result sound ⟨fits, trivial⟩

theorem leads_settle (found : ∀ value, known = .ok value → post value receiver.state world)
    (missing : ∀ failure, known = .error failure → bad receiver.state world) :
    Leads site strict settled bad (settle known) post receiver world := by
  refine Routine.holds_result sound ⟨fits, ?_⟩
  cases known with
  | ok value => exact found value rfl
  | error failure => exact missing failure rfl

theorem leads_settled (found : ∀ value, known = .ok value → Leads site strict settled bad (next value) last receiver world)
    (missing : ∀ failure, known = .error failure → bad receiver.state world) :
    Leads site strict settled bad (settle known >>= next) last receiver world := by
  cases known with
  | ok value => exact found value rfl
  | error failure => exact leads_failed sound fits (missing failure rfl)

theorem leads_ask (op : ReceiverOp) (read : op.Answer → Except Halt α)
    (same : ∀ outcome given after, answer site world op outcome = some (given, after) → after = world)
    (reached : ∀ outcome given value, answer site world op outcome = some (given, world) → read given = .ok value →
      post value receiver.state world)
    (failing : bad receiver.state world) : Leads site strict settled bad (Routine.ask op read) post receiver world := by
  refine Routine.holds_ask sound ?_
  intro outcome given after _ performed
  have unchanged := same outcome given after performed
  subst unchanged
  refine ⟨sound, fits, ?_⟩
  cases value : read given with
  | ok value' => exact reached outcome given value' performed value
  | error halt =>
    cases halt with
    | failure failure => exact failing
    | cancelled failure => trivial
    | stopped => trivial

end

section

variable {site} {world : ReceiverWorld}

theorem standing_stored (state : ReceiverState) :
    site.standing (stored world state true) = (site.standing world).note (.wrote state) := rfl

theorem standing_known (known : site.progress world = some progress) :
    (site.standing world).progress = progress ∧ (site.standing world).claimed = true := by
  obtain ⟨record, held, same⟩ := Option.map_eq_some_iff.mp known
  exact ⟨by rw [ReceiverSite.standing, known]; rfl, by rw [ReceiverSite.standing, held]; rfl⟩

theorem standing_unknown (unknown : site.progress world = none) :
    (site.standing world).progress = ⟨none, none, none⟩ ∧ (site.standing world).claimed = false := by
  have free := Option.map_eq_none_iff.mp unknown
  exact ⟨by rw [ReceiverSite.standing, unknown]; rfl, by rw [ReceiverSite.standing, free]; rfl⟩

theorem standing_claimed (claimed : (site.standing world).claimed = true) :
    site.progress world = some (site.standing world).progress := by
  cases known : site.progress world with
  | none =>
    rw [(standing_unknown known).2] at claimed
    cases claimed
  | some progress => rw [(standing_known known).1]

theorem turn_open_quiet (quiet : fact.idleOrTurn = false) : TurnOpen (log ++ [fact]) ↔ TurnOpen log := by
  simp [TurnOpen, List.filter_append, quiet]

end

section

variable {site strict settled} {bad : ReceiverState → ReceiverWorld → Prop} {receiver : ReceiverProcess} {world : ReceiverWorld}

theorem sound_noted (fact : ReceiverFact) (turnless : turnOf fact = none) (endless : endedOf fact = none)
    (sound : Sound site strict settled world)
    (spares : settled → ∀ event, Ending world.log event → Spares site.position event fact) :
    Sound site strict settled (noted world fact) where
  keyed := sound.keyed
  log := log_sound_grows turnless sound.log spares fun _ => endless
  file := fun state held => fits_grows turnless (fun event ended => by rw [endless] at ended; cases ended) (sound.file state held)

variable {post : Unit → ReceiverState → ReceiverWorld → Prop} {state : ReceiverState}

theorem fits_noted (turnless : turnOf fact = none) (endless : endedOf fact = none)
    (fits : Fits site strict settled (site.standing world) state) :
    Fits site strict settled (site.standing (noted world fact)) state :=
  fits_grows turnless (fun event ended => by rw [endless] at ended; cases ended) fits

theorem sound_stored (sound : Sound site strict settled world)
    (fits : Fits site strict settled (site.standing world) state) : Sound site strict settled (stored world state true) where
  keyed := sound.keyed
  log := log_sound_wrote sound.log fits
  file := by
    intro other held
    cases held
    exact fits_wrote fits

def Unfailed (settled : Prop) (file : Option ReceiverState) (log : List ReceiverFact) : Prop :=
  settled → ∀ state ∈ file, RepliedHere state → ¬ TurnOpen log

variable {event : ReceiverEvent}
variable (sound : Sound site strict settled world) (fits : Ready site strict settled receiver world)
include sound fits

theorem save_state_leads (done : Sound site strict settled (stored world receiver.state true) →
      Fits site strict settled (site.standing (stored world receiver.state true)) receiver.state →
        post () receiver.state (stored world receiver.state true))
    (failing : ∀ written, Unfailed settled (stored world receiver.state written).file world.log →
      bad receiver.state (stored world receiver.state written)) :
    Leads site strict settled bad saveState post receiver world := by
  refine Routine.holds_ask sound ?_
  intro outcome given after careful performed
  cases outcome <;> simp [receiverMachine, answer] at performed
  rename_i written failure
  obtain ⟨writes, rfl, rfl⟩ := performed
  have sound' : Sound site strict settled (stored world receiver.state written) := by
    cases written with
    | true => exact sound_stored sound fits
    | false => exact sound
  have fits' : Fits site strict settled (site.standing (stored world receiver.state written)) receiver.state := by
    cases written with
    | true => exact fits_wrote fits
    | false => exact fits
  refine ⟨sound', fits', ?_⟩
  cases failure with
  | none =>
    have whole : written = true := writes rfl
    subst whole
    exact done sound' fits'
  | some failure => exact failing written fun on => (careful.2 on).2

theorem emit_leads (spares : settled → ∀ ended, Ending world.log ended →
      Spares site.position ended (.told event world.file (site.progress world)))
    (done : ∀ told, told = noted world (.told event world.file (site.progress world)) → post () receiver.state told)
    (failing : ∀ told, told = noted world (.told event world.file (site.progress world)) →
      Unfailed settled world.file world.log → bad receiver.state told) :
    Leads site strict settled bad (emit event) post receiver world := by
  refine Routine.holds_ask sound ?_
  intro outcome given after careful performed
  cases outcome <;> simp [receiverMachine, answer] at performed
  rename_i failure
  obtain ⟨rfl, rfl⟩ := performed
  refine ⟨sound_noted _ rfl rfl sound spares, fits_noted rfl rfl fits, ?_⟩
  cases failure with
  | none => exact done _ rfl
  | some failure => exact failing _ rfl fun on => (careful.2 on).2

end

def Standing.after (standing : Standing) : ReceptionCommand → Standing
  | .claim _ _ initial => if standing.claimed = true then standing else standing.advance initial
  | .save _ progress => standing.advance progress
  | .heartbeat | .release => standing

section

variable {site} {world : ReceiverWorld}

def ReceiverSite.key (site : ReceiverSite) : AgentId × RoomCatalogId := (site.agentId, site.catalogId)

theorem standing_table (world : ReceiverWorld) (table : ReceptionTable) (progress : Option ReceptionProgress)
    (here : (table site.key).map (·.progress) = progress) : site.standing { world with table } =
      ⟨progress.getD ⟨none, none, none⟩, progress.isSome, world.log⟩ := by
  subst here
  simp [ReceiverSite.standing, ReceiverSite.progress, ReceiverSite.record, ReceiverSite.key]

theorem standing_same (same : (table site.key).map (·.progress) = (world.table site.key).map (·.progress)) :
    site.standing { world with table } = site.standing world :=
  (standing_table world table _ same).trans (standing_table world world.table _ rfl).symm

theorem standing_obeyed (was : before.map (·.progress) = (world.table site.key).map (·.progress))
    (here : table site.key = some record) (obeyed : Obeyed before record command) :
    site.standing { world with table } = (site.standing world).after command := by
  have now : site.standing { world with table } = ⟨record.progress, true, world.log⟩ :=
    standing_table world table (some record.progress) (by rw [here]; rfl)
  have then_ : site.standing world = ⟨((before.map (·.progress)).getD ⟨none, none, none⟩), (before.map (·.progress)).isSome, world.log⟩ :=
    standing_table world world.table _ was.symm
  rw [now, then_]
  cases command with
  | claim sessionKey displayName initial =>
    rcases obeyed.2 with ⟨free, same⟩ | ⟨known, held, same⟩
    · rw [free, same]
      rfl
    · rw [held, same]
      rfl
  | heartbeat =>
    obtain ⟨known, held, same⟩ := obeyed
    rw [held, same]
    rfl
  | save revision progress =>
    rw [obeyed.1]
    rfl
  | release =>
    obtain ⟨known, held, same⟩ := obeyed
    rw [held, same]
    rfl

structure Told (site : ReceiverSite) (after : ReceiverWorld) (command : ReceptionCommand) (record : ReceptionRecord) : Prop where
  claimed : (site.standing after).claimed = true
  progress : (site.standing after).progress = record.progress
  valid : record.progress.valid = true
  active : ∀ sessionKey displayName initial, command = .claim sessionKey displayName initial → record.status = .active

structure Controlled (site : ReceiverSite) (world : ReceiverWorld) (command : ReceptionCommand)
    (given : Except Halt ReceptionRecord) (after : ReceiverWorld) : Prop where
  keyed : Keyed after.table
  file : after.file = world.file
  log : after.log = world.log
  standing : site.standing after = site.standing world ∨ site.standing after = (site.standing world).after command
  told : ∀ record, given = .ok record → site.standing after = (site.standing world).after command ∧ Told site after command record

theorem controlled_effect {session : Option String} {outcome : ReceiverOutcome} {after : ReceiverWorld}
    (keyed : Keyed world.table) (key : (request.agentId, request.catalogId) = site.key)
    (performed : answer site world (.control session request) outcome = some (given, after)) :
    (∃ drains executed lost, outcome = .controlled drains executed lost ∧ ∀ halt, given = .error halt → lost = some halt) ∧
      Controlled site world request.command given after := by
  cases outcome <;> simp only [answer, reduceCtorEq] at performed
  rename_i drains executed lost
  obtain ⟨⟨told, table⟩, ended, built⟩ := Option.map_eq_some_iff.mp performed
  cases built
  obtain ⟨keyed', same⟩ := drains_progress drains keyed site.key
  cases executed with
  | none =>
    obtain ⟨halt, here, built⟩ := Option.map_eq_some_iff.mp ended
    cases built
    exact ⟨⟨drains, none, lost, rfl, fun other same => by cases same; exact here⟩,
      ⟨keyed', rfl, rfl, .inl (standing_same same), fun record none => by cases none⟩⟩
  | some authority =>
    simp only [controlled] at ended
    cases done : execute authority (drains.foldl drained world.table) site.principal site.device request with
    | error kind =>
      rw [done] at ended
      obtain ⟨halt, here, built⟩ := Option.map_eq_some_iff.mp ended
      cases built
      exact ⟨⟨drains, some authority, lost, rfl, fun other same => by cases same; exact here⟩,
        ⟨keyed', rfl, rfl, .inl (standing_same same), fun record none => by cases none⟩⟩
    | ok answer =>
      obtain ⟨next, record⟩ := answer
      rw [done] at ended
      cases ended
      obtain ⟨here, valid, obeyed⟩ := execute_effect keyed' done
      rw [key] at here obeyed
      have whole := standing_obeyed same here obeyed
      have known : site.standing { world with table } = ⟨record.progress, true, world.log⟩ :=
        standing_table world table (some record.progress) (by rw [here]; rfl)
      have stepped : ReceptionStep (drains.foldl drained world.table)
          ⟨authority, .execute site.principal site.device request⟩ table := .inr ⟨record, done⟩
      have active : ∀ sessionKey displayName initial, request.command = .claim sessionKey displayName initial →
          record.status = .active := by
        intro sessionKey displayName initial claims
        rw [claims] at obeyed
        exact obeyed.1
      refine ⟨⟨drains, some authority, lost, rfl, ?_⟩, ⟨step_keyed keyed' stepped, rfl, rfl, .inr whole, ?_⟩⟩
      · intro halt failed
        cases lost with
        | none => cases failed
        | some other => cases failed; rfl
      · intro other same
        cases lost with
        | none =>
          cases same
          exact ⟨whole, by rw [known], by rw [known], valid, active⟩
        | some halt => cases same

end

section

variable {site strict settled} {bad : ReceiverState → ReceiverWorld → Prop} {receiver : ReceiverProcess} {world : ReceiverWorld}

variable {session : String}

theorem resume_leads (sound : Sound site strict settled world)
    (turned : Sound site strict settled (noted world (.turn ⟨delivery, batch, world.file, site.progress world⟩)))
    (fits : Fits site strict settled (site.standing (noted world (.turn ⟨delivery, batch, world.file, site.progress world⟩)))
      receiver.state)
    (silent : post .silent receiver.state (noted (noted world (.turn ⟨delivery, batch, world.file, site.progress world⟩))
      (.silent ⟨delivery, batch, world.file, site.progress world⟩)))
    (spoken : ∀ text, post (.body text) receiver.state (noted world (.turn ⟨delivery, batch, world.file, site.progress world⟩)))
    (failing : bad receiver.state (noted world (.turn ⟨delivery, batch, world.file, site.progress world⟩))) :
    Leads site strict settled bad (Routine.ask (.resume session delivery batch) id) post receiver world := by
  refine Routine.holds_ask sound ?_
  intro outcome given after _ performed
  cases outcome <;> simp only [receiverMachine, answer, reduceCtorEq] at performed
  cases performed
  cases given with
  | ok reply =>
    cases reply with
    | silent => exact ⟨sound_noted _ rfl rfl turned fun _ _ _ => trivial, fits_noted rfl rfl fits, silent⟩
    | body text => exact ⟨turned, fits, spoken text⟩
  | error halt =>
    refine ⟨turned, fits, ?_⟩
    cases halt with
    | failure failure => exact failing
    | cancelled failure => trivial
    | stopped => trivial

variable (sound : Sound site strict settled world) (fits : Ready site strict settled receiver world)
include sound fits

theorem control_leads {session : Option String}
    {post : ReceptionRecord → ReceiverState → ReceiverWorld → Prop} (key : (request.agentId, request.catalogId) = site.key)
    (log : LogSound site strict settled ((site.standing world).after request.command))
    (file : ∀ state ∈ world.file, Fits site strict settled ((site.standing world).after request.command) state)
    (own : Fits site strict settled ((site.standing world).after request.command) receiver.state)
    (done : ∀ record after, site.standing after = (site.standing world).after request.command → Told site after request.command record →
      after.file = world.file → (settled → ClaimsLevel site world (.control session request)) → post record receiver.state after)
    (failing : ∀ after, after.file = world.file → after.log = world.log → Unfailed settled world.file world.log →
      bad receiver.state after) :
    Leads site strict settled bad (control session request) post receiver world := by
  refine Routine.holds_ask sound ?_
  intro outcome given after careful performed
  obtain ⟨⟨drains, executed, lost, shape, halted⟩, effect⟩ := controlled_effect sound.keyed key performed
  have both : Sound site strict settled after ∧ Fits site strict settled (site.standing after) receiver.state := by
    rcases effect.standing with same | moved
    · exact ⟨⟨effect.keyed, same ▸ sound.log, fun state held => same ▸ sound.file state (effect.file ▸ held)⟩, same ▸ fits⟩
    · exact ⟨⟨effect.keyed, moved ▸ log, fun state held => moved ▸ file state (effect.file ▸ held)⟩, moved ▸ own⟩
  refine ⟨both.1, both.2, ?_⟩
  cases given with
  | ok record =>
    obtain ⟨moved, told⟩ := effect.told record rfl
    exact done record after moved told effect.file fun on => (careful.2 on).1
  | error halt =>
    cases halt with
    | failure failure =>
      refine failing after effect.file effect.log ?_
      intro on
      have guard := (careful.2 on).2
      rw [shape, halted (.failure failure) rfl] at guard
      exact guard
    | cancelled failure => trivial
    | stopped => trivial

theorem verify_leads (done : ∀ replyEventId, post replyEventId receiver.state (noted world (.verified record)))
    (failing : bad receiver.state world) :
    Leads site strict settled bad (verify session record agentId seconds) post receiver world := by
  refine Routine.holds_ask sound ?_
  intro outcome given after careful performed
  cases outcome <;> simp only [receiverMachine, answer, reduceCtorEq] at performed
  cases performed
  cases given with
  | ok replyEventId =>
    exact ⟨sound_noted _ rfl rfl sound fun _ _ _ => trivial, fits_noted rfl rfl fits, done replyEventId⟩
  | error halt =>
    refine ⟨sound, fits, ?_⟩
    cases halt with
    | failure failure => exact failing
    | cancelled failure => trivial
    | stopped => trivial

theorem next_batch_leads (done : ∀ batch, Follows site.position cursor batch →
      (strict → ∀ progress ∈ site.progress world, ∀ retry ∈ progress.retry, ∀ anchor ∈ batch.cursor,
        site.position retry.eventId ≤ site.position anchor) → post batch receiver.state (noted world .idle)) :
    Leads site strict settled Anyhow (Routine.ask (.nextBatch session cursor privateRoom) fun answer => answer.mapError sessionHalt)
      post receiver world := by
  refine Routine.holds_ask sound ?_
  intro outcome given after careful performed
  have idle : Sound site strict settled (noted world .idle) := sound_noted _ rfl rfl sound fun _ _ _ => trivial
  have idle' : Fits site strict settled (site.standing (noted world .idle)) receiver.state := fits_noted rfl rfl fits
  cases outcome <;> simp only [receiverMachine, answer, reduceCtorEq] at performed
  rename_i result
  cases result with
  | ok batch =>
    by_cases follows : Follows site.position cursor batch
    · simp only [follows, if_true] at performed
      cases performed
      exact ⟨idle, idle', done batch follows careful.1⟩
    · simp only [follows, if_false, reduceCtorEq] at performed
  | error halt =>
    cases performed
    refine ⟨idle, idle', ?_⟩
    cases halt <;> trivial

theorem open_session_leads (done : ∀ session, post session receiver.state (noted world .idle)) :
    Leads site strict settled Anyhow (Routine.ask (.openHostSession sessionKey displayName) id) post receiver world := by
  refine Routine.holds_ask sound ?_
  intro outcome given after _ performed
  cases outcome <;> simp only [receiverMachine, answer, reduceCtorEq] at performed
  cases performed
  refine ⟨sound_noted _ rfl rfl sound fun _ _ _ => trivial, fits_noted rfl rfl fits, ?_⟩
  cases given with
  | ok session => exact done session
  | error halt => cases halt <;> trivial

end

end AgentRoom.Reception
