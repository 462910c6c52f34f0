import AgentRoom.Reception.ReceiverLoops

namespace AgentRoom.Reception

open Library

variable {site : ReceiverSite} {strict settled : Prop} {world : ReceiverWorld}

inductive Resolves (state next : ReceiverState) (action : Resolution) : Prop where
  | retried (after : Option String) (event : String) (record : DeliveryRecord)
      (checkpoint : state.checkpoint = .pending after event) (last : state.lastDelivery = some record) (retry : action = .retry)
      (built : next = { state with
        checkpoint := .ready after
        lastDelivery := some { record with stage := .received, failure := none } })
  | skipped (after : Option String) (event : String) (record : DeliveryRecord)
      (checkpoint : state.checkpoint = .pending after event) (last : state.lastDelivery = some record) (skip : action = .skip)
      (built : next = { state with
        checkpoint := .ready (some event)
        lastDelivery := some { record with stage := .skipped, failure := none } })

theorem resolve_resolves (fits : Fits site strict settled standing state) (resolved : state.resolve event action = .ok next) :
    Resolves state next action := by
  cases checkpoint : state.checkpoint with
  | ready after => simp [ReceiverState.resolve, checkpoint] at resolved
  | pending after open_ =>
    simp only [ReceiverState.resolve, checkpoint] at resolved
    obtain ⟨_, named, rest⟩ := unbind resolved
    obtain ⟨_, _, built⟩ := unbind rest
    have same := (ensure_ok ..).mp named
    obtain ⟨_, record, last, _⟩ := fits.pending after open_ checkpoint
    have here := Except.ok.inj built
    rw [Option.mem_def.mp last] at here
    cases action with
    | retry => exact .retried after open_ record checkpoint last rfl (by rw [← here]; simp [Resolution.stage])
    | skip => exact .skipped after open_ record checkpoint last rfl (by rw [← here]; simp [Resolution.stage, same])

theorem resolve_sound (event : String) (action : Resolution) (written : Bool) (sound : Sound site strict settled world) :
    Sound site strict settled (resolveFile world event action written) := by
  cases file : world.file with
  | none => simpa [resolveFile, file] using sound
  | some state =>
    have fits := sound.file state file
    cases resolved : state.resolve event action with
    | error failure => simpa [resolveFile, file, resolved] using sound
    | ok next =>
      cases written with
      | false => simpa [resolveFile, file, resolved] using sound
      | true =>
        simp only [resolveFile, file, resolved, if_true]
        have answered := sound_noted (.resolved action state.lastDelivery) rfl rfl sound fun _ _ _ => trivial
        refine sound_stored answered ?_
        cases resolve_resolves fits resolved with
        | retried after event record checkpoint last retry built =>
          rw [built, retry, last]
          exact fits_retry checkpoint last fits
        | skipped after event record checkpoint last skip built =>
          rw [built, skip, last]
          exact fits_skip checkpoint last sound.log fits

theorem episode_sound (task : ReceiverTask) (episode : ReceiverEpisode) (next : ReceiverWorld)
    (sound : Sound task.site strict settled world)
    (stepped : EpisodeStep task (Careful task.site strict settled) world episode next) : Sound task.site strict settled next := by
  cases episode with
  | process mode rounds attempts outcomes =>
    obtain ⟨rest, driven⟩ := stepped
    have kept := drives_kept _ _ _ _ _ _ (run_keeps task.service mode rounds attempts sound) driven
    exact keeps_now kept
  | resolve event action written => exact stepped ▸ resolve_sound event action written sound

theorem opening_sound (task : ReceiverTask) (opening : Opening task world) : Sound task.site strict settled world := by
  have untouched : Untouched (task.site.standing world).log := by
    rw [show (task.site.standing world).log = world.log from rfl, opening.log]
    exact ⟨fun _ listed => (by cases listed), fun _ ⟨_, listed, _⟩ => (by cases listed)⟩
  have nothing : (task.site.standing world).log = [] := opening.log
  have ordered : ∀ progress, (task.site.standing world).progress = progress →
      (∀ pending ∈ progress.pending, Beyond task.site.position progress.afterEventId pending.eventId) ∧
        ∀ retry ∈ progress.retry, Beyond task.site.position progress.afterEventId retry.eventId := by
    intro progress same
    cases known : task.site.progress world with
    | none =>
      rw [(standing_unknown known).1] at same
      cases same
      exact ⟨fun _ none => (by cases none), fun _ none => (by cases none)⟩
    | some other =>
      rw [(standing_known known).1] at same
      cases same
      exact opening.ordered _ known
  refine ⟨opening.keyed, ?_, ?_⟩
  · refine ⟨(ordered _ rfl).1, (ordered _ rfl).2, fun turn listed => absurd listed (untouched.1 turn),
      fun turn listed => absurd listed (untouched.1 turn), ?_, ?_, ?_, fun _ => untouched⟩
    · exact fun _ => nothing ▸ each_since_nil _
    · exact fun _ => nothing ▸ each_pair_nil _
    · exact fun _ => nothing ▸ each_since_nil _
  · intro state held
    obtain ⟨binding, file⟩ := opening.file
    rw [Option.mem_def, file] at held
    cases held
    refine ⟨fun _ none => (by cases none), fun _ none => (by cases none), fun _ _ waits => (by cases waits),
      fun _ waits => (by cases waits), fun _ _ _ _ last => (by cases last), fun _ _ _ _ last => (by cases last), ?_,
      fun _ event ends => absurd ends (untouched.2 event), fun _ _ last => (by cases last), fun _ => ⟨rfl, rfl, untouched⟩⟩
    exact fun _ => nothing ▸ each_since_nil _

theorem reached_sound {task : ReceiverTask} {start : ReceiverWorld} (episodes : List ReceiverEpisode)
    (opening : Opening task start) (run : Runs (EpisodeStep task (Careful task.site strict settled)) start episodes final) :
    Sound task.site strict settled final :=
  runs_invariant _ (fun _ episode next sound stepped => episode_sound task episode next sound stepped)
    (opening_sound task opening) run

theorem episode_mono {task : ReceiverTask} {allowed weaker : ReceiverWorld → ReceiverOp → ReceiverOutcome → Prop}
    (implies : ∀ world op outcome, allowed world op outcome → weaker world op outcome) {episode : ReceiverEpisode}
    (stepped : EpisodeStep task allowed world episode next) : EpisodeStep task weaker world episode next := by
  cases episode with
  | process mode rounds attempts outcomes =>
    obtain ⟨rest, driven⟩ := stepped
    exact ⟨rest, drives_mono weaker _ _ _ _ _ implies driven⟩
  | resolve event action written => exact stepped

theorem placed_passed {turn : HostTurn} {after : List ReceiverFact}
    (placed : Placed site progress turn after) (cursor : anchor ∈ turn.batch.cursor)
    (reached : Reached site.position progress.afterEventId anchor) : Answered turn after := by
  obtain ⟨other, here, way⟩ := placed
  have same : anchor = other := Option.some.inj ((Option.mem_def.mp cursor).symm.trans here)
  rcases way with ⟨_, done⟩ | ⟨beyond, _⟩ | ⟨beyond, _⟩
  · exact done
  · exact absurd reached (beyond_not_reached _ _ (same ▸ beyond))
  · exact absurd reached (beyond_not_reached _ _ (same ▸ beyond))

theorem sound_turns_safe (sound : Sound site True settled world) : HostTurnsSafe site world where
  durable := sound.log.durable
  passed := by
    intro before entry after turn split selected anchor cursor reached
    rcases reached with ⟨state, file, reached⟩ | ⟨progress, known, reached⟩
    · exact (sound.file state file).passed trivial before entry after turn split selected anchor cursor reached
    · have stands := (standing_known known).1
      exact placed_passed (stands ▸ sound.log.placed trivial before entry after turn split selected) cursor
        reached
  separated := sound.log.separated trivial

-- Every turn of the host is recorded before it begins, is passed only when it
-- was answered, and comes again only after a retry and as the same submission,
-- in every run where no batch taken up during a retry ends before the retried one.
theorem receiver_host_turns_safe (task : ReceiverTask) (start final : ReceiverWorld) (episodes : List ReceiverEpisode)
    (opening : Opening task start) (run : Runs (EpisodeStep task (ReachesRetried task.site)) start episodes final) :
    HostTurnsSafe task.site final := by
  have sound : Sound task.site True False final := by
    refine reached_sound episodes opening ?_
    refine runs_mono _ (fun _ episode next stepped => ?_) start final episodes run
    exact episode_mono (fun _ _ _ reaches => ⟨fun _ => reaches, fun never => never.elim⟩) stepped
  exact sound_turns_safe sound

section

variable (allowed : ReceiverWorld → ReceiverOp → ReceiverOutcome → Prop)
  [∀ world op outcome, Decidable (allowed world op outcome)] (task : ReceiverTask)

def playEpisode (world : ReceiverWorld) : ReceiverEpisode → Option ReceiverWorld
  | .process mode rounds attempts outcomes =>
    play (receiverMachine task.site) allowed (run task.service mode rounds attempts) world outcomes
  | .resolve event action written => some (resolveFile world event action written)

def playEpisodes : ReceiverWorld → List ReceiverEpisode → Option ReceiverWorld
  | world, [] => some world
  | world, episode :: later => (playEpisode allowed task world episode).bind fun next => playEpisodes next later

theorem played_run (start final : ReceiverWorld) (episodes : List ReceiverEpisode)
    (played : playEpisodes allowed task start episodes = some final) : Runs (EpisodeStep task allowed) start episodes final := by
  induction episodes generalizing start with
  | nil => exact Option.some.inj played
  | cons episode later ih =>
    obtain ⟨next, first, onward⟩ := Option.bind_eq_some_iff.mp played
    refine ⟨next, ?_, ih next onward⟩
    cases episode with
    | process mode rounds attempts outcomes => exact play_drives _ _ _ _ _ _ first
    | resolve event action written => exact (Option.some.inj first).symm

end

def lobbyTask : ReceiverTask where
  site := {
    principal := ⟨0x019b76daa80070008000000000000001⟩
    device := ⟨0x019b76daa80070008000000000000002⟩
    agentId := lobbyKey.1
    catalogId := lobbyKey.2
    position := fun event => if event = "$600" then 600 else 700 }
  service := "bridge"

def lobbyBinding : ReceiverBinding := ⟨0x019b76daa80070008000000000000007, "Ada", "!lobby:example.org", .beginning⟩

def lobbyStart : ReceiverWorld := ⟨some (configured lobbyBinding "bridge"), fun _ => none, []⟩

theorem lobby_opening : Opening lobbyTask lobbyStart :=
  ⟨⟨lobbyBinding, rfl⟩, fun _ _ found => (by cases found), fun _ found => (by cases found), rfl⟩

def lobbyBatch (event : String) (messageId : Nat) : WokenBatch := ⟨[⟨event, messageId, true⟩], [event], some event⟩

def connects : List ReceiverOutcome :=
  [.opened (.ok ⟨"session", false, none⟩), .readied (.ok ⟨0x019b76daa80070008000000000000004⟩)]

def carriedOut : ReceiverOutcome := .controlled [] (some openAuthority) none

def written : ReceiverOutcome := .stored true none

def handsOver (submissionId : Nat) : List ReceiverOutcome :=
  [.minted submissionId, written, carriedOut, written, .emitted none, written, .emitted none, .passed (.ok ())]

def firstBatch : List ReceiverOutcome :=
  .loaded :: connects ++ [.placed (.ok none), written, .minted 0x019b76daa80070008000000000000006, written, carriedOut, written,
    .emitted none, .roomsListed (.ok false), .woken (.ok (lobbyBatch "$700" 0x019b76daa80070008000000000000011))] ++
    handsOver 0x019b76daa80070008000000000000021

def firstTry : List ReceiverEpisode :=
  [.process .listen 1 1 (firstBatch ++ [.resumed (.error (.failure ⟨"host.failed", false⟩))]), .resolve "$700" .retry true]

def takesUpAgain (event : String) (messageId : Nat) : List ReceiverOutcome :=
  .loaded :: connects ++ [written, carriedOut, written, carriedOut, written, .emitted none, .roomsListed (.ok false),
    .woken (.ok (lobbyBatch event messageId)), .verified (.error (.failure ⟨"receiver.reply_unconfirmed", false⟩))] ++
    handsOver 0x019b76daa80070008000000000000022 ++ [.resumed (.ok .silent), .passed (.ok ())]

def retried : List ReceiverEpisode :=
  firstTry ++ [.process .listen 1 1 (takesUpAgain "$700" 0x019b76daa80070008000000000000011)]

def retriedBefore : List ReceiverEpisode :=
  firstTry ++ [.process .listen 2 1 (takesUpAgain "$600" 0x019b76daa80070008000000000000012 ++
    [written, carriedOut, written, .emitted none, .woken (.ok (lobbyBatch "$700" 0x019b76daa80070008000000000000011))] ++
    handsOver 0x019b76daa80070008000000000000023 ++ [.resumed (.ok .silent)])]

def turnsOf (world : ReceiverWorld) : List (Nat × List String) :=
  (world.log.filterMap turnOf).map fun turn => (turn.delivery.submissionId, turn.delivery.messages.map (·.eventId))

theorem retried_safe : ∃ final, playEpisodes (ReachesRetried lobbyTask.site) lobbyTask lobbyStart retried = some final ∧
    turnsOf final = [(0x019b76daa80070008000000000000021, ["$700"]), (0x019b76daa80070008000000000000021, ["$700"])] ∧
      HostTurnsSafe lobbyTask.site final := by
  have turns : (playEpisodes (ReachesRetried lobbyTask.site) lobbyTask lobbyStart retried).map turnsOf =
      some [(0x019b76daa80070008000000000000021, ["$700"]), (0x019b76daa80070008000000000000021, ["$700"])] := by decide +kernel
  obtain ⟨final, played, same⟩ := Option.map_eq_some_iff.mp turns
  exact ⟨final, played, same, receiver_host_turns_safe lobbyTask lobbyStart final retried lobby_opening
    (played_run _ lobbyTask lobbyStart final retried played)⟩

theorem retried_before_runs_again : ∃ start final episodes, Opening lobbyTask start ∧
    Runs (EpisodeStep lobbyTask Unrestricted) start episodes final ∧ ¬ HostTurnsSafe lobbyTask.site final := by
  have turns : (playEpisodes Unrestricted lobbyTask lobbyStart retriedBefore).map turnsOf =
      some [(0x019b76daa80070008000000000000021, ["$700"]), (0x019b76daa80070008000000000000021, ["$600"]),
        (0x019b76daa80070008000000000000023, ["$700"])] := by decide +kernel
  obtain ⟨final, played, same⟩ := Option.map_eq_some_iff.mp turns
  refine ⟨lobbyStart, final, retriedBefore, lobby_opening, played_run _ lobbyTask lobbyStart final retriedBefore played, ?_⟩
  intro safe
  obtain ⟨first, rest, listed, told, others⟩ := List.map_eq_cons_iff.mp same
  obtain ⟨second, rest', listed', _, others'⟩ := List.map_eq_cons_iff.mp others
  obtain ⟨third, rest'', listed'', told', none⟩ := List.map_eq_cons_iff.mp others'
  rw [List.map_eq_nil_iff] at none
  rw [listed', listed'', none] at listed
  obtain ⟨_, separated⟩ := each_pair_listed turnOf safe.separated [] [second] [] listed
  obtain ⟨submission, messages⟩ := Prod.mk.inj told
  obtain ⟨submission', messages'⟩ := Prod.mk.inj told'
  have common : Common first third := by
    obtain ⟨message, _, given, event, _⟩ := List.map_eq_cons_iff.mp messages
    obtain ⟨other, _, given', event', _⟩ := List.map_eq_cons_iff.mp messages'
    exact ⟨message, by rw [given]; simp, other, by rw [given']; simp, event.trans event'.symm⟩
  have same := (separated common).2.1
  rw [submission, submission'] at same
  exact absurd same (by decide)

-- A batch that ended is neither reviewed, nor stopped on, nor given to the host
-- again, and the server is level with it at the next connection, in every run
-- whose claims find the server level with it and whose turns do not fail after it.
theorem receiver_finished_stays_finished (task : ReceiverTask) (start final : ReceiverWorld) (episodes : List ReceiverEpisode)
    (opening : Opening task start) (run : Runs (EpisodeStep task (SettlesEndings task.site)) start episodes final) :
    StaysFinished task.site final := by
  have sound : Sound task.site False True final := by
    refine reached_sound episodes opening ?_
    refine runs_mono _ (fun _ episode next stepped => ?_) start final episodes run
    exact episode_mono (fun _ _ _ settles => ⟨fun never => never.elim, fun _ => settles⟩) stepped
  exact sound.log.spared trivial

def saysNothing (saves : List ReceiverOutcome) : List ReceiverOutcome :=
  firstBatch ++ [.resumed (.ok .silent), .passed (.ok ()), written] ++ saves

def comesBack : List ReceiverEpisode :=
  [.process .listen 1 1 (saysNothing [carriedOut, written, .emitted none]),
    .process .listen 1 1 (.loaded :: connects ++ [written, carriedOut, written, .emitted none])]

def losesSave : List ReceiverEpisode :=
  [.process .listen 1 2 (saysNothing ([.controlled [] none (some (.failure ⟨"network.unavailable", true⟩)), .passed (.ok ()),
    .emitted none, .passed (.ok ())] ++ connects ++ [written, carriedOut, written]))]

def reviewed (event : String) : ReceiverFact → Bool
  | .wrote state => state.lastDelivery.any fun record => record.stage = .needsReview && record.eventId = event
  | _ => false

theorem comes_back_finished : ∃ final, playEpisodes (SettlesEndings lobbyTask.site) lobbyTask lobbyStart comesBack = some final ∧
    (sinceFirst endedOf "$700" final.log).length = 6 ∧ StaysFinished lobbyTask.site final := by
  have counted : (playEpisodes (SettlesEndings lobbyTask.site) lobbyTask lobbyStart comesBack).map
      (fun world => (sinceFirst endedOf "$700" world.log).length) = some 6 := by decide +kernel
  obtain ⟨final, played, same⟩ := Option.map_eq_some_iff.mp counted
  exact ⟨final, played, same, receiver_finished_stays_finished lobbyTask lobbyStart final comesBack lobby_opening
    (played_run _ lobbyTask lobbyStart final comesBack played)⟩

theorem lost_save_is_reviewed : ∃ start final episodes, Opening lobbyTask start ∧
    Runs (EpisodeStep lobbyTask Unrestricted) start episodes final ∧ ¬ StaysFinished lobbyTask.site final := by
  have again : (playEpisodes Unrestricted lobbyTask lobbyStart losesSave).map
      (fun world => (sinceFirst endedOf "$700" world.log).any (reviewed "$700")) = some true := by decide +kernel
  obtain ⟨final, played, found⟩ := Option.map_eq_some_iff.mp again
  refine ⟨lobbyStart, final, losesSave, lobby_opening, played_run _ lobbyTask lobbyStart final losesSave played, ?_⟩
  intro stays
  obtain ⟨fact, listed, review⟩ := List.any_eq_true.mp found
  obtain ⟨before, entry, split, ended⟩ := since_first_split endedOf "$700" final.log (List.ne_nil_of_mem listed)
  have spared := stays before entry _ "$700" split ended fact listed
  cases fact <;> simp only [reviewed, Bool.false_eq_true] at review
  rename_i state
  obtain ⟨record, last, stage⟩ := (Option.any_eq_true ..).mp review
  simp only [Bool.and_eq_true, decide_eq_true_eq] at stage
  exact spared record last stage.1 stage.2

end AgentRoom.Reception
