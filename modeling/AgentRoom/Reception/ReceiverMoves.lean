import AgentRoom.Reception.ReceiverKept

namespace AgentRoom.Reception

open Library

variable {site : ReceiverSite} {strict settled : Prop} {standing : Standing} {state : ReceiverState}

structure Alike (state other : ReceiverState) : Prop where
  agent : other.agentId = state.agentId
  catalog : other.roomCatalogId = state.roomCatalogId
  checkpoint : other.checkpoint = state.checkpoint
  last : other.lastDelivery = state.lastDelivery

variable {other : ReceiverState}

theorem fits_alike (alike : Alike state other) (fits : Fits site strict settled standing state) :
    Fits site strict settled standing other := by
  obtain ⟨execution, binding, service, agentId, catalogId, instanceId, checkpoint, enabled, last⟩ := state
  obtain ⟨execution', binding', service', agentId', catalogId', instanceId', checkpoint', enabled', last'⟩ := other
  obtain ⟨agent, catalog, same, delivered⟩ := alike
  cases agent
  cases catalog
  cases same
  cases delivered
  exact ⟨fits.agent, fits.catalog, fits.pending, fits.submission, fits.retried, fits.skipped, fits.passed, fits.ended,
    fits.review, fits.fresh⟩

theorem alike_progress (alike : Alike state other) : other.progress = state.progress := by
  simp [ReceiverState.progress, ReceiverState.lastReceived, alike.checkpoint, alike.last]

section

variable {event : String} {after : Option String}

theorem pending_not_ended (checkpoint : state.checkpoint = .pending after event) :
    state.endedAt = none := by simp [ReceiverState.endedAt, checkpoint]

section

variable (fits : Fits site strict settled standing state)
include fits

theorem pending_endings
    (checkpoint : state.checkpoint = .pending after event) (on : settled) (other : String) (ends : Ending standing.log other) :
    Reached site.position standing.progress.afterEventId other := by
  rcases fits.ended on other ends with reached | ended
  · exact reached
  · rw [pending_not_ended checkpoint] at ended
    cases ended

theorem pending_unended
    (checkpoint : state.checkpoint = .pending after event) (on : settled) : ¬ Ending standing.log event := fun ends =>
  beyond_not_reached _ _ (fits.pending after event checkpoint).1 (pending_endings fits checkpoint on event ends)

theorem level_endings (level : state.progress = .ok standing.progress) (on : settled) (ends : Ending standing.log event) :
    Reached site.position standing.progress.afterEventId event := by
  rcases fits.ended on event ends with reached | ended
  · exact reached
  · obtain ⟨ready, _⟩ := ended_ready ended
    have whole := Except.ok.inj (level.symm.trans (progress_ready (some event) ready))
    rw [whole]
    exact ⟨event, rfl, le_refl _⟩

end

theorem level_cursor (level : state.progress = .ok standing.progress) :
    state.checkpoint.cursor = standing.progress.afterEventId := by
  rcases progress_cases level with ⟨after, ready, whole⟩ | ⟨after, event, record, pending, _, whole⟩
  · rw [ready, whole]
    rfl
  · rw [pending, whole]
    rfl

end

section

variable {record : DeliveryRecord}

theorem fits_record (fits : Fits site strict settled standing state) (last : state.lastDelivery = some record)
    (same : changed.pending = record.pending) (moved : changed.stage ≠ .received ∧ changed.stage ≠ .skipped)
    (kept : changed.stage.ending = true ∨ (settled → ¬ Ending standing.log record.eventId)) :
    Fits site strict settled standing { state with lastDelivery := some changed } where
  agent := fits.agent
  catalog := fits.catalog
  pending := by
    intro after event checkpoint
    obtain ⟨beyond, known, held, here, whole⟩ := fits.pending after event checkpoint
    have own : known = record := Option.some.inj (held.symm.trans last)
    subst own
    refine ⟨beyond, changed, rfl, (congrArg ReceptionPending.eventId same).trans here, ?_⟩
    intro pending open_ at_
    exact ⟨(whole pending open_ at_).1, same.trans (whole pending open_ at_).2⟩
  submission := by
    intro on waits other held
    cases held
    have known := fits.submission on waits record last
    exact each_since_mono turnOf known fun turn _ known unpassed =>
      (congrArg ReceptionPending.submissionId same).trans (known unpassed)
  retried := by
    intro after other pending _ held stage
    cases held
    exact absurd stage moved.1
  skipped := by
    intro after other pending _ held stage
    cases held
    exact absurd stage moved.2
  passed := fits.passed
  ended := by
    intro on event ends
    rcases fits.ended on event ends with reached | ended
    · exact .inl reached
    · obtain ⟨ready, known, held, _, at_⟩ := ended_ready ended
      have own : known = record := Option.some.inj (held.symm.trans last)
      subst own
      rcases kept with ending | unended
      · exact .inr (ending_ended ready rfl ending ((congrArg ReceptionPending.eventId same).trans at_))
      · exact absurd (at_ ▸ ends) (unended on)
  review := by
    intro on other held stage ends
    cases held
    rcases kept with ending | unended
    · rw [stage] at ending
      cases ending
    · have at_ : changed.eventId = record.eventId := congrArg ReceptionPending.eventId same
      exact unended on (at_ ▸ ends)
  fresh := by
    intro new
    rw [(fits.fresh new).1] at last
    cases last

-- A batch that was handed over, or that is about to be recovered, and that the server has open.
structure InDoubt (standing : Standing) (state : ReceiverState) (record : DeliveryRecord) : Prop where
  checkpoint : state.checkpoint = .pending standing.progress.afterEventId record.eventId
  last : state.lastDelivery = some record
  «open» : (standing.progress.pending = some record.pending ∧ record.stage ≠ .received ∧ record.stage ≠ .skipped) ∨
    (standing.progress.pending = none ∧ standing.progress.retry = some record.pending)

theorem fits_completed (doubt : InDoubt standing state record) (fits : Fits site strict settled standing state)
    (answered : strict → EachSince turnOf Answered standing.log) :
    Fits site strict settled standing { state with checkpoint := .ready (some record.eventId) } where
  agent := fits.agent
  catalog := fits.catalog
  pending := fun _ _ checkpoint => by cases checkpoint
  submission := fun _ waits => by cases waits
  retried := by
    intro after other pending _ held stage waits
    have own : record = other := Option.some.inj (doubt.last.symm.trans held)
    subst own
    rcases doubt.open with ⟨_, unreceived, _⟩ | ⟨free, _⟩
    · exact absurd stage unreceived
    · rw [free] at waits
      cases waits
  skipped := by
    intro after other pending _ held stage waits
    have own : record = other := Option.some.inj (doubt.last.symm.trans held)
    subst own
    rcases doubt.open with ⟨_, _, unskipped⟩ | ⟨free, _⟩
    · exact absurd stage unskipped
    · rw [free] at waits
      cases waits
  passed := fun on => each_since_mono turnOf (answered on) fun _ _ done _ _ _ => done
  ended := fun on event ends => .inl (pending_endings fits doubt.checkpoint on event ends)
  review := fits.review
  fresh := by
    intro new
    have waits := (fits.fresh new).2.1
    rw [doubt.checkpoint] at waits
    cases waits

theorem finish_answers (fact : ReceiverFact) (turnless : turnOf fact = none) (finishes : Finishes record.submissionId fact)
    (waits : state.checkpoint.isPending = true) (last : state.lastDelivery = some record)
    (sound : LogSound site strict settled standing) (fits : Fits site strict settled standing state) (on : strict) :
    EachSince turnOf Answered (standing.note fact).log := by
  have both := each_since_and turnOf (sound.placed on) (fits.submission on waits record last)
  refine each_turn_grows turnless both ?_
  rintro turn later ⟨⟨anchor, cursor, way⟩, same⟩
  rcases way with ⟨_, done⟩ | ⟨beyond, _⟩ | ⟨beyond, _⟩
  · exact answered_grows turn later fact done
  · exact answered_now turn later fact (same ⟨anchor, cursor, beyond⟩ ▸ finishes)
  · exact answered_now turn later fact (same ⟨anchor, cursor, beyond⟩ ▸ finishes)

theorem advances_finished
    (open_ : standing.progress.pending = some pending ∨ (standing.progress.pending = none ∧ standing.progress.retry = some pending))
    (sound : LogSound site strict settled standing) (answered : strict → EachSince turnOf Answered standing.log) :
    Advances site strict standing ⟨some pending.eventId, none, none⟩ := by
  have beyond : Beyond site.position standing.progress.afterEventId pending.eventId := by
    rcases open_ with waits | ⟨_, retry⟩
    · exact sound.pending pending waits
    · exact sound.retry pending retry
  refine ⟨fun event reached => reached_advanced _ _ beyond reached, fun _ none => (by cases none),
    fun _ none => (by cases none), ?_⟩
  intro on
  have both := each_since_and turnOf (sound.placed on) (answered on)
  refine each_since_mono turnOf both ?_
  rintro turn after ⟨⟨anchor, cursor, way⟩, done⟩
  refine ⟨anchor, cursor, .inl ⟨?_, done⟩⟩
  rcases way with ⟨reached, _⟩ | ⟨_, held, waits, opened⟩ | ⟨_, free, ⟨held, retry, opened⟩, _⟩
  · exact reached_advanced _ _ beyond reached
  · rcases open_ with same | ⟨free, _⟩
    · rw [waits] at same
      cases same
      exact ⟨pending.eventId, rfl, opened.2.2⟩
    · rw [waits] at free
      cases free
  · rcases open_ with same | ⟨_, same⟩
    · rw [free] at same
      cases same
    · rw [retry] at same
      cases same
      exact ⟨pending.eventId, rfl, opened.2.2⟩

theorem finished_level (ending : changed.stage.ending = true)
    (ready : state.checkpoint = .ready (some event)) (last : state.lastDelivery = some changed) :
    state.progress = .ok ⟨some event, none, none⟩ := by
  have unreceived : changed.stage ≠ .received := by
    intro same
    rw [same] at ending
    cases ending
  rw [progress_ready (some event) ready, ReceiverState.lastReceived, last]
  simp [unreceived]

end

theorem fits_restored (sound : LogSound site strict settled standing) (fits : Fits site strict settled standing state)
    (identified : state.agentId ≠ none) (claimed : standing.claimed = true)
    (endings : settled → ∀ event, Ending standing.log event → Reached site.position standing.progress.afterEventId event) :
    Fits site strict settled standing (state.restore standing.progress) where
  agent := fits.agent
  catalog := fits.catalog
  pending := by
    intro after event checkpoint
    cases waits : standing.progress.pending with
    | none =>
      simp only [ReceiverState.restore, waits] at checkpoint
      cases checkpoint
    | some pending =>
      simp only [ReceiverState.restore, waits] at checkpoint
      cases checkpoint
      refine ⟨sound.pending pending waits, ReceiverState.restoredRecord pending .needsReview, ?_, rfl, ?_⟩
      · simp [ReceiverState.restore, ReceiverState.restoredDelivery, waits]
      · intro other held _
        cases held
        exact ⟨rfl, rfl⟩
  submission := by
    intro on open_ record last
    cases waits : standing.progress.pending with
    | none =>
      simp only [ReceiverState.restore, waits] at open_
      cases open_
    | some pending =>
      simp only [ReceiverState.restore, ReceiverState.restoredDelivery, waits, Option.mem_def] at last
      cases last
      exact each_since_mono turnOf (sound.placed on) (placed_submission standing.progress pending waits)
  retried := by
    intro after record pending ready _ _ waits
    simp only [ReceiverState.restore, Option.mem_def.mp waits] at ready
    cases ready
  skipped := by
    intro after record pending ready _ _ waits
    simp only [ReceiverState.restore, Option.mem_def.mp waits] at ready
    cases ready
  passed := by
    intro on
    refine each_since_mono turnOf (sound.placed on) ?_
    rintro turn after ⟨anchor, cursor, way⟩ other here reached
    have same : other = anchor := Option.some.inj ((Option.mem_def.mp here).symm.trans cursor)
    have own : Reached site.position standing.progress.afterEventId anchor := by
      cases waits : standing.progress.pending with
      | none => simpa [ReceiverState.restore, waits, ReceptionCheckpoint.cursor, same] using reached
      | some pending => simpa [ReceiverState.restore, waits, ReceptionCheckpoint.cursor, same] using reached
    rcases way with ⟨_, done⟩ | ⟨beyond, _⟩ | ⟨beyond, _⟩
    · exact done
    · exact absurd own (beyond_not_reached _ _ beyond)
    · exact absurd own (beyond_not_reached _ _ beyond)
  ended := fun on event ends => .inl (endings on event ends)
  review := by
    intro on record last stage ends
    cases waits : standing.progress.pending with
    | none =>
      cases retry : standing.progress.retry with
      | none =>
        simp only [ReceiverState.restore, ReceiverState.restoredDelivery, waits, retry, Option.mem_def] at last
        have ending := (Option.filter_eq_some_iff.mp last).2
        rw [stage] at ending
        cases ending
      | some asked =>
        simp only [ReceiverState.restore, ReceiverState.restoredDelivery, waits, retry, Option.mem_def] at last
        cases last
        cases stage
    | some pending =>
      simp only [ReceiverState.restore, ReceiverState.restoredDelivery, waits, Option.mem_def] at last
      cases last
      exact beyond_not_reached _ _ (sound.pending pending waits) (endings on pending.eventId ends)
  fresh := by
    rintro (new | unclaimed)
    · exact absurd new identified
    · rw [claimed] at unclaimed
      cases unclaimed

theorem restored_level (valid : progress.valid = true) : (state.restore progress).progress = .ok progress := by
  obtain ⟨after, pending, retry⟩ := progress
  cases pending with
  | some pending =>
    have alone : retry = none := by
      cases retry with
      | none => rfl
      | some retry => simp [ReceptionProgress.valid] at valid
    subst alone
    exact progress_pending pending.eventId (ReceiverState.restoredRecord pending .needsReview) rfl rfl
  | none =>
    rw [progress_ready after rfl]
    cases retry with
    | some retry => rfl
    | none =>
      have ended : (state.restore ⟨after, none, none⟩).lastReceived = none := by
        cases last : state.lastDelivery with
        | none => simp [ReceiverState.lastReceived, ReceiverState.restore, ReceiverState.restoredDelivery, last]
        | some record =>
          cases stage : record.stage <;>
            simp [ReceiverState.lastReceived, ReceiverState.restore, ReceiverState.restoredDelivery, last, stage, DeliveryStage.ending,
              Option.filter]
      rw [ended]
      rfl

theorem advances_retried (waits : standing.progress.pending = some pending) (sound : LogSound site strict settled standing)
    (asked : strict → EachSince turnOf (fun turn after => Unpassed site standing.progress turn → Retried turn after) standing.log) :
    Advances site strict standing ⟨standing.progress.afterEventId, none, some pending⟩ := by
  refine ⟨fun _ reached => reached, fun _ none => (by cases none), ?_, ?_⟩
  · intro retry held
    cases held
    exact sound.pending pending waits
  · intro on
    have both := each_since_and turnOf (sound.placed on) (asked on)
    refine each_since_mono turnOf both ?_
    rintro turn after ⟨⟨anchor, cursor, way⟩, asked⟩
    rcases way with reached | ⟨beyond, held, waits', opened⟩ | ⟨_, free, _⟩
    · exact ⟨anchor, cursor, .inl reached⟩
    · rw [waits] at waits'
      cases waits'
      exact ⟨anchor, cursor, .inr (.inr ⟨beyond, rfl, ⟨pending, rfl, opened⟩, asked ⟨anchor, cursor, beyond⟩⟩)⟩
    · rw [waits] at free
      cases free

theorem advances_fresh (after : Option String) (nowhere : standing.progress.afterEventId = none) (untouched : Untouched standing.log) :
    Advances site strict standing ⟨after, none, none⟩ := by
  refine ⟨?_, fun _ none => (by cases none), fun _ none => (by cases none), ?_⟩
  · rintro event ⟨at_, here, _⟩
    rw [nowhere] at here
    cases here
  · intro _ before entry later turn split selected
    cases entry <;> cases selected
    exact absurd (by rw [split]; simp) (untouched.1 turn)

section

variable {record : DeliveryRecord}

theorem begun_record (level : state.progress = .ok standing.progress) (begins : state.beginBatch fresh anchor target = .ok begun) :
    standing.progress.pending = none ∧ ∃ record, begun = { state with
        checkpoint := .pending standing.progress.afterEventId anchor
        lastDelivery := some record } ∧
      record.eventId = anchor ∧ record.stage = .received ∧
      ∀ retry ∈ standing.progress.retry, record.submissionId = retry.submissionId ∧ record.messageId = retry.messageId := by
  rcases progress_cases level with ⟨after, ready, whole⟩ | ⟨after, event, record, pending, _, _⟩
  · simp only [ReceiverState.beginBatch, ready, ReceptionCheckpoint.begin] at begins
    cases begins
    rw [whole]
    refine ⟨rfl, _, rfl, rfl, rfl, ?_⟩
    intro retry held
    obtain ⟨previous, last, same⟩ := Option.map_eq_some_iff.mp held
    rw [last, ← same]
    exact ⟨rfl, rfl⟩
  · simp [ReceiverState.beginBatch, pending, ReceptionCheckpoint.begin] at begins

variable (sound : LogSound site strict settled standing)
include sound

theorem advances_begun (free : standing.progress.pending = none) (beyond : Beyond site.position standing.progress.afterEventId pending.eventId)
    (carried : ∀ retry ∈ standing.progress.retry, pending.submissionId = retry.submissionId ∧ pending.messageId = retry.messageId)
    (reaches : strict → ∀ retry ∈ standing.progress.retry, site.position retry.eventId ≤ site.position pending.eventId) :
    Advances site strict standing ⟨standing.progress.afterEventId, some pending, none⟩ := by
  refine ⟨fun _ reached => reached, ?_, fun _ none => (by cases none), ?_⟩
  · intro held waits
    cases waits
    exact beyond
  · intro on
    refine each_since_mono turnOf (sound.placed on) ?_
    rintro turn after ⟨anchor, cursor, way⟩
    rcases way with reached | ⟨_, held, waits, _⟩ | ⟨unpassed, _, ⟨retry, asked, submission, target, within⟩, _⟩
    · exact ⟨anchor, cursor, .inl reached⟩
    · rw [free] at waits
      cases waits
    · have same := carried retry asked
      exact ⟨anchor, cursor, .inr (.inl ⟨unpassed, pending, rfl, same.1.trans submission, same.2.trans target,
        le_trans within (reaches on retry asked)⟩)⟩

variable (fits : Fits site strict settled standing state)
include fits

theorem fits_taken_up (level : state.progress = .ok standing.progress) (known : ¬ (state.agentId = none ∨ standing.claimed = false))
    (free : standing.progress.pending = none) (beyond : Beyond site.position standing.progress.afterEventId record.eventId)
    (review : settled → record.stage = .needsReview → ¬ Ending standing.log record.eventId)
    (carried : ∀ retry ∈ standing.progress.retry, record.submissionId = retry.submissionId) :
    Fits site strict settled standing { state with
      checkpoint := .pending standing.progress.afterEventId record.eventId
      lastDelivery := some record } where
  agent := fits.agent
  catalog := fits.catalog
  pending := by
    intro after event checkpoint
    cases checkpoint
    refine ⟨beyond, record, rfl, rfl, ?_⟩
    intro pending waits
    rw [free] at waits
    cases waits
  submission := by
    intro on _ other held
    cases held
    refine each_since_mono turnOf (sound.placed on) ?_
    rintro turn after ⟨at_, cursor, way⟩ ⟨other, held, unpassed⟩
    have same : other = at_ := Option.some.inj (held.symm.trans cursor)
    rcases way with ⟨reached, _⟩ | ⟨_, pending, waits, _⟩ | ⟨_, _, ⟨retry, asked, opened⟩, _⟩
    · exact absurd reached (beyond_not_reached _ _ (same ▸ unpassed))
    · rw [free] at waits
      cases waits
    · exact (carried retry asked).trans opened.1
  retried := fun _ _ _ ready => by cases ready
  skipped := fun _ _ _ ready => by cases ready
  passed := by
    intro on
    have cursor := level_cursor level
    exact each_since_mono turnOf (fits.passed on) fun _ _ known at_ own reached => known at_ own (cursor ▸ reached)
  ended := fun on event ends => .inl (level_endings fits level on ends)
  review := by
    intro on other held
    cases held
    exact review on
  fresh := fun new => absurd new known

theorem fits_begun (anchor : String) (level : state.progress = .ok standing.progress)
    (identified : state.agentId ≠ none) (claimed : standing.claimed = true) (free : standing.progress.pending = none)
    (beyond : Beyond site.position standing.progress.afterEventId anchor) (here : record.eventId = anchor)
    (stage : record.stage = .received) (carried : ∀ retry ∈ standing.progress.retry, record.submissionId = retry.submissionId) :
    Fits site strict settled standing { state with
      checkpoint := .pending standing.progress.afterEventId anchor
      lastDelivery := some record } := by
  subst here
  refine fits_taken_up sound fits level ?_ free beyond (fun _ review => ?_) carried
  · simp [identified, claimed]
  · rw [stage] at review
    cases review

theorem fits_recovered (level : state.progress = .ok standing.progress) (received : state.lastReceived = some previous)
    (free : standing.progress.pending = none) (asked : standing.progress.retry = some previous.pending) :
    Fits site strict settled standing { state with
      checkpoint := .pending standing.progress.afterEventId previous.eventId } := by
  have last := (last_received received).1
  have taken := fits_taken_up sound fits level (fun new => ?_) free (sound.retry previous.pending asked)
    (fun on => fits.review on previous last) (fun retry held => ?_)
  · rwa [← last] at taken
  · rw [(fits.fresh new).1] at last
    cases last
  · rw [asked] at held
    cases held
    rfl

end

section

variable {record : DeliveryRecord}

def Unrun (site : ReceiverSite) (standing : Standing) : Prop :=
  EachSince turnOf (fun turn after => Unpassed site standing.progress turn → Retried turn after) standing.log

structure Taken (site : ReceiverSite) (standing : Standing) (turn : HostTurn) (anchor : String) : Prop where
  cursor : turn.batch.cursor = some anchor
  beyond : Beyond site.position standing.progress.afterEventId anchor
  pending : standing.progress.pending = some (turn.intent anchor)
  messages : ∀ message ∈ turn.delivery.messages,
    Beyond site.position standing.progress.afterEventId message.eventId ∧ site.position message.eventId ≤ site.position anchor
  intended : Intended turn

variable {anchor : String} {turn : HostTurn}

theorem taken_separated (taken : Taken site standing turn anchor)
    (sound : LogSound site strict settled standing) (on : strict) (unrun : Unrun site standing) :
    EachSince turnOf (fun earlier between => Separated earlier between turn) standing.log := by
  intro before entry between earlier split selected ⟨message, given, other, given', same⟩
  have listed : .turn earlier ∈ standing.log := by
    cases entry <;> cases selected
    rw [split]
    exact List.mem_append_cons_self
  obtain ⟨at_, cursor, way⟩ := sound.placed on before entry between earlier split selected
  rcases way with ⟨reached, _⟩ | ⟨beyond, held, waits, opened⟩ | ⟨_, free, _⟩
  · have within := sound.bounded earlier listed at_ cursor message given
    have behind := reached_behind _ _ reached (taken.messages other given').1
    rw [← same] at behind
    exact absurd within (not_le.mpr behind)
  · rw [taken.pending] at waits
    cases waits
    exact ⟨unrun before entry between earlier split selected ⟨at_, cursor, beyond⟩, opened.1.symm, opened.2.1.symm⟩
  · rw [taken.pending] at free
    cases free

theorem log_sound_turn (taken : Taken site standing turn anchor)
    (sound : LogSound site strict settled standing) (claimed : standing.claimed = true) (unrun : strict → Unrun site standing)
    (endings : settled → ∀ event, Ending standing.log event → Reached site.position standing.progress.afterEventId event) :
    LogSound site strict settled (standing.note (.turn turn)) where
  pending := sound.pending
  retry := sound.retry
  durable := by
    intro other listed
    rcases List.mem_append.mp listed with old | new
    · exact sound.durable other old
    · cases List.mem_singleton.mp new
      exact taken.intended
  bounded := by
    intro other listed
    rcases List.mem_append.mp listed with old | new
    · exact sound.bounded other old
    · cases List.mem_singleton.mp new
      intro at_ here message given
      have same : anchor = at_ := Option.some.inj (taken.cursor.symm.trans here)
      exact same ▸ (taken.messages message given).2
  placed := by
    intro on
    refine each_since_snoc turnOf (sound.placed on) (placed_grows) ?_
    intro other selected
    cases selected
    exact ⟨anchor, taken.cursor, .inr (.inl ⟨taken.beyond, _, taken.pending, rfl, rfl, le_refl _⟩)⟩
  separated := by
    intro on
    refine each_pair_snoc turnOf (sound.separated on) ?_
    intro other selected
    cases selected
    exact taken_separated taken sound on (unrun on)
  spared := by
    intro on
    refine spared_grows (sound.spared on) ?_
    intro event ends message given
    exact reached_behind _ _ (endings on event ends) (taken.messages message given).1
  untouched := by
    intro unclaimed
    exact absurd (claimed.symm.trans unclaimed) (by simp)

theorem fits_turn (taken : Taken site standing turn anchor)
    (checkpoint : state.checkpoint = .pending standing.progress.afterEventId anchor) (last : state.lastDelivery = some record)
    (same : record.submissionId = turn.delivery.submissionId) (fits : Fits site strict settled standing state) :
    Fits site strict settled (standing.note (.turn turn)) state where
  agent := fits.agent
  catalog := fits.catalog
  pending := fits.pending
  submission := by
    intro on waits other held
    refine each_since_snoc turnOf (fits.submission on waits other held) (fun _ _ known => known) ?_
    intro item selected _
    cases selected
    have own : record = other := Option.some.inj (last.symm.trans held)
    exact own ▸ same
  retried := by
    intro after _ _ ready
    rw [checkpoint] at ready
    cases ready
  skipped := by
    intro after _ _ ready
    rw [checkpoint] at ready
    cases ready
  passed := by
    intro on
    refine each_since_snoc turnOf (fits.passed on) ?_ ?_
    · exact fun earlier after known at_ here reached => answered_grows earlier after _ (known at_ here reached)
    · intro item selected at_ here reached
      cases selected
      have own : anchor = at_ := Option.some.inj (taken.cursor.symm.trans here)
      rw [checkpoint] at reached
      exact absurd reached (beyond_not_reached _ _ (own ▸ taken.beyond))
  ended := by
    intro on event ends
    rcases ending_grows _ ends with old | new
    · exact fits.ended on event old
    · cases new
  review := by
    intro on other held stage ends
    rcases ending_grows _ ends with old | new
    · exact fits.review on other held stage old
    · cases new
  fresh := by
    intro new
    rw [(fits.fresh new).1] at last
    cases last

end

section

variable {record : DeliveryRecord}

variable {event : String} {after : Option String}

theorem fits_retry (checkpoint : state.checkpoint = .pending after event)
    (last : state.lastDelivery = some record) (fits : Fits site strict settled standing state) :
    Fits site strict settled (standing.note (.resolved .retry (some record))) { state with
      checkpoint := .ready after
      lastDelivery := some { record with stage := .received, failure := none } } where
  agent := fits.agent
  catalog := fits.catalog
  pending := fun _ _ waits => by cases waits
  submission := fun _ waits => by cases waits
  retried := by
    intro after' other pending ready held _ waits here
    cases ready
    cases held
    obtain ⟨_, known, held, at_, whole⟩ := fits.pending after event checkpoint
    have own : known = record := Option.some.inj (held.symm.trans last)
    subst own
    obtain ⟨cursor, same⟩ := whole pending waits (here.symm.trans at_)
    refine ⟨cursor, same, ?_⟩
    intro on
    have submission := fits.submission on (by rw [checkpoint]; rfl) _ last
    exact each_turn_grows rfl submission fun turn after same unpassed =>
      ⟨known, List.mem_concat_self, same unpassed⟩
  skipped := by
    intro _ other _ _ held stage
    cases held
    cases stage
  passed := fun on => each_turn_grows rfl (fits.passed on) fun turn after known anchor here reached =>
    answered_grows turn after _ (known anchor here (by rw [checkpoint]; exact reached))
  ended := by
    intro on other ends
    rcases ending_grows _ ends with old | new
    · exact .inl (pending_endings fits checkpoint on other old)
    · cases new
  review := by
    intro _ other held stage
    cases held
    cases stage
  fresh := by
    intro new
    rw [(fits.fresh new).1] at last
    cases last

theorem fits_skip (checkpoint : state.checkpoint = .pending after event) (last : state.lastDelivery = some record)
    (sound : LogSound site strict settled standing) (fits : Fits site strict settled standing state) :
    Fits site strict settled (standing.note (.resolved .skip (some record))) { state with
      checkpoint := .ready (some event)
      lastDelivery := some { record with stage := .skipped, failure := none } } where
  agent := fits.agent
  catalog := fits.catalog
  pending := fun _ _ waits => by cases waits
  submission := fun _ waits => by cases waits
  retried := by
    intro _ other _ _ held stage
    cases held
    cases stage
  skipped := by
    intro after' other pending ready held _ waits here
    cases ready
    cases held
    obtain ⟨_, known, held, at_, _⟩ := fits.pending after event checkpoint
    have own : known = record := Option.some.inj (held.symm.trans last)
    subst own
    refine ⟨?_, finish_answers (.resolved .skip (some known)) rfl rfl (by rw [checkpoint]; rfl) last sound fits⟩
    rw [← at_]
    exact congrArg some here
  passed := fun on =>
    each_since_mono turnOf (finish_answers (.resolved .skip (some record)) rfl rfl (by rw [checkpoint]; rfl) last sound fits on) fun _ _ done _ _ _ => done
  ended := by
    intro on other ends
    rcases ending_grows _ ends with old | new
    · exact .inl (pending_endings fits checkpoint on other old)
    · cases new
  review := by
    intro _ other held stage
    cases held
    cases stage
  fresh := by
    intro new
    rw [(fits.fresh new).1] at last
    cases last

end

end AgentRoom.Reception
