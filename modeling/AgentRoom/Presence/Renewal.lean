import AgentRoom.Presence.Publication

namespace AgentRoom.Presence

open Library

variable {μ : Type}

variable {text : String}

theorem parse_rfc3339_early (written : (rfc3339 time : Publishing μ String) = .ok text)
    (early : time.value < fiveDigitMillis) : parseTime text = .ok time := by
  simp only [rfc3339, some_or_ok, Option.map_eq_some_iff] at written
  obtain ⟨chars, wrote, same⟩ := written
  have readBack := read_write wrote ((five_digit_early time.value).mp early)
  simp [parseTime, ← same, readBack, UtcMillis.new_value, Except.toOption, okOr]

theorem parse_rfc3339_late (written : (rfc3339 time : Publishing μ String) = .ok text)
    (late : ¬ time.value < fiveDigitMillis) : parseTime text = .error .invalidEnvelope := by
  simp only [rfc3339, some_or_ok, Option.map_eq_some_iff] at written
  obtain ⟨chars, wrote, same⟩ := written
  have notEarly : ¬ (time.value / dayMillis : Nat) < fiveDigitDay := fun early =>
    late ((five_digit_early time.value).mpr early)
  have readBack := read_write_late wrote (by omega)
  simp [parseTime, ← same, readBack, okOr]

theorem lookup_present (key : String) (value : Option Json) : lookup key (present key value) = value := by
  cases value with
  | none => rfl
  | some value => simp [present, lookup]

theorem lookup_present_other (key other : String) (value : Option Json) (different : other ≠ key) :
    lookup key (present other value) = none := by
  cases value with
  | none => rfl
  | some value => simp [present, lookup, different]

section

variable {ports : StatusPorts μ} (unsigned : UnsignedStatusEvent) {signature : Json}

-- What a reader of the signed content finds in the fields about time.
structure Stated (content : Json) : Prop where
  created : content.get "createdAt" = some (.string unsigned.createdAt)
  listening : content.get "listeningUntil" = some ((unsigned.listeningUntil.map Json.string).getD .null)
  waiting : content.get "waitingUntil" = unsigned.waitingUntil.map Json.string

theorem signed_states (unsignedFields : (unsigned.toJson ports).asObject = some fields) :
    Stated unsigned (.object (fields ++ [("signature", signature)])) := by
  simp only [UnsignedStatusEvent.toJson, Json.asObject, Option.some.injEq] at unsignedFields
  subst unsignedFields
  refine ⟨?_, ?_, ?_⟩
  · simp [Json.get, Json.asObject, lookup_append, lookup_present_other, lookup_next, lookup_head]
  · simp [Json.get, Json.asObject, lookup_append, lookup_present_other, lookup_head]
  · simp [Json.get, Json.asObject, lookup_append, lookup_present_other, lookup_present, lookup_next, lookup_nil]

end

def unnamed (content : Json) : List (String × Json) :=
  remaining Wire.AgentStatusEvent.known (content.asObject.getD [])

theorem lookup_unnamed (unknown : key ∉ Wire.AgentStatusEvent.known) : lookup key (unnamed content) = content.get key := by
  rw [unnamed, lookup_remaining unknown, Json.get]
  cases content.asObject with
  | none => rfl
  | some fields => rfl

-- The receiver of an event takes both deadlines of its window for what they are.
def WindowAccepted (content : Json) (waiting : Option WaitingWindow) : Prop :=
  ∃ createdAt, statedTime content "createdAt" = some createdAt ∧
    waitDeadline (unnamed content) "listeningUntil" createdAt receptionFreshnessMs = .ok (waiting.map (·.listeningUntil)) ∧
    waitDeadline (unnamed content) "waitingUntil" createdAt waitingLeaseMs = .ok (waiting.map (·.waitingUntil))

section

variable {extensions : List (String × Json)} {field : String} {createdAt : UtcMillis} {limitMs : Int}

theorem wait_deadline_none (missing : lookup field extensions = none) :
    waitDeadline extensions field createdAt limitMs = .ok none := by
  simp only [waitDeadline, missing]
  rfl

theorem wait_deadline_null (null : lookup field extensions = some .null) :
    waitDeadline extensions field createdAt limitMs = .ok none := by
  simp only [waitDeadline, null]
  rfl

theorem wait_deadline_text (stated : lookup field extensions = some (.string text))
    (parsed : parseTime text = .ok time) (within : time.toInt ≤ saturatingAdd createdAt.toInt limitMs) :
    waitDeadline extensions field createdAt limitMs = .ok (some time) := by
  have kept : (some (Json.string text)).filter (fun value => !value.isNull) = some (.string text) := rfl
  have onTime : ¬ (some time).any (fun until_ => saturatingAdd createdAt.toInt limitMs < until_.toInt) = true := by
    simpa using within
  have read_ : timeValue (some (.string text)) = .ok (some time) := by
    simp [timeValue, Json.asStr, okOr, parsed, bind, Except.bind, pure, Except.pure]
  have passes := (ensure_ok .invalidEnvelope
    (¬ (some time).any (fun until_ => saturatingAdd createdAt.toInt limitMs < until_.toInt) = true) ()).mpr onTime
  simp only [waitDeadline, stated, kept, read_, bind, Except.bind, passes, pure, Except.pure]

theorem wait_deadline_unread (stated : lookup field extensions = some (.string text)) (unread : parseTime text = .error reason) :
    waitDeadline extensions field createdAt limitMs ≠ .ok deadline := by
  have kept : (some (Json.string text)).filter (fun value => !value.isNull) = some (.string text) := rfl
  have read_ : timeValue (some (.string text)) = .error reason := by
    simp [timeValue, Json.asStr, okOr, unread, bind, Except.bind]
  simp [waitDeadline, stated, kept, read_, bind, Except.bind]

end

theorem waiting_window_ok (made : (waitingWindow publishedAt : Publishing μ WaitingWindow) = .ok window) :
    window.listeningUntil.toInt = saturatingAdd publishedAt.toInt receptionFreshnessMs ∧
      window.waitingUntil.toInt = saturatingAdd publishedAt.toInt waitingLeaseMs := by
  simp only [waitingWindow, bind_ok, or_fail_ok] at made
  obtain ⟨listeningUntil, listening, waitingUntil, waiting, same⟩ := made
  cases same
  exact ⟨UtcMillis.new_ok listening, UtcMillis.new_ok waiting⟩

section

variable (service : StatusService) (ports : StatusPorts μ)

-- An emitted content names each time by the text written for it.
structure Written (lease : AgentStatusLease) (waiting : Option WaitingWindow) (unsigned : UnsignedStatusEvent)
    (content : Json) : Prop where
  stated : Stated unsigned content
  created : (rfc3339 lease.publishedAt : Publishing μ String) = .ok unsigned.createdAt
  listening : (rfc3339Of (waiting.map (·.listeningUntil)) : Publishing μ (Option String)) = .ok unsigned.listeningUntil
  waits : (rfc3339Of (waiting.map (·.waitingUntil)) : Publishing μ (Option String)) = .ok unsigned.waitingUntil

variable {unsigned : UnsignedStatusEvent} {intent : AgentStatusIntent} {event : MatrixStateEvent}

theorem unsigned_content_ok (made : unsignedContent service ports lease lastPolledAt waiting = .ok content) :
    ∃ unsigned : UnsignedStatusEvent, content = unsigned.toJson ports ∧
      (rfc3339 lease.publishedAt : Publishing μ String) = .ok unsigned.createdAt ∧
      (rfc3339Of (waiting.map (·.listeningUntil)) : Publishing μ (Option String)) = .ok unsigned.listeningUntil ∧
      (rfc3339Of (waiting.map (·.waitingUntil)) : Publishing μ (Option String)) = .ok unsigned.waitingUntil := by
  by_cases invalid : isVersion7 ports.eventId = false ∨ isVersion7 ports.correlationId = false
  · simp only [unsignedContent, if_pos invalid] at made
    cases made
  · simp only [unsignedContent, if_neg invalid, bind_ok] at made
    obtain ⟨createdAt, created, _, _, _, _, _, _, listeningUntil, listening, waitingUntil, waits, same⟩ := made
    cases same
    exact ⟨_, rfl, created, listening, waits⟩

theorem signed_state_event_ok (signed : signedStateEvent service ports content = .ok event) :
    ∃ fields signature, content.asObject = some fields ∧ event.content = .object (fields ++ [("signature", signature)]) := by
  simp only [signedStateEvent, bind_ok, some_or_ok] at signed
  obtain ⟨canonical, _, signature, _, fields, object, size, _, final⟩ := signed
  by_cases large : maxEventPayloadBytes < size
  · simp only [if_pos large] at final
    cases final
  · simp only [if_neg large] at final
    cases final
    exact ⟨fields, _, object, rfl⟩

theorem state_event_ok (made : stateEvent service ports lease lastPolledAt waiting = .ok event) :
    ∃ unsigned, Written (μ := μ) lease waiting unsigned event.content := by
  simp only [stateEvent, bind_ok] at made
  obtain ⟨content, unsignedMade, signed⟩ := made
  obtain ⟨unsigned, contentIs, created, listening, waits⟩ :=
    unsigned_content_ok service ports unsignedMade
  obtain ⟨fields, signature, object, eventIs⟩ := signed_state_event_ok service ports signed
  rw [contentIs] at object
  refine ⟨unsigned, ⟨?_, created, listening, waits⟩⟩
  rw [eventIs]
  exact signed_states unsigned object

structure Attempted (intent : AgentStatusIntent) (made : Attempt) : Prop where
  published : made.lease.publishedAt = ports.now
  expires : made.lease.expiresAt.value = ports.now.value + service.policy.lifetime.value
  idle : intent.waiting = false → made.waiting = none
  waits : intent.waiting = true → ∃ window, made.waiting = some window
  window : ∀ window, made.waiting = some window → (waitingWindow ports.now : Publishing μ WaitingWindow) = .ok window
  event : ∃ unsigned, Written (μ := μ) made.lease made.waiting unsigned made.event.content

theorem attempt_ok (reason : StatusPublicationReason) (snapshot : AgentStatusSnapshot) (intent : AgentStatusIntent)
    (made : Attempt) (attempted : attempt service ports reason snapshot intent = .ok made) :
    Attempted service ports intent made := by
  simp only [attempt, bind_ok, or_fail_ok, AgentStatusLease.issue] at attempted
  obtain ⟨lease, ⟨expiresAt, added, leaseIs⟩, waiting, waitingIs, event, eventIs, same⟩ := attempted
  cases leaseIs
  cases same
  have expires := UtcMillis.checked_add_value added
  have written := state_event_ok service ports eventIs
  by_cases waits : intent.waiting = true
  · simp only [AgentStatusIntent.window, if_pos waits, map_ok] at waitingIs
    obtain ⟨window, windowIs, same⟩ := waitingIs
    cases same
    exact ⟨rfl, expires, fun idle => absurd (waits.symm.trans idle) (by decide), fun _ => ⟨window, rfl⟩,
      fun other found => Option.some.inj found ▸ windowIs, written⟩
  · simp only [AgentStatusIntent.window, if_neg waits] at waitingIs
    cases waitingIs
    exact ⟨rfl, expires, fun _ => rfl, fun yes => absurd yes waits, fun other found => (nomatch found), written⟩

theorem due_reason_kept (due : dueReason previous snapshot intent now = .inl kept) : previous = some kept := by
  cases previous with
  | none => cases due
  | some status =>
    by_cases changed : status.snapshot.status ≠ snapshot.status
    · simp only [dueReason, if_pos changed] at due
      cases due
    · by_cases shown : status.snapshot.visibility ≠ snapshot.visibility
      · simp only [dueReason, if_neg changed, if_pos shown] at due
        cases due
      · by_cases renews : status.renewalDue intent now = true
        · simp only [dueReason, if_neg changed, if_neg shown, if_pos renews] at due
          cases due
        · simp only [dueReason, if_neg changed, if_neg shown, if_neg renews] at due
          cases due
          rfl

theorem prepare_ok (ready : prepare service ports published target intent = .ok prepared) :
    (∃ previous, prepared = .inl previous ∧ published target.roomId = some previous) ∨
      ∃ made, prepared = .inr made ∧ Attempted service ports intent made := by
  by_cases early : intent.lastPolledAt.any (ports.now < ·) = true
  · simp only [prepare, if_pos early] at ready
    cases ready
  · simp only [prepare, if_neg early, bind_ok, or_fail_ok] at ready
    obtain ⟨snapshot, _, rest⟩ := ready
    cases due : dueReason (published target.roomId) snapshot intent ports.now with
    | inl previous =>
      rw [due] at rest
      cases rest
      exact .inl ⟨previous, rfl, due_reason_kept due⟩
    | inr reason =>
      simp only [due, map_ok] at rest
      obtain ⟨made, attempted, same⟩ := rest
      exact .inr ⟨made, same.symm, attempt_ok service ports reason snapshot intent made attempted⟩

def windowEnd (made : Attempt) : UtcMillis := (made.waiting.map (·.waitingUntil)).getD made.lease.publishedAt

theorem stated_created
    (stated : Stated unsigned content) (written : (rfc3339 time : Publishing μ String) = .ok unsigned.createdAt)
    (early : time.value < fiveDigitMillis) : statedTime content "createdAt" = some time := by
  have parsed := parse_rfc3339_early written early
  simp [statedTime, stated.created, Json.asStr, parsed, Except.toOption]

theorem idle_accepted_iff (made : Attempt)
    (written : Written (μ := μ) made.lease made.waiting unsigned made.event.content) (idle : made.waiting = none) :
    WindowAccepted made.event.content made.waiting ↔ (windowEnd made).value < fiveDigitMillis := by
  have listening := written.listening
  have waits := written.waits
  simp only [idle, Option.map_none, rfc3339Of, Except.ok.injEq] at listening waits
  have ends : windowEnd made = made.lease.publishedAt := by simp [windowEnd, idle]
  rw [ends]
  constructor
  · intro accepted
    by_contra late
    obtain ⟨createdAt, stated, _⟩ := accepted
    have unread := parse_rfc3339_late written.created late
    simp [statedTime, written.stated.created, Json.asStr, unread, Except.toOption] at stated
  · intro early
    have listeningNull : lookup "listeningUntil" (unnamed made.event.content) = some .null := by
      rw [lookup_unnamed (by decide), written.stated.listening, ← listening]
      rfl
    have waitingNone : lookup "waitingUntil" (unnamed made.event.content) = none := by
      rw [lookup_unnamed (by decide), written.stated.waiting, ← waits]
      rfl
    rw [idle]
    exact ⟨made.lease.publishedAt, stated_created written.stated written.created early,
      wait_deadline_null listeningNull, wait_deadline_none waitingNone⟩

theorem waiting_accepted_iff (made : Attempt)
    (written : Written (μ := μ) made.lease made.waiting unsigned made.event.content) (waiting : made.waiting = some window)
    (listens : window.listeningUntil.toInt = saturatingAdd made.lease.publishedAt.toInt receptionFreshnessMs)
    (waitsFor : window.waitingUntil.toInt = saturatingAdd made.lease.publishedAt.toInt waitingLeaseMs) :
    WindowAccepted made.event.content made.waiting ↔ (windowEnd made).value < fiveDigitMillis := by
  have listeningIs := written.listening
  have waitsIs := written.waits
  simp only [waiting, Option.map_some, rfc3339Of, map_ok] at listeningIs waitsIs
  obtain ⟨listeningText, listeningWritten, listeningSame⟩ := listeningIs
  obtain ⟨waitingText, waitingWritten, waitingSame⟩ := waitsIs
  have listeningStated : lookup "listeningUntil" (unnamed made.event.content) = some (.string listeningText) := by
    rw [lookup_unnamed (by decide), written.stated.listening, ← listeningSame]
    rfl
  have waitingStated : lookup "waitingUntil" (unnamed made.event.content) = some (.string waitingText) := by
    rw [lookup_unnamed (by decide), written.stated.waiting, ← waitingSame]
    rfl
  have ends : windowEnd made = window.waitingUntil := by simp [windowEnd, waiting]
  rw [ends, waiting]
  constructor
  · intro accepted
    by_contra late
    obtain ⟨createdAt, _, _, waited⟩ := accepted
    have unread := parse_rfc3339_late waitingWritten late
    exact wait_deadline_unread waitingStated unread waited
  · intro early
    have spread : made.lease.publishedAt.value ≤ window.listeningUntil.value ∧
        window.listeningUntil.value ≤ window.waitingUntil.value := by
      have fits := made.lease.publishedAt.fits
      simp only [UtcMillis.toInt, saturatingAdd, saturate, i64Min, i64Max, receptionFreshnessMs, waitingLeaseMs] at *
      omega
    have listeningRead := parse_rfc3339_early listeningWritten (by omega)
    have waitingRead := parse_rfc3339_early waitingWritten early
    exact ⟨made.lease.publishedAt, stated_created written.stated written.created (by omega),
      wait_deadline_text listeningStated listeningRead (Int.le_of_eq listens),
      wait_deadline_text waitingStated waitingRead (Int.le_of_eq waitsFor)⟩

theorem window_accepted_iff (attempted : Attempted service ports intent made) :
    WindowAccepted made.event.content made.waiting ↔ (windowEnd made).value < fiveDigitMillis := by
  obtain ⟨unsigned, written⟩ := attempted.event
  cases waiting : made.waiting with
  | none =>
    rw [← waiting]
    exact idle_accepted_iff made written waiting
  | some window =>
    obtain ⟨listens, waitsFor⟩ := waiting_window_ok (attempted.window window waiting)
    rw [← attempted.published] at listens waitsFor
    rw [← waiting]
    exact waiting_accepted_iff made written waiting listens waitsFor

end

structure StatusCall (μ : Type) where
  ports : StatusPorts μ
  target : AgentStatusRoomTarget
  intent : AgentStatusIntent
  entropy : UInt64

section

variable (service : StatusService)

def StatusCall.perform (call : StatusCall μ) : PublicationMethod μ StatusPublicationOutcome :=
  publishIfDue service call.ports call.target call.intent call.entropy

def publishAll (calls : List (StatusCall μ)) : PublishedRooms :=
  runAll (fun call => call.perform service) (fun _ => none) calls

def Renewed (call : StatusCall μ) (published : PublishedRooms) : StatusPublicationOutcome → PublishedRooms → Prop
  | .published _ _ lease renewAt, next =>
    renewAt < lease.expiresAt ∧ lease.publishedAt = call.ports.now ∧
      ∃ status, next = published.record call.target.roomId status ∧ status.renewAt = renewAt ∧
        status.leaseExpiresAt = lease.expiresAt
  | .notDue renewAt leaseExpiresAt, next =>
    next = published ∧ ∃ status, published call.target.roomId = some status ∧ status.renewAt = renewAt ∧
      status.leaseExpiresAt = leaseExpiresAt

def InTime (published : PublishedRooms) : Prop :=
  ∀ roomId status, published roomId = some status → status.renewAt < status.leaseExpiresAt

variable {made : Attempt}

variable (call : StatusCall μ)

theorem send_yields (attempted : Attempted service call.ports call.intent made) :
    Yields (send service call.ports published call.target call.intent call.entropy made) published
      (Renewed call published) := by
  apply yields_lift
  intro eventId _
  apply yields_lift
  intro renewAt added
  rw [or_fail_ok] at added
  apply yields_commit
  have renews := UtcMillis.checked_add_value added
  have delay := service.policy.renewal_delay_in_time call.entropy
  have expires := attempted.expires
  refine ⟨?_, attempted.published, _, rfl, rfl, rfl⟩
  rw [UtcMillis.lt_iff]
  omega

theorem perform_yields (published : PublishedRooms) : Yields (call.perform service) published (Renewed call published) := by
  apply yields_get
  apply yields_lift
  intro prepared ready
  rcases prepare_ok service call.ports ready with
    ⟨previous, left, held⟩ | ⟨made, right, attempted⟩
  · rw [left]
    exact yields_pure ⟨rfl, previous, held, rfl, rfl⟩
  · rw [right]
    exact send_yields service call attempted

theorem record_in_time (status : PublishedRoomStatus)
    (others : InTime published) (inTime : status.renewAt < status.leaseExpiresAt) : InTime (published.record roomId status) := by
  intro other held found
  by_cases same : other = roomId
  · rw [PublishedRooms.record, if_pos same] at found
    exact Option.some.inj found ▸ inTime
  · rw [PublishedRooms.record, if_neg same] at found
    exact others other held found

theorem renewed_in_time (before : InTime published) (renewed : Renewed call published outcome next) : InTime next := by
  cases outcome with
  | published eventId reason lease renewAt =>
    obtain ⟨inTime, _, status, stored, renews, expires⟩ := renewed
    rw [stored]
    exact record_in_time status before (by rw [renews, expires]; exact inTime)
  | notDue renewAt leaseExpiresAt => exact renewed.1 ▸ before

theorem publish_all_in_time (calls : List (StatusCall μ)) : InTime (publishAll service calls) := by
  apply run_all_invariant (fun call : StatusCall μ => call.perform service) InTime
  · intro published call before
    exact after_of_yields (perform_yields service call published) before
      fun outcome next renewed => renewed_in_time call before renewed
  · intro roomId status found
    cases found

-- The lease of an event outlasts its next renewal, so scheduling that one cannot fail.
theorem sent_is_recorded (published : PublishedRooms) (attempted : Attempted service call.ports call.intent made)
    (sent : call.ports.publish call.target.roomId made.event = .ok eventId) :
    ∃ renewAt next, (send service call.ports published call.target call.intent call.entropy made).run published =
      .ok (.published eventId made.reason made.lease renewAt) next := by
  have delay := service.policy.renewal_delay_in_time call.entropy
  have expires := attempted.expires
  have latest := made.lease.expiresAt.fits
  have fits : call.ports.now.value + (service.policy.renewalDelay call.entropy).value ≤ i64Max := by omega
  simp only [send, sent, Except.mapError, UtcMillis.checkedAdd, dif_pos fits, orFail, lift_ok]
  exact ⟨_, _, rfl⟩

theorem perform_prepared (ready : prepare service call.ports published call.target call.intent = .ok (.inr made)) :
    (call.perform service).run published =
      (send service call.ports published call.target call.intent call.entropy made).run published := by
  change (lift (prepare service call.ports published call.target call.intent) >>=
    settle service call.ports published call.target call.intent call.entropy).run published = _
  rw [ready]
  rfl

theorem status_renewed_in_time (calls : List (StatusCall μ)) (call : StatusCall μ) : InTime (publishAll service calls) ∧
      (∀ eventId reason lease renewAt next,
        (call.perform service).run (publishAll service calls) = .ok (.published eventId reason lease renewAt) next →
        renewAt < lease.expiresAt ∧ ∃ status, next call.target.roomId = some status ∧ status.renewAt = renewAt ∧
          status.leaseExpiresAt = lease.expiresAt) ∧
      (∀ failure next, (call.perform service).run (publishAll service calls) = .error failure next →
        next = publishAll service calls) ∧
      ∀ made, prepare service call.ports (publishAll service calls) call.target call.intent = .ok (.inr made) →
        (WindowAccepted made.event.content made.waiting ↔ (windowEnd made).value < fiveDigitMillis) ∧
          ∀ eventId, call.ports.publish call.target.roomId made.event = .ok eventId →
            ∃ renewAt next, (call.perform service).run (publishAll service calls) =
              .ok (.published eventId made.reason made.lease renewAt) next := by
  have yields := perform_yields service call (publishAll service calls)
  refine ⟨publish_all_in_time service calls, ?_, ?_, ?_⟩
  · intro eventId reason lease renewAt next run
    obtain ⟨inTime, _, status, stored, renews, expires⟩ := yields_ok yields run
    refine ⟨inTime, status, ?_, renews, expires⟩
    rw [stored, PublishedRooms.record, if_pos rfl]
  · intro failure next run
    exact yields_error yields run
  · intro made ready
    rcases prepare_ok service call.ports ready with ⟨_, left, _⟩ | ⟨_, right, attempted⟩
    · cases left
    · cases right
      refine ⟨window_accepted_iff service call.ports attempted, ?_⟩
      intro eventId sent
      obtain ⟨renewAt, next, run⟩ := sent_is_recorded service call (publishAll service calls) attempted sent
      exact ⟨renewAt, next, (perform_prepared service call ready).trans run⟩

end

def asciiBytes (text : String) : List UInt8 := text.toList.map fun char => UInt8.ofNat char.toNat

def hexDigits : Nat → Nat → List Char
  | 0, _ => []
  | width + 1, number => Nat.digitChar (number / 16 ^ width % 16) :: hexDigits width number

def hyphenated (uuid : Nat) : String :=
  String.ofList (hexDigits 8 (uuid / 2 ^ 96) ++ '-' :: hexDigits 4 (uuid / 2 ^ 80) ++ '-' :: hexDigits 4 (uuid / 2 ^ 64) ++
    '-' :: hexDigits 4 (uuid / 2 ^ 48) ++ '-' :: hexDigits 12 uuid)

def waitingStatus (createdAt leaseExpiresAt listeningUntil waitingUntil : String) : String :=
  "\x7b\"actor\":\x7b\"agent\":\x7b\"agentId\":\"019b76da-a800-7000-8000-000000000001\",\"displayName\":\"Ada\"," ++
    "\"matrixUserId\":\"@ada:example.org\"\x7d,\"instanceId\":\"019b76da-a800-7000-8000-000000000002\"," ++
    "\"provenance\":\"autonomous_agent\"\x7d,\"correlationId\":\"019b76da-a800-7000-8000-000000000004\"," ++
    "\"createdAt\":\"" ++ createdAt ++ "\",\"eventType\":\"io.github.rainyflash.agentroom.agent.status.v1\"," ++
    "\"id\":\"019b76da-a800-7000-8000-000000000003\",\"leaseExpiresAt\":\"" ++ leaseExpiresAt ++
    "\",\"listeningUntil\":\"" ++ listeningUntil ++ "\",\"schemaVersion\":\"1.0\",\"status\":\"idle\",\"visibility\":\"coarse\",\"waitingUntil\":\"" ++ waitingUntil ++ "\"\x7d"

def plainPorts (now : UtcMillis) (canonical : String) (size : Nat) : StatusPorts Unit where
  now
  eventId := 0x019b76daa80070008000000000000003
  correlationId := 0x019b76daa80070008000000000000004
  formatUuid := hyphenated
  canonicalize _ := some (asciiBytes canonical)
  sign _ := some ⟨List.replicate 64 0, rfl⟩
  encodeBase64 bytes := String.ofList (List.replicate ((bytes.length * 8 + 5) / 6) 'A')
  serializedLength _ := some size
  publish _ _ := .ok ⟨"$status"⟩

def adaService : StatusService where
  identity := adaIdentity
  policy := {
    lifetime := 300000
    renewalInterval := 120000
    renewalJitter := 15000
    bounded := by decide
    jitters := by decide
    inTime := by decide }

def waitingCall (ports : StatusPorts Unit) : StatusCall Unit where
  ports
  target := ⟨⟨"!lobby:example.org"⟩, .coarse⟩
  intent := ⟨.available, none, none, true⟩
  entropy := 7

def ordinaryCall : StatusCall Unit :=
  waitingCall (plainPorts ⟨1767225600000, by decide⟩ (waitingStatus "2026-01-01T00:00:00.000Z" "2026-01-01T00:05:00.000Z"
    "2026-01-01T00:00:15.000Z" "2026-01-01T00:03:00.000Z") 698)

def lastCall : StatusCall Unit :=
  waitingCall (plainPorts ⟨253402300799000, by decide⟩ (waitingStatus "9999-12-31T23:59:59.000Z"
    "+10000-01-01T00:04:59.000Z" "+10000-01-01T00:00:14.000Z" "+10000-01-01T00:02:59.000Z") 704)

def sentEnd (call : StatusCall Unit) : Option Nat :=
  match prepare adaService call.ports (fun _ => none) call.target call.intent with
  | .ok (.inr made) => some (windowEnd made).value
  | _ => none

theorem sent_end_made (call : StatusCall Unit) (ends : Nat) (sent : sentEnd call = some ends) :
    ∃ made, prepare adaService call.ports (fun _ => none) call.target call.intent = .ok (.inr made) ∧
      (windowEnd made).value = ends := by
  cases ready : prepare adaService call.ports (fun _ => none) call.target call.intent with
  | error failure => simp [sentEnd, ready] at sent
  | ok prepared =>
    cases prepared with
    | inl previous => simp [sentEnd, ready] at sent
    | inr made =>
      simp only [sentEnd, ready, Option.some.injEq] at sent
      exact ⟨made, rfl, sent⟩

theorem status_renewed_in_time_ordinary :
    ∃ made, prepare adaService ordinaryCall.ports (fun _ => none) ordinaryCall.target ordinaryCall.intent =
        .ok (.inr made) ∧ WindowAccepted made.event.content made.waiting := by
  obtain ⟨made, ready, ends⟩ := sent_end_made ordinaryCall 1767225780000 (by decide +kernel)
  have kept := (status_renewed_in_time adaService [] ordinaryCall).2.2.2 made ready
  exact ⟨made, ready, kept.1.mpr (ends ▸ by decide)⟩

-- Its window ends in the year 10000, which the receiver cannot read.
theorem last_window_refused : ¬ ∀ (service : StatusService) (call : StatusCall Unit) (made : Attempt),
      prepare service call.ports (publishAll service ([] : List (StatusCall Unit))) call.target call.intent =
        .ok (.inr made) → WindowAccepted made.event.content made.waiting := by
  intro always
  obtain ⟨made, ready, ends⟩ := sent_end_made lastCall 253402300979000 (by decide +kernel)
  have accepted := always adaService lastCall made ready
  rcases prepare_ok adaService lastCall.ports ready with ⟨_, left, _⟩ | ⟨_, right, attempted⟩
  · cases left
  · cases right
    have early := (window_accepted_iff adaService lastCall.ports attempted).mp accepted
    rw [ends] at early
    exact absurd early (by decide)

end AgentRoom.Presence
