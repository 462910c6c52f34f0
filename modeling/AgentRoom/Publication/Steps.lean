import AgentRoom.Publication.Sound

namespace AgentRoom.Publication

open Library Presence

section

variable {α : Type} {world next : World} {result : StoreResult (Submissions × α)}

theorem stored_ok (stored : World.Stored world result (.ok value) next) :
    ∃ rows, result = .ok (rows, value) ∧ next = { world with rows } := by
  rcases stored with ⟨rows, other, run, built, answered | answered⟩ | ⟨_, _, answered, _⟩ | ⟨answered, _⟩
  · cases answered
    exact ⟨rows, run, built⟩
  · cases answered
  · cases answered
  · cases answered

theorem stored_error (stored : World.Stored world result (.error kind) next) : kind = .unavailable ∨ result = .error kind := by
  rcases stored with ⟨_, _, _, _, answered | answered⟩ | ⟨_, run, answered, _⟩ | ⟨answered, _⟩
  · cases answered
  · cases answered
    exact .inl rfl
  · cases answered
    exact .inr run
  · cases answered
    exact .inl rfl

end

structure Claimed (encodings : WireEncodings) (call : PublicationCall) (origin : World) (record : MessageSubmissionRecord)
    (world : World) : Prop where
  row : ∃ row ∈ world.rows, Advanced record row
  recorded : expectsEvent record.state = record.eventId.isSome
  submissionId : record.submissionId = call.submissionId
  kind : record.kind = call.kind
  fingerprint : call.fingerprint encodings = .ok record.fingerprint
  transactionId : call.transactionId encodings = .ok record.transactionId
  unbound : record.state ≠ .bound → ¬ BoundIn origin call.submissionId

section

variable {encodings : WireEncodings} {call : PublicationCall} {origin world next : World} {record : MessageSubmissionRecord}

theorem claimed_later (later : WorldLater world next) (claimed : Claimed encodings call origin record world) :
    Claimed encodings call origin record next := by
  obtain ⟨row, listed, advanced⟩ := claimed.row
  obtain ⟨after, there, advanced'⟩ := later.rows row listed
  exact { claimed with row := ⟨after, there, advanced_trans advanced advanced'⟩ }

theorem claimed_owned (claimed : Claimed encodings call origin record world) : Owned encodings call world := by
  obtain ⟨row, listed, advanced⟩ := claimed.row
  exact ⟨row, listed, advanced.submissionId.trans claimed.submissionId, advanced.kind.trans claimed.kind,
    advanced.fingerprint ▸ claimed.fingerprint, advanced.transactionId ▸ claimed.transactionId⟩

theorem claimed_named (claimed : Claimed encodings call origin record world)
    (named : record.eventId = some eventId) : NamedIn world call.submissionId eventId := by
  obtain ⟨row, listed, advanced⟩ := claimed.row
  exact ⟨row, listed, advanced.submissionId.trans claimed.submissionId, advanced.eventId eventId named⟩

end

section

variable {encodings : WireEncodings} {call : PublicationCall} {origin : World}

variable {world : World} {α : Type} {eventId : MatrixEventId}

theorem claim_safe {fingerprint : MessageSubmissionFingerprint}
    (own : call.fingerprint encodings = .ok fingerprint) (own' : call.transactionId encodings = .ok transactionId) (since : WorldLater origin world) :
    Safe rely (May encodings call origin) (Passes (Promise encodings call) (Claimed encodings call origin))
      (claim call.submissionId call.kind fingerprint transactionId).run world := by
  intro now sound later
  refine ⟨⟨rfl, rfl, own, own'⟩, fun answer after answers sound' later' => ?_⟩
  have shown (row : MessageSubmissionRecord) (listed : row ∈ after.rows) (same : row.submissionId = call.submissionId)
      (kind : row.kind = call.kind) (intent : row.fingerprint = fingerprint) (transaction : row.transactionId = transactionId) :
      Claimed encodings call origin row after := by
    refine ⟨⟨row, listed, advanced_refl⟩, sound'.rows.recorded row listed, same, kind, intent ▸ own, transaction ▸ own', ?_⟩
    intro unbound bound
    have since' := world_later_trans (world_later_trans since later) later'
    obtain ⟨other, there, same', final⟩ := bound_later since' bound
    have equal := key_unique _ after.rows sound'.rows.ids row other listed there (same.trans same'.symm)
    exact unbound (equal ▸ final)
  have cases := claim_record_cases sound.rows
    { submissionId := call.submissionId, kind := call.kind, fingerprint, transactionId } (call_ordered call)
  cases answer with
  | ok outcome =>
    obtain ⟨rows, run, built⟩ := stored_ok answers
    have claimed : Claimed encodings call origin outcome.record after := by
      rcases cases with ⟨row, listed, same, ⟨kind, intent, transaction⟩, ran⟩ | ⟨_, _, _, _, ran⟩ | ⟨_, _, ran⟩ | ⟨_, _, ran⟩
      · rw [ran] at run
        cases run
        exact shown row (built ▸ listed) same kind intent transaction
      · rw [ran] at run
        cases run
      · rw [ran] at run
        cases run
      · rw [ran] at run
        cases run
        refine shown _ ?_ rfl rfl rfl rfl
        rw [built]
        exact List.mem_concat_self
    exact fun then' _ later'' => claimed_later later'' claimed
  | error kind =>
    have refused : kind = .unavailable ∨ kind = .conflict := by
      rcases stored_error answers with unavailable | run
      · exact .inl unavailable
      · rcases cases with ⟨_, _, _, _, ran⟩ | ⟨_, _, _, _, ran⟩ | ⟨_, _, ran⟩ | ⟨_, _, ran⟩ <;> rw [ran] at run <;> cases run
        · exact .inr rfl
        · exact .inr rfl
    rcases refused with unavailable | conflict
    · exact fun _ _ _ => .inr (.inr (.inr (.inr (congrArg MessagePublicationFailure.store unavailable))))
    · exact fun _ _ _ => .inr (.inl (congrArg MessagePublicationFailure.store conflict))

theorem owned_consult_safe {read : op.Answer → Except MessagePublicationFailure α} (owned : Owned encodings call world)
    (may : ∀ now, SoundWorld now → WorldLater world now → May encodings call origin op now)
    (answered : ∀ now answer after value, SoundWorld now → WorldLater world now → World.Answers now op answer after →
      SoundWorld after → read answer = .ok value → rely.Stays (middle value) after) :
    Safe rely (May encodings call origin) (Passes (Promise encodings call) middle)
      (consult op read : Publishing α).run world := by
  intro now sound later
  refine ⟨may now sound later, fun answer after answers sound' later' => ?_⟩
  change rely.Stays (Passes (Promise encodings call) middle (read answer)) after
  cases result : read answer with
  | ok value => exact answered now answer after value sound later answers sound' result
  | error failure =>
    exact fun then' _ later'' =>
      .inl (owned_later (world_later_trans later (world_later_trans later' later'')) owned)

theorem settled_safe (holds : ∀ value, result = .ok value → rely.Stays (middle value) world)
    (fails : ∀ failure, result = .error failure →
      rely.Stays (Promise encodings call (.error failure : Except _ MessagePublicationOutcome)) world) :
    Safe rely (May encodings call origin) (Passes (Promise encodings call) middle) (settled result : Publishing α).run world := by
  cases result with
  | ok value => exact holds value rfl
  | error failure => exact fails failure rfl

theorem owned_fails (owned : Owned encodings call world) {failure : MessagePublicationFailure} :
    rely.Stays (Promise encodings call (.error failure : Except _ MessagePublicationOutcome)) world :=
  fun _ _ later => .inl (owned_later later owned)

variable {roomId : MatrixRoomId}

theorem mark_bound_safe (owned : Owned encodings call world) (named : NamedIn world call.submissionId eventId) :
    Safe rely (May encodings call origin) (Promise encodings call)
      (markBound call.submissionId (.published call.submissionId eventId reused)).run world := by
  refine safe_then (fun _ _ => True) (owned_consult_safe owned ?_ ?_) ?_
  · exact fun now _ later => ⟨rfl, owned_later later owned⟩
  · exact fun _ _ _ _ _ _ _ _ _ => fun _ _ _ => trivial
  · intro _ now _ later _
    exact fun then' _ later' => ⟨owned_later (world_later_trans later later') owned, rfl,
      named_later (world_later_trans later later') named⟩

theorem bind_safe {contentId : ContentId} (owned : Owned encodings call world) (named : NamedIn world call.submissionId eventId) :
    Safe rely (May encodings call origin) (Promise encodings call)
      (bind call.submissionId contentId roomId eventId reused).run world := by
  have pending (now : World) (later : WorldLater world now) : rely.Stays (Promise encodings call
      (.ok (.acceptedBindingPending call.submissionId eventId))) now :=
    fun _ _ later' => ⟨owned_later (world_later_trans later later') owned, rfl,
      named_later (world_later_trans later later') named⟩
  refine safe_then (fun _ _ => True) (owned_consult_safe owned ?_ ?_) ?_
  · exact fun now _ later => owned_later later owned
  · exact fun _ _ _ _ _ _ _ _ _ => fun _ _ _ => trivial
  · intro answer now _ later _
    have mine := owned_later later owned
    cases answer with
    | ok done => exact mark_bound_safe mine (named_later later named)
    | error kind =>
      cases kind with
      | unavailable => exact pending now later
      | unknownCommit => exact pending now later
      | invalidRequest => exact owned_fails mine
      | denied => exact owned_fails mine
      | conflict => exact owned_fails mine
      | internal => exact owned_fails mine

theorem publish_safe {event : MatrixEvent} (publishes : Publishes encodings call origin event world) :
    Safe rely (May encodings call origin)
      (Passes (Promise encodings call) fun result now => ∀ eventId, result = some eventId → NamedIn now call.submissionId eventId)
      (publish call.submissionId roomId event).run world := by
  have stays (now : World) (later : WorldLater world now) : Publishes encodings call origin event now :=
    { publishes with
      owned := owned_later later publishes.owned
      revoked := fun request asked => later.revoked _ (publishes.revoked request asked)
      authorized := fun request asked autonomous => authorized_later later (publishes.authorized request asked autonomous) }
  refine safe_then (fun answer now => ∀ eventId, answer = .ok eventId → AcceptedIn now.events event.transactionId eventId) (owned_consult_safe publishes.owned (fun now _ later => stays now later) ?_) ?_
  · intro now answer after value sound later answers sound' read then' _ later' eventId named
    cases read
    subst named
    have received := (received_sound sound ⟨roomId, event⟩).1
    exact accepted_later later' (accepts_sound received
      List.mem_concat_self answers).2
  · intro answer now sound later accepted
    have mine := owned_later later publishes.owned
    cases answer with
    | ok eventId =>
      refine safe_then (fun _ after => NamedIn after call.submissionId eventId)
        (owned_consult_safe mine ?_ ?_) ?_
      · exact fun then' _ later' => ⟨rfl, owned_later later' mine, event.transactionId, publishes.transaction,
          accepted_later later' (accepted eventId rfl)⟩
      · intro then' answer after value sound' later' answers _ read later'' _ onward
        cases answer with
        | error kind => cases read
        | ok record =>
          obtain ⟨rows, run, built⟩ := stored_ok answers
          refine named_later onward ?_
          have known (row : MessageSubmissionRecord) (listed : row ∈ then'.rows)
              (same : row.submissionId = call.submissionId) : AcceptedIn then'.events row.transactionId eventId :=
            owned_transaction sound' (owned_later later' mine) publishes.transaction listed same ▸
              accepted_later later' (accepted eventId rfl)
          obtain ⟨row, listed, own, named⟩ := (mark_accepted_writes sound'.rows known run).2
          exact ⟨row, built ▸ listed, own, named⟩
      · intro _ after _ later' named then' _ later'' eventId' same
        cases same
        exact named_later later'' named
    | error kind =>
      by_cases unknown : kind = .unknownCommit
      · subst unknown
        refine safe_then (fun _ _ => True) (owned_consult_safe mine ?_ ?_) ?_
        · exact fun then' _ later' => ⟨rfl, owned_later later' mine⟩
        · exact fun _ _ _ _ _ _ _ _ _ => fun _ _ _ => trivial
        · intro _ after _ later' _ then' _ later'' eventId same
          cases same
      · cases kind with
        | unknownCommit => exact absurd rfl unknown
        | _ => exact owned_fails mine

end

theorem head_read
    (built : MatrixEvent.new encodings eventType transactionId
      (.object (eventHead encodings identity eventType submissionId createdAt provenance roomId ++ rest)) = .ok event) :
    event.transactionId = transactionId ∧ event.submission = some (encodings.formatUuid submissionId.uuid) ∧
      event.provenance = some provenance.asStr := by
  obtain ⟨size, _, rest'⟩ := unbind built
  obtain ⟨_, _, made⟩ := unbind rest'
  cases made
  refine ⟨rfl, ?_, ?_⟩
  · simp [MatrixEvent.submission, Json.get, Json.asObject, Json.asStr, eventHead, lookup, wireId]
  · simp [MatrixEvent.provenance, Json.get, Json.asObject, Json.asStr, eventHead, lookup, actor]

section

variable {encodings : WireEncodings} {call : PublicationCall} {origin : World}

variable {world : World} {record : MessageSubmissionRecord} {outcome : MessagePublicationOutcome}

abbrev BuildsOwn (encodings : WireEncodings) (call : PublicationCall) (origin : World) (event : Wiring MatrixEvent) (world : World) : Prop :=
  Safe rely (May encodings call origin) (fun result _ => ∀ event, result = .ok event → Carries encodings call event) event.run world

theorem event_safe (identity : BridgeAgentIdentity) (own : call.transactionId encodings = .ok transactionId)
    (headed : ∀ content, unsigned = .ok content → ∃ createdAt roomId rest, content =
      eventHead encodings identity eventType call.submissionId createdAt call.provenance roomId ++ rest) (owned : Owned encodings call world) :
    BuildsOwn encodings call origin (settled unsigned >>= signedEvent encodings eventType transactionId) world := by
  have failing {α : Type} (failure : MessageWireFailure) (now : World) : rely.Stays
      (Passes (fun (result : Except MessageWireFailure MatrixEvent) _ => ∀ event, result = .ok event → Carries encodings call event)
        (fun (_ : α) _ => True) (.error failure)) now := by
    intro _ _ _ event same
    cases same
  refine safe_then (fun content _ => unsigned = .ok content) ?_ ?_
  · cases unsigned with
    | ok content => exact fun _ _ _ => rfl
    | error failure => exact failing (α := List (String × Json)) failure world
  intro content now _ later listed
  obtain ⟨createdAt, roomId, rest, built⟩ := headed content listed
  subst built
  refine safe_then (fun _ _ => True) ?_ ?_
  · cases orWire MessageWireFailure.serialization (encodings.canonicalize (.object
      (eventHead encodings identity eventType call.submissionId createdAt call.provenance roomId ++ rest))) with
    | ok canonical => exact fun _ _ _ => trivial
    | error failure => exact failing failure now
  intro canonical now' _ later' _
  refine safe_then (fun _ _ => True) ?_ ?_
  · intro now'' _ later''
    refine ⟨owned_later (world_later_trans later (world_later_trans later' later'')) owned, fun answer after _ _ _ => ?_⟩
    cases answer with
    | some signature => exact fun _ _ _ => trivial
    | none => exact failing .signing after
  intro signature now'' _ _ _ after _ _ event same
  rw [insertSignature, List.append_assoc] at same
  obtain ⟨transaction, submission, provenance⟩ := head_read same
  exact ⟨transaction ▸ own, submission, provenance⟩

variable {content : MessageContentRecord}

theorem preview_event_safe (own : previewTransactionId encodings request.submissionId = .ok transactionId)
    (owned : Owned encodings ⟨service, .send request⟩ world) :
    BuildsOwn encodings ⟨service, .send request⟩ origin (previewEvent encodings service request transactionId content) world := by
  have mine : (PublicationCall.mk service (.send request)).transactionId encodings = .ok transactionId := own
  refine event_safe service.identity mine ?_ owned
  intro unsigned built
  obtain ⟨createdAt, _, made⟩ := unbind built
  have read := (Except.ok.inj made).symm
  rw [List.append_assoc] at read
  exact ⟨createdAt, request.roomId, _, read⟩

theorem edit_event_safe (own : revisionTransactionId encodings request.submissionId = .ok transactionId)
    (owned : Owned encodings ⟨service, .edit request⟩ world) :
    BuildsOwn encodings ⟨service, .edit request⟩ origin (editEvent encodings service request transactionId content) world := by
  have mine : (PublicationCall.mk service (.edit request)).transactionId encodings = .ok transactionId := own
  refine event_safe service.identity mine ?_ owned
  intro unsigned built
  obtain ⟨createdAt, _, made⟩ := unbind built
  exact ⟨createdAt, request.roomId, _, (Except.ok.inj made).symm⟩

theorem redact_event_safe (own : revisionTransactionId encodings request.submissionId = .ok transactionId)
    (owned : Owned encodings ⟨service, .redact request⟩ world) :
    BuildsOwn encodings ⟨service, .redact request⟩ origin (redactEvent encodings service request transactionId) world := by
  have mine : (PublicationCall.mk service (.redact request)).transactionId encodings = .ok transactionId := own
  refine event_safe service.identity mine ?_ owned
  intro unsigned built
  obtain ⟨createdAt, _, made⟩ := unbind built
  exact ⟨createdAt, request.roomId, _, (Except.ok.inj made).symm⟩

theorem built_safe {event : Wiring MatrixEvent} (owned : Owned encodings call world)
    (builds : BuildsOwn encodings call origin event world) :
    Safe rely (May encodings call origin) (Passes (Promise encodings call) fun event _ => Carries encodings call event)
      (failAs mapWireFailure event : Publishing MatrixEvent).run world := by
  refine safe_bind _ _ _ _ _ builds fun result now _ later carries => ?_
  cases result with
  | ok built => exact fun then' sound later' => carries then' sound later' built rfl
  | error failure => exact owned_fails (owned_later later owned)

theorem completed_outcome_some (completed : completedOutcome record = some outcome) :
    ∃ eventId, record.eventId = some eventId ∧ outcome = .published record.submissionId eventId true := by
  rw [completedOutcome] at completed
  split at completed
  case isTrue => cases completed
  case isFalse =>
    obtain ⟨eventId, named, built⟩ := Option.map_eq_some_iff.mp completed
    exact ⟨eventId, named, built.symm⟩

theorem completed_outcome_none
    (recorded : expectsEvent record.state = record.eventId.isSome) (unfinished : completedOutcome record = none) :
    record.state ≠ .bound := by
  intro bound
  rw [completedOutcome, if_neg (by simp [bound]), Option.map_eq_none_iff] at unfinished
  rw [bound, unfinished] at recorded
  cases recorded

theorem completed_safe (claimed : Claimed encodings call origin record world) (completed : completedOutcome record = some outcome) :
    Safe rely (May encodings call origin) (Promise encodings call)
      (settled (.ok outcome) : Publishing MessagePublicationOutcome).run world := by
  obtain ⟨eventId, named, built⟩ := completed_outcome_some completed
  intro now _ later
  have claimed' := claimed_later later claimed
  rw [built, claimed.submissionId]
  exact ⟨claimed_owned claimed', rfl, claimed_named claimed' named⟩

theorem accepted_event (recorded : expectsEvent record.state = record.eventId.isSome)
    (accepted : record.state = .accepted) : ∃ eventId, record.eventId = some eventId := by
  rw [accepted] at recorded
  exact Option.isSome_iff_exists.mp recorded.symm

theorem event_of_record_safe (named : found = some eventId) :
    Safe rely (May encodings call origin) (Passes (Promise encodings call) fun read _ => read = eventId)
      (settled (found.elim (.error .invalidIntent) .ok) : Publishing MatrixEventId).run world := by
  subst named
  exact fun _ _ _ => rfl

theorem publish_body_safe {roomId : MatrixRoomId} {event : MessageContentRecord → Wiring MatrixEvent}
    (claimed : Claimed encodings call origin record world) (isMessage : ∀ request, call.request ≠ .redact request)
    (authorized : ∀ request, call.request = .send request → request.provenance = .autonomousAgent →
      AuthorizedIn world request.submissionId)
    (builds : ∀ content now, Owned encodings call now → BuildsOwn encodings call origin (event content) now) :
    Safe rely (May encodings call origin) (Promise encodings call)
      (publishBody call.submissionId roomId body record event).run world := by
  have owned := claimed_owned claimed
  rw [publishBody]
  cases completes : completedOutcome record with
  | some outcome => exact completed_safe claimed completes
  | none =>
    have unbound := completed_outcome_none claimed.recorded completes
    refine safe_then (fun _ _ => True) ?_ ?_
    · refine safe_then (fun _ _ => True) (owned_consult_safe owned ?_ ?_) ?_
      · exact fun now _ later => owned_later later owned
      · exact fun _ _ _ _ _ _ _ _ _ => fun _ _ _ => trivial
      intro content now _ later _
      refine safe_then (fun _ _ => True) (settled_safe ?_ ?_) ?_
      · exact fun _ _ => fun _ _ _ => trivial
      · exact fun failure _ => owned_fails (owned_later later owned)
      · exact fun _ _ _ _ _ => fun _ _ _ => trivial
    intro content now _ later _
    by_cases accepted : record.state = .accepted
    · rw [if_pos accepted]
      obtain ⟨eventId, named⟩ := accepted_event claimed.recorded accepted
      refine safe_then _ (event_of_record_safe named) ?_
      intro found now' _ later' same
      subst same
      have claimed' := claimed_later (world_later_trans later later') claimed
      rw [claimed.submissionId]
      exact bind_safe (claimed_owned claimed') (claimed_named claimed' named)
    · rw [if_neg accepted]
      refine safe_then (fun event _ => Carries encodings call event)
        (built_safe (owned_later later owned) (builds content now (owned_later later owned))) ?_
      intro built now' _ later' carries
      have onward := world_later_trans later later'
      have publishes : Publishes encodings call origin built now' := { carries with
        owned := owned_later onward owned
        unbound := claimed.unbound unbound
        revoked := fun request asked => absurd asked (isMessage request)
        authorized := fun request asked autonomous =>
          authorized_later onward (authorized request asked autonomous) }
      refine safe_then _ (publish_safe publishes) ?_
      intro answer then' _ later'' named
      have mine := owned_later later'' publishes.owned
      cases answer with
      | none => exact fun after _ further => ⟨owned_later further mine, rfl⟩
      | some eventId => exact bind_safe mine (named eventId rfl)

end

end AgentRoom.Publication
