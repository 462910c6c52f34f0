import AgentRoom.Publication.Steps

namespace AgentRoom.Publication

open Library Presence

section

variable {encodings : WireEncodings} {call : PublicationCall} {origin : World}

variable {world : World}

variable {failure : MessagePublicationFailure}

theorem refused_stays (refused : RefusedEarlier encodings call failure) :
    rely.Stays (Promise encodings call (.error failure : Except _ MessagePublicationOutcome)) world :=
  fun _ _ _ => .inr (.inr refused)

theorem wired_safe {result : Except MessageWireFailure α}
    (fails : ∀ wire, result = .error wire → call.fingerprint encodings = .error wire ∨ call.transactionId encodings = .error wire) :
    Safe rely (May encodings call origin) (Passes (Promise encodings call) fun value _ => result = .ok value)
      (settled (result.mapError mapWireFailure) : Publishing α).run world := by
  cases result with
  | ok value => exact fun _ _ _ => rfl
  | error wire => exact refused_stays (.inr (.inl ⟨wire, rfl, fails wire rfl⟩))

theorem scanned_text_refuses (refused : scannedText body = .error failure) : failure = .invalidIntent := by
  rw [scannedText] at refused
  split at refused
  · split at refused
    · cases refused
    · exact (Except.error.inj refused).symm
  · cases refused

end

section

variable {encodings : WireEncodings} {origin : World} (service : MessagePublicationService)

variable {world : World} {request : SendMessageRequest}

-- An autonomous message goes on only once its submission is authorized.
theorem authorize_safe : Safe rely (May encodings ⟨service, .send request⟩ origin)
      (Passes (Promise encodings ⟨service, .send request⟩) fun _ now =>
        request.provenance = .autonomousAgent → AuthorizedIn now request.submissionId)
      (authorizeAutomation service request).run world := by
  rw [authorizeAutomation]
  by_cases autonomous : request.provenance = .autonomousAgent
  case neg =>
    rw [if_pos autonomous]
    exact fun _ _ _ same => absurd same autonomous
  rw [if_neg (not_not_intro autonomous)]
  have byAgent : (PublicationCall.mk service (.send request)).provenance = .autonomousAgent := autonomous
  refine safe_then (fun _ _ => True) (settled_safe ?_ ?_) ?_
  · exact fun _ _ => fun _ _ _ => trivial
  · intro failure absent
    refine refused_stays (.inl ⟨byAgent, .inl ?_⟩)
    cases grant : request.automationGrantId with
    | none =>
      rw [grant] at absent
      exact (Except.error.inj absent).symm
    | some grantId =>
      rw [grant] at absent
      cases absent
  intro grantId now _ _ _
  refine safe_then (fun _ _ => True) (settled_safe ?_ ?_) ?_
  · exact fun _ _ => fun _ _ _ => trivial
  · intro failure refused
    exact refused_stays (.inl ⟨byAgent, .inl (scanned_text_refuses refused)⟩)
  intro messageText now' _ _ _ then' _ _
  refine ⟨⟨rfl, byAgent⟩, fun answer after answers _ _ => ?_⟩
  cases answer with
  | ok done =>
    rcases answers with ⟨_, built⟩ | ⟨⟨kind, impossible⟩, _⟩
    · intro later _ onward _
      have listed : AuthorizedIn after request.submissionId := by
        rw [built]
        exact ⟨_, List.mem_concat_self, rfl⟩
      exact authorized_later onward listed
    · cases impossible
  | error kind => exact refused_stays (.inl ⟨byAgent, .inr ⟨kind, rfl⟩⟩)

theorem claimed_safe {publishes : MatrixTransactionId → MessageSubmissionRecord → Publishing MessagePublicationOutcome} (since : WorldLater origin world)
    (onward : ∀ transactionId record now, call.transactionId encodings = .ok transactionId → WorldLater world now →
      Claimed encodings call origin record now → Safe rely (May encodings call origin) (Promise encodings call)
        (publishes transactionId record).run now) :
    Safe rely (May encodings call origin) (Promise encodings call) (do
      let fingerprint ← settled ((call.fingerprint encodings).mapError mapWireFailure)
      let transactionId ← settled ((call.transactionId encodings).mapError mapWireFailure)
      let record ← claim call.submissionId call.kind fingerprint transactionId
      publishes transactionId record : Publishing MessagePublicationOutcome).run world := by
  refine safe_then _ (wired_safe fun wire failed => .inl failed) ?_
  intro fingerprint now _ later own
  refine safe_then _ (wired_safe fun wire failed => .inr failed) ?_
  intro transactionId now' _ later' own'
  have passed := world_later_trans later later'
  refine safe_then _ (claim_safe own own' (world_later_trans since passed)) ?_
  exact fun record now'' _ further claimed => onward transactionId record now'' own' (world_later_trans passed further) claimed

theorem send_safe (since : WorldLater origin world) :
    Safe rely (May encodings ⟨service, .send request⟩ origin) (Promise encodings ⟨service, .send request⟩)
      (send encodings service request).run world := by
  refine safe_then _ (authorize_safe service) ?_
  intro _ now _ later authorized
  refine claimed_safe (world_later_trans since later) fun transactionId record then' own onward claimed => ?_
  refine publish_body_safe claimed ?_ ?_ ?_
  · intro other impossible
    cases impossible
  · intro other same autonomous
    cases same
    exact authorized_later onward (authorized autonomous)
  · exact fun content after owned => preview_event_safe own owned

theorem edit_safe {request : EditMessageRequest} (since : WorldLater origin world) :
    Safe rely (May encodings ⟨service, .edit request⟩ origin) (Promise encodings ⟨service, .edit request⟩)
      (edit encodings service request).run world := by
  refine claimed_safe since fun transactionId record then' own _ claimed => ?_
  refine publish_body_safe claimed ?_ ?_ ?_
  · intro other impossible
    cases impossible
  · intro other impossible
    cases impossible
  · exact fun content after owned => edit_event_safe own owned

theorem redact_safe {request : RedactMessageRequest} (since : WorldLater origin world) :
    Safe rely (May encodings ⟨service, .redact request⟩ origin) (Promise encodings ⟨service, .redact request⟩)
      (redact encodings service request).run world := by
  refine claimed_safe since fun transactionId record then' own _ claimed => ?_
  have owned := claimed_owned claimed
  cases completes : completedOutcome record with
  | some outcome => exact completed_safe claimed completes
  | none =>
    have unbound := completed_outcome_none claimed.recorded completes
    refine safe_then (fun _ after => request.targetContentId ∈ after.revoked)
      (owned_consult_safe owned ?_ ?_) ?_
    · exact fun after _ onward => owned_later onward owned
    · intro _ answer after _ _ _ answers _ read final _ further
      cases answer with
      | error kind => cases read
      | ok done =>
        refine further.revoked _ ?_
        rw [show after = _ from answers]
        exact List.mem_concat_self
    intro _ reached _ onward revoked
    have claimed' := claimed_later onward claimed
    by_cases accepted : record.state = .accepted
    · rw [if_pos accepted]
      obtain ⟨eventId, named⟩ := accepted_event claimed.recorded accepted
      refine safe_then _ (event_of_record_safe named) ?_
      intro found after _ further same
      subst same
      have claimed'' := claimed_later further claimed'
      rw [claimed.submissionId]
      exact mark_bound_safe (claimed_owned claimed'') (claimed_named claimed'' named)
    · rw [if_neg accepted]
      refine safe_then (fun event _ => Carries encodings ⟨service, .redact request⟩ event)
        (built_safe (claimed_owned claimed')
          (redact_event_safe own (claimed_owned claimed'))) ?_
      intro event after _ further carries
      have mine := owned_later further (claimed_owned claimed')
      have publishes : Publishes encodings ⟨service, .redact request⟩ origin event after := { carries with
        owned := mine
        unbound := claimed.unbound unbound
        revoked := by
          intro other same
          cases same
          exact further.revoked _ revoked
        authorized := by
          intro other impossible
          cases impossible }
      refine safe_then _ (publish_safe publishes) ?_
      intro answer final _ beyond named
      have still := owned_later beyond mine
      cases answer with
      | none => exact fun last _ further' => ⟨owned_later further' still, rfl⟩
      | some eventId => exact mark_bound_safe still (named eventId rfl)

end

theorem publication_opens (encodings : WireEncodings) (call : PublicationCall) (world : World) :
    (publishing encodings).SafeCall call world (call.perform encodings) world := by
  obtain ⟨service, request⟩ := call
  cases request with
  | send request => exact send_safe service (world_later_refl world)
  | edit request => exact edit_safe service (world_later_refl world)
  | redact request => exact redact_safe service (world_later_refl world)

open Library Presence

abbrev PublicationMade := Made PublicationCall PublicationOp PublicationOp.Answer

structure Recorded (encodings : WireEncodings) (world : World) (history : List PublicationMade) : Prop where
  published : ∀ call roomId event answer, ⟨call, .publish roomId event, answer⟩ ∈ history →
    Owned encodings call world ∧ Carries encodings call event
  submitted : ∀ submitted ∈ world.submitted, ∃ call answer, ⟨call, .publish submitted.roomId submitted.event, answer⟩ ∈ history
  authorized : ∀ request ∈ world.authorized, ∃ call, ⟨call, .authorize request, .ok ()⟩ ∈ history ∧
    call.submissionId = request.submissionId

section

variable {world next : World}

variable {α : Type}

theorem stored_frame (stored : World.Stored world result answer next) : ∃ rows, next = { world with rows } := by
  rcases stored with ⟨rows, _, _, built, _⟩ | ⟨_, _, _, built⟩ | ⟨_, built⟩
  · exact ⟨rows, built⟩
  · exact ⟨world.rows, built⟩
  · exact ⟨world.rows, built⟩

theorem accepts_frame (accepts : World.Accepts world submitted eventId next) : ∃ events, next = { world with events } := by
  rcases accepts with ⟨built, _⟩ | ⟨_, built⟩
  · exact ⟨world.events, built⟩
  · exact ⟨_, built⟩

-- Only publishing hands an event over, and only authorizing leaves an authorization.
theorem answers_frame (answers : World.Answers world op answer next)
    (quiet : ∀ roomId event, op ≠ .publish roomId event) (unauthorized : ∀ request, op ≠ .authorize request) :
    next.submitted = world.submitted ∧ next.authorized = world.authorized := by
  cases op with
  | authorize request => exact absurd rfl (unauthorized request)
  | publish roomId event => exact absurd rfl (quiet roomId event)
  | claim claim =>
    obtain ⟨rows, built⟩ := stored_frame answers
    exact built ▸ ⟨rfl, rfl⟩
  | markSubmitUnknown submissionId =>
    obtain ⟨rows, built⟩ := stored_frame answers
    exact built ▸ ⟨rfl, rfl⟩
  | markAccepted submissionId eventId =>
    obtain ⟨rows, built⟩ := stored_frame answers
    exact built ▸ ⟨rfl, rfl⟩
  | markBound submissionId =>
    obtain ⟨rows, built⟩ := stored_frame answers
    exact built ▸ ⟨rfl, rfl⟩
  | upload request =>
    refine served_frame _ answer (fun after => after.submitted = world.submitted ∧ after.authorized = world.authorized)
      ⟨rfl, rfl⟩ ?_ answers
    rintro _ after (⟨built, _⟩ | ⟨_, built⟩)
    · exact built ▸ ⟨rfl, rfl⟩
    · exact built ▸ ⟨rfl, rfl⟩
  | bind request =>
    refine served_frame (fun _ after => after = { world with bound := world.bound ++ [request] }) answer
      (fun after => after.submitted = world.submitted ∧ after.authorized = world.authorized) ⟨rfl, rfl⟩ ?_ answers
    intro _ after built
    exact built ▸ ⟨rfl, rfl⟩
  | redact request =>
    refine served_frame (fun _ after => after = { world with revoked := world.revoked ++ [request.contentId] }) answer
      (fun after => after.submitted = world.submitted ∧ after.authorized = world.authorized) ⟨rfl, rfl⟩ ?_ answers
    intro _ after built
    exact built ▸ ⟨rfl, rfl⟩
  | sign message => exact (show next = world from answers) ▸ ⟨rfl, rfl⟩

theorem published_frame (answers : World.Answers world (.publish roomId event) answer next) :
    (∀ submitted ∈ next.submitted, submitted ∈ world.submitted ∨ submitted = ⟨roomId, event⟩) ∧
      next.authorized = world.authorized := by
  have received : ∀ submitted ∈ (world.receive ⟨roomId, event⟩).submitted,
      submitted ∈ world.submitted ∨ submitted = ⟨roomId, event⟩ := by
    intro submitted listed
    rcases List.mem_append.mp listed with old | new
    · exact .inl old
    · exact .inr (List.mem_singleton.mp new)
  cases answer with
  | ok eventId =>
    obtain ⟨events, built⟩ := accepts_frame answers
    exact built ▸ ⟨received, rfl⟩
  | error kind =>
    rcases answers with built | built
    · exact built ▸ ⟨fun _ => .inl, rfl⟩
    · exact built ▸ ⟨received, rfl⟩

theorem moves_frame (moves : World.Moves world next) : next.submitted = world.submitted ∧ next.authorized = world.authorized := by
  rcases moves with ⟨submitted, _, eventId, accepts⟩ | ⟨_, _, answer, stored⟩
  · obtain ⟨events, built⟩ := accepts_frame accepts
    exact built ▸ ⟨rfl, rfl⟩
  · obtain ⟨rows, built⟩ := stored_frame stored
    exact built ▸ ⟨rfl, rfl⟩

end

section

variable {encodings : WireEncodings} {world next : World} {history : List PublicationMade}

theorem recorded_later (later : WorldLater world next) (recorded : Recorded encodings world history)
    (submitted : next.submitted = world.submitted) (authorized : next.authorized = world.authorized) :
    Recorded encodings next history where
  published := by
    intro call roomId event answer told
    obtain ⟨owned, carries⟩ := recorded.published call roomId event answer told
    exact ⟨owned_later later owned, carries⟩
  submitted := submitted ▸ recorded.submitted
  authorized := authorized ▸ recorded.authorized

theorem recorded_answered (recorded : Recorded encodings world history) (may : May encodings call origin op world)
    (answers : World.Answers world op answer next) (later : WorldLater world next) :
    Recorded encodings next (history ++ [⟨call, op, answer⟩]) := by
  have earlier (made : PublicationMade) (told : made ∈ history) : made ∈ history ++ [⟨call, op, answer⟩] :=
    List.mem_append_left _ told
  have latest : (⟨call, op, answer⟩ : PublicationMade) ∈ history ++ [⟨call, op, answer⟩] :=
    List.mem_concat_self
  constructor
  · intro other roomId event answer' told
    rcases List.mem_append.mp told with old | new
    · obtain ⟨owned, carries⟩ := recorded.published other roomId event answer' old
      exact ⟨owned_later later owned, carries⟩
    · cases List.mem_singleton.mp new
      exact ⟨owned_later later may.owned, may.toCarries⟩
  · intro submitted listed
    have known (old : submitted ∈ world.submitted) : ∃ call' answer',
        (⟨call', .publish submitted.roomId submitted.event, answer'⟩ : PublicationMade) ∈ history ++ [⟨call, op, answer⟩] := by
      obtain ⟨call', answer', told⟩ := recorded.submitted submitted old
      exact ⟨call', answer', earlier _ told⟩
    cases op with
    | publish roomId event =>
      rcases (published_frame answers).1 submitted listed with old | new
      · exact known old
      · exact ⟨call, answer, new ▸ latest⟩
    | authorize request =>
      rcases answers with ⟨_, built⟩ | ⟨_, built⟩
      · rw [built] at listed
        exact known listed
      · exact known (built ▸ listed)
    | _ => exact known ((answers_frame answers (by simp) (by simp)).1 ▸ listed)
  · intro request listed
    have known (old : request ∈ world.authorized) : ∃ call',
        (⟨call', .authorize request, .ok ()⟩ : PublicationMade) ∈ history ++ [⟨call, op, answer⟩] ∧
          call'.submissionId = request.submissionId := by
      obtain ⟨call', told, own⟩ := recorded.authorized request old
      exact ⟨call', earlier _ told, own⟩
    cases op with
    | publish roomId event => exact known ((published_frame answers).2 ▸ listed)
    | authorize asked =>
      rcases answers with ⟨granted, built⟩ | ⟨_, built⟩
      · rw [built] at listed
        rcases List.mem_append.mp listed with old | new
        · exact known old
        · cases List.mem_singleton.mp new
          exact ⟨call, granted ▸ latest, may.1.symm⟩
      · exact known (built ▸ listed)
    | _ => exact known ((answers_frame answers (by simp) (by simp)).2 ▸ listed)

end

theorem empty_sound : SoundWorld .empty := by
  refine ⟨⟨?_, List.nodup_nil, List.nodup_nil, ?_⟩, ?_, List.nodup_nil, ?_⟩
  · intro row listed
    cases listed
  · intro row listed
    cases listed
  · intro row listed
    cases listed
  · intro created listed
    cases listed

theorem empty_recorded (encodings : WireEncodings) : Recorded encodings .empty [] := by
  constructor
  · intro call roomId event answer told
    cases told
  · intro submitted listed
    cases listed
  · intro request listed
    cases listed

section

variable {encodings : WireEncodings}

theorem publication_kept (kept : (publishing encodings).Kept start) (run : PublicationRun encodings start turns final) :
    (publishing encodings).Kept final ∧ WorldLater start.world final.world :=
  kept_run (fun call world _ => publication_opens encodings call world) kept run

theorem publication_recorded (kept : (publishing encodings).Kept start)
    (recorded : Recorded encodings start.world start.history) (run : PublicationRun encodings start turns final) :
    Recorded encodings final.world final.history := by
  refine kept_history (fun call world _ => publication_opens encodings call world)
    (Recorded encodings) ?_ ?_ kept recorded run
  · intro history call origin world op answer next told _ _ may answers later
    exact recorded_answered told may answers later
  · intro history world next told _ moves later
    exact recorded_later later told (moves_frame moves).1 (moves_frame moves).2

end

end AgentRoom.Publication
