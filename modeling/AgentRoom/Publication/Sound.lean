import AgentRoom.Publication.Records
import AgentRoom.Publication.World

namespace AgentRoom.Publication

open Library Presence

def AcceptedIn (events : List CreatedEvent) (transactionId : MatrixTransactionId) (eventId : MatrixEventId) : Prop :=
  ∃ created ∈ events, created.event.transactionId = transactionId ∧ created.eventId = eventId

structure SoundWorld (world : World) : Prop where
  rows : SoundRows world.rows
  named : ∀ row ∈ world.rows, ∀ eventId, row.eventId = some eventId → AcceptedIn world.events row.transactionId eventId
  once : (world.events.map (·.event.transactionId)).Nodup
  handed : ∀ created ∈ world.events, created.toSubmittedEvent ∈ world.submitted

structure WorldLater (world next : World) : Prop where
  rows : RowsLater world.rows next.rows
  authorized : ∀ request ∈ world.authorized, request ∈ next.authorized
  revoked : ∀ contentId ∈ world.revoked, contentId ∈ next.revoked
  submitted : ∀ submitted ∈ world.submitted, submitted ∈ next.submitted
  events : ∀ created ∈ world.events, created ∈ next.events

theorem world_later_refl (world : World) : WorldLater world world :=
  ⟨rows_later_refl, fun _ there => there, fun _ there => there, fun _ there => there, fun _ there => there⟩

theorem world_later_trans (earlier : WorldLater first second) (later : WorldLater second third) : WorldLater first third where
  rows := rows_later_trans earlier.rows later.rows
  authorized := fun request there => later.authorized request (earlier.authorized request there)
  revoked := fun contentId there => later.revoked contentId (earlier.revoked contentId there)
  submitted := fun submitted there => later.submitted submitted (earlier.submitted submitted there)
  events := fun created there => later.events created (earlier.events created there)

theorem accepted_later (later : WorldLater world next) (accepted : AcceptedIn world.events transactionId eventId) :
    AcceptedIn next.events transactionId eventId := by
  obtain ⟨created, listed, same, named⟩ := accepted
  exact ⟨created, later.events created listed, same, named⟩

section

variable {world next : World}

section

variable (sound : SoundWorld world)
include sound

theorem written_sound (writes : Writes (AcceptedIn world.events) world.rows rows) :
    SoundWorld { world with rows } ∧ WorldLater world { world with rows } :=
  ⟨⟨writes_sound sound.rows writes, writes_named sound.named sound.rows writes, sound.once, sound.handed⟩,
    writes_later sound.rows writes, fun _ there => there, fun _ there => there, fun _ there => there, fun _ there => there⟩

theorem stored_sound {result : StoreResult (Submissions × α)}
    (writes : ∀ rows value, result = .ok (rows, value) → Writes (AcceptedIn world.events) world.rows rows)
    (stored : World.Stored world result answer next) : SoundWorld next ∧ WorldLater world next := by
  have unchanged : SoundWorld world ∧ WorldLater world world := ⟨sound, world_later_refl world⟩
  rcases stored with ⟨rows, value, run, built, _⟩ | ⟨_, _, _, built⟩ | ⟨_, built⟩
  · exact built ▸ written_sound sound (writes rows value run)
  · exact built ▸ unchanged
  · exact built ▸ unchanged

theorem accepts_sound (listed : submitted ∈ world.submitted) (accepts : World.Accepts world submitted eventId next) :
    (SoundWorld next ∧ WorldLater world next) ∧ AcceptedIn next.events submitted.event.transactionId eventId := by
  rcases accepts with ⟨same, known⟩ | ⟨fresh, built⟩
  · subst same
    exact ⟨⟨sound, world_later_refl _⟩, known⟩
  · have grown : WorldLater world next := by
      rw [built]
      exact ⟨rows_later_refl, fun _ there => there, fun _ there => there, fun _ there => there,
        fun _ there => List.mem_append_left _ there⟩
    refine ⟨⟨⟨?_, ?_, ?_, ?_⟩, grown⟩, ?_⟩
    · rw [built]
      exact sound.rows
    · intro row among event' named
      rw [built] at among
      exact accepted_later grown (sound.named row among event' named)
    · rw [built]
      exact keys_append sound.once fresh
    · intro created among
      rw [built] at among ⊢
      rcases List.mem_append.mp among with old | new
      · exact sound.handed created old
      · rw [List.mem_singleton.mp new]
        exact listed
    · rw [built]
      exact ⟨⟨submitted, eventId⟩, List.mem_concat_self, rfl, rfl⟩

theorem received_sound (submitted : SubmittedEvent) :
    SoundWorld (world.receive submitted) ∧ WorldLater world (world.receive submitted) :=
  ⟨⟨sound.rows, sound.named, sound.once, fun created there => List.mem_append_left _ (sound.handed created there)⟩,
    rows_later_refl, fun _ there => there, fun _ there => there, fun _ there => List.mem_append_left _ there,
    fun _ there => there⟩

theorem moves_sound (moves : World.Moves world next) : SoundWorld next ∧ WorldLater world next := by
  rcases moves with ⟨submitted, listed, eventId, accepts⟩ | ⟨created, listed, answer, stored⟩
  · exact (accepts_sound sound listed accepts).1
  · exact stored_sound sound
      (fun rows record run => observe_writes sound.rows ⟨created, listed, rfl, rfl⟩ run) stored

end

end

def rely : Rely environment where
  invariant := SoundWorld
  later := WorldLater
  same := world_later_refl
  trans := fun _ _ _ => world_later_trans
  moved _ _ sound moves := moves_sound sound moves

section

variable (encodings : WireEncodings) (call : PublicationCall) (origin : World)

def Owned (world : World) : Prop :=
  ∃ row ∈ world.rows, row.submissionId = call.submissionId ∧ row.kind = call.kind ∧
    call.fingerprint encodings = .ok row.fingerprint ∧ call.transactionId encodings = .ok row.transactionId

def BoundIn (world : World) (submissionId : MessageSubmissionId) : Prop :=
  ∃ row ∈ world.rows, row.submissionId = submissionId ∧ row.state = .bound

def NamedIn (world : World) (submissionId : MessageSubmissionId) (eventId : MatrixEventId) : Prop :=
  ∃ row ∈ world.rows, row.submissionId = submissionId ∧ row.eventId = some eventId

def AuthorizedIn (world : World) (submissionId : MessageSubmissionId) : Prop :=
  ∃ request ∈ world.authorized, request.submissionId = submissionId

structure Carries (event : MatrixEvent) : Prop where
  transaction : call.transactionId encodings = .ok event.transactionId
  submission : event.submission = some (encodings.formatUuid call.submissionId.uuid)
  provenance : event.provenance = some call.provenance.asStr

-- When a call hands its event to the homeserver.
structure Publishes (event : MatrixEvent) (world : World) : Prop extends Carries encodings call event where
  owned : Owned encodings call world
  unbound : ¬ BoundIn origin call.submissionId
  revoked : ∀ request, call.request = .redact request → request.targetContentId ∈ world.revoked
  authorized : ∀ request, call.request = .send request → request.provenance = .autonomousAgent →
    AuthorizedIn world request.submissionId

def May (op : PublicationOp) (world : World) : Prop :=
  match op with
  | .authorize request => request.submissionId = call.submissionId ∧ call.provenance = .autonomousAgent
  | .claim claim => claim.submissionId = call.submissionId ∧ claim.kind = call.kind ∧
      call.fingerprint encodings = .ok claim.fingerprint ∧ call.transactionId encodings = .ok claim.transactionId
  | .markSubmitUnknown submissionId | .markBound submissionId =>
    submissionId = call.submissionId ∧ Owned encodings call world
  | .markAccepted submissionId eventId => submissionId = call.submissionId ∧ Owned encodings call world ∧
      ∃ transactionId, call.transactionId encodings = .ok transactionId ∧ AcceptedIn world.events transactionId eventId
  | .upload _ | .bind _ | .redact _ | .sign _ => Owned encodings call world
  | .publish _ event => Publishes encodings call origin event world

-- The ways a call may fail before the store has said anything about its submission.
def RefusedEarlier (failure : MessagePublicationFailure) : Prop :=
  (call.provenance = .autonomousAgent ∧ (failure = .invalidIntent ∨ ∃ kind, failure = .automationAuthorization kind)) ∨
  (∃ wire, failure = mapWireFailure wire ∧
    (call.fingerprint encodings = .error wire ∨ call.transactionId encodings = .error wire)) ∨
  failure = .store .unavailable

def Promise (result : Except MessagePublicationFailure MessagePublicationOutcome) (world : World) : Prop :=
  match result with
  | .ok (.published submissionId eventId _) | .ok (.acceptedBindingPending submissionId eventId) =>
    Owned encodings call world ∧ submissionId = call.submissionId ∧ NamedIn world submissionId eventId
  | .ok (.pendingReconciliation submissionId _) => Owned encodings call world ∧ submissionId = call.submissionId
  | .error failure => Owned encodings call world ∨ failure = .store .conflict ∨ RefusedEarlier encodings call failure

end

theorem owned_later (later : WorldLater world next) (owned : Owned encodings call world) : Owned encodings call next := by
  obtain ⟨row, listed, own, kind, fingerprint, transaction⟩ := owned
  obtain ⟨after, there, advanced⟩ := later.rows row listed
  exact ⟨after, there, advanced.submissionId.trans own, advanced.kind.trans kind, advanced.fingerprint ▸ fingerprint,
    advanced.transactionId ▸ transaction⟩

theorem bound_later (later : WorldLater world next) (bound : BoundIn world submissionId) : BoundIn next submissionId := by
  obtain ⟨row, listed, own, state⟩ := bound
  obtain ⟨after, there, advanced⟩ := later.rows row listed
  have final := advanced.state
  rw [state] at final
  refine ⟨after, there, advanced.submissionId.trans own, ?_⟩
  cases reached : after.state with
  | bound => rfl
  | _ => simp [reached, MessageSubmissionState.rank] at final

theorem named_later (later : WorldLater world next)
    (named : NamedIn world submissionId eventId) : NamedIn next submissionId eventId := by
  obtain ⟨row, listed, own, written⟩ := named
  obtain ⟨after, there, advanced⟩ := later.rows row listed
  exact ⟨after, there, advanced.submissionId.trans own, advanced.eventId eventId written⟩

theorem authorized_later (later : WorldLater world next)
    (authorized : AuthorizedIn world submissionId) : AuthorizedIn next submissionId := by
  obtain ⟨request, listed, own⟩ := authorized
  exact ⟨request, later.authorized request listed, own⟩

theorem owned_transaction (sound : SoundWorld world) (owned : Owned encodings call world)
    (own : call.transactionId encodings = .ok transactionId)
    (listed : row ∈ world.rows) (same : row.submissionId = call.submissionId) : row.transactionId = transactionId := by
  obtain ⟨other, there, mine, _, _, transaction⟩ := owned
  have equal := key_unique _ world.rows sound.rows.ids row other listed there (same.trans mine.symm)
  rw [own] at transaction
  exact equal ▸ (Except.ok.inj transaction).symm

theorem call_ordered (call : PublicationCall) : isVersion7 call.submissionId.uuid = true := by
  obtain ⟨service, request⟩ := call
  cases request with
  | send request => exact request.ordered
  | edit request => exact request.ordered
  | redact request => exact request.ordered

theorem served_frame (does : α → World → Prop) (answer : Except ε α) (kept : World → Prop) (same : kept world)
    (done : ∀ value after, does value after → kept after) (served : World.Served does world answer next) : kept next := by
  cases answer with
  | ok value => exact done value next served
  | error failure =>
    rcases served with built | ⟨value, did⟩
    · exact built ▸ same
    · exact done value next did

theorem may_sound {encodings : WireEncodings} {call : PublicationCall} {origin world next : World}
    {answer : op.Answer} (sound : SoundWorld world) (may : May encodings call origin op world)
    (answers : World.Answers world op answer next) : SoundWorld next ∧ WorldLater world next := by
  have unchanged : SoundWorld world ∧ WorldLater world world := ⟨sound, world_later_refl world⟩
  let kept (after : World) : Prop := SoundWorld after ∧ WorldLater world after
  cases op with
  | authorize request =>
    rcases answers with ⟨_, built⟩ | ⟨_, built⟩
    · rw [built]
      exact ⟨⟨sound.rows, sound.named, sound.once, sound.handed⟩, rows_later_refl,
        fun _ there => List.mem_append_left _ there, fun _ there => there, fun _ there => there, fun _ there => there⟩
    · exact built ▸ unchanged
  | claim claim =>
    refine stored_sound sound (fun rows outcome run => ?_) answers
    rcases claim_record_cases sound.rows claim (may.1 ▸ call_ordered call) with ⟨_, _, _, _, ran⟩ | ⟨_, _, _, _, ran⟩ | ⟨_, _, ran⟩ |
      ⟨free, unused, ran⟩
    · rw [ran] at run
      cases run
      exact .same
    · rw [ran] at run
      cases run
    · rw [ran] at run
      cases run
    · rw [ran] at run
      cases run
      exact .claimed claim (may.1 ▸ call_ordered call) free unused
  | markSubmitUnknown submissionId =>
    exact stored_sound sound (fun rows record run => mark_unknown_writes sound.rows run) answers
  | markAccepted submissionId eventId =>
    obtain ⟨own, owned, transactionId, mine, accepted⟩ := may
    refine stored_sound sound (fun rows record run => ?_) answers
    refine (mark_accepted_writes sound.rows (fun row listed same => ?_) run).1
    exact owned_transaction sound owned mine listed (same.trans own) ▸ accepted
  | markBound submissionId =>
    exact stored_sound sound (fun rows record run => mark_bound_writes run) answers
  | upload request =>
    refine served_frame _ answer kept unchanged (fun record after served => ?_) answers
    rcases served with ⟨built, _⟩ | ⟨_, built⟩
    · exact built ▸ unchanged
    · rw [built]
      exact ⟨⟨sound.rows, sound.named, sound.once, sound.handed⟩, rows_later_refl, fun _ there => there,
        fun _ there => there, fun _ there => there, fun _ there => there⟩
  | bind request =>
    refine served_frame (fun _ after => after = { world with bound := world.bound ++ [request] }) answer kept unchanged
      (fun _ after built => ?_) answers
    rw [built]
    exact ⟨⟨sound.rows, sound.named, sound.once, sound.handed⟩, rows_later_refl, fun _ there => there,
      fun _ there => there, fun _ there => there, fun _ there => there⟩
  | redact request =>
    refine served_frame (fun _ after => after = { world with revoked := world.revoked ++ [request.contentId] }) answer kept
      unchanged (fun _ after built => ?_) answers
    rw [built]
    exact ⟨⟨sound.rows, sound.named, sound.once, sound.handed⟩, rows_later_refl, fun _ there => there,
      fun _ there => List.mem_append_left _ there, fun _ there => there, fun _ there => there⟩
  | sign message => exact (answers : next = world) ▸ unchanged
  | publish roomId event =>
    obtain ⟨sound', later⟩ := received_sound sound ⟨roomId, event⟩
    cases answer with
    | ok eventId =>
      obtain ⟨⟨kept, grown⟩, _⟩ := accepts_sound sound'
        List.mem_concat_self answers
      exact ⟨kept, world_later_trans later grown⟩
    | error kind =>
      rcases answers with built | built
      · exact built ▸ unchanged
      · exact built ▸ ⟨sound', later⟩

-- What a call may do and what its result promises, in a world that stays sound.
def publishing (encodings : WireEncodings) :
    Discipline environment PublicationCall (Except MessagePublicationFailure MessagePublicationOutcome) where
  toRely := rely
  may := May encodings
  promise call _ := Promise encodings call
  answered _ _ _ _ _ _ sound _ may answers := may_sound sound may answers

end AgentRoom.Publication
