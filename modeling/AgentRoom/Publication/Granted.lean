import AgentRoom.Publication.Once

namespace AgentRoom.Publication

open Library Presence

-- Every event that says an agent sent it by itself comes after an authorization of its submission.
def Granted (history : List PublicationMade) : Prop :=
  ∀ earlier call roomId event answer later, history = earlier ++ ⟨call, .publish roomId event, answer⟩ :: later →
    event.provenance = some MessageProvenance.autonomousAgent.asStr →
      ∃ other request, ⟨other, .authorize request, .ok ()⟩ ∈ earlier ∧ request.submissionId = call.submissionId

def Unguarded (call : PublicationCall) : Prop :=
  call.provenance = .autonomousAgent ∧ ∀ request, call.request ≠ .send request

theorem granted_append {history : List PublicationMade} (granted : Granted history)
    (latest : ∀ call roomId event answer, made = ⟨call, .publish roomId event, answer⟩ →
      event.provenance = some MessageProvenance.autonomousAgent.asStr →
        ∃ other request, ⟨other, .authorize request, .ok ()⟩ ∈ history ∧ request.submissionId = call.submissionId) :
    Granted (history ++ [made]) := by
  intro earlier call roomId event answer later split autonomous
  rcases List.eq_nil_or_concat later with none | ⟨before, last, some⟩
  · subst none
    obtain ⟨same, new⟩ := List.append_inj' split rfl
    exact same ▸ latest call roomId event answer (List.cons.inj new).1 autonomous
  · subst some
    rw [List.concat_eq_append, ← List.cons_append, ← List.append_assoc] at split
    obtain ⟨same, _⟩ := List.append_inj' split rfl
    exact granted earlier call roomId event answer before same autonomous

theorem as_str_inj {first second : MessageProvenance} (same : first.asStr = second.asStr) : first = second := by
  cases first <;> cases second <;> first | rfl | exact absurd same (by decide)

section

variable {encodings : WireEncodings}

theorem granted_answered {history : List PublicationMade} {origin world : World}
    (answer : op.Answer) (recorded : Recorded encodings world history) (may : May encodings call origin op world)
    (guarded : ¬ Unguarded call) (granted : Granted history) : Granted (history ++ [⟨call, op, answer⟩]) := by
  refine granted_append granted ?_
  intro publisher roomId event answer' built autonomous
  cases built
  have publishes : Publishes encodings call origin event world := may
  have byAgent : call.provenance = .autonomousAgent :=
    as_str_inj (Option.some.inj (publishes.provenance.symm.trans autonomous))
  obtain ⟨request, sent⟩ : ∃ request, call.request = .send request := by
    by_contra other
    exact guarded ⟨byAgent, fun request same => other ⟨request, same⟩⟩
  have own : call.submissionId = request.submissionId := by rw [PublicationCall.submissionId, sent]
  have asAgent : request.provenance = .autonomousAgent := by
    rw [PublicationCall.provenance, sent] at byAgent
    exact byAgent
  obtain ⟨asked, listed, same⟩ := publishes.authorized request sent asAgent
  obtain ⟨other, told, _⟩ := recorded.authorized asked listed
  exact ⟨other, asked, told, same.trans own.symm⟩

-- Where no agent edits or redacts by itself, nothing of an agent's own goes out without a grant.
theorem autonomous_publications_are_granted (encodings : WireEncodings) (turns : List (Turn PublicationCall))
    (final : PublicationScene) (run : PublicationRun encodings (.opening .empty) turns final)
    (guarded : ∀ call, .join call ∈ turns → ¬ Unguarded call) : Granted final.history := by
  have opening : (publishing encodings).Kept (.opening .empty) := opening_kept empty_sound
  have safe : ∀ made ∈ final.history, ¬ Unguarded made.request := by
    refine (joined_run environment (PublicationCall.perform encodings) (fun call => ¬ Unguarded call) (.opening .empty) final
      turns guarded ?_ ?_ run).2
    · intro caller listed
      cases listed
    · intro made listed
      cases listed
  refine (kept_history (fun call world _ => publication_opens encodings call world)
    (fun world history => Recorded encodings world history ∧ ((∀ made ∈ history, ¬ Unguarded made.request) → Granted history))
    ?_ ?_ opening ⟨empty_recorded encodings, ?_⟩ run).2 safe
  · rintro history call origin world op answer next ⟨told, grants⟩ _ _ may answers later
    refine ⟨recorded_answered told may answers later, fun known => ?_⟩
    have fresh := known ⟨call, op, answer⟩ List.mem_concat_self
    exact granted_answered answer told may fresh
      (grants fun made there => known made (List.mem_append_left _ there))
  · rintro history world next ⟨told, grants⟩ _ moves later
    exact ⟨recorded_later later told (moves_frame moves).1 (moves_frame moves).2, grants⟩
  · intro _ earlier call roomId event answer later split
    exact absurd split.symm (List.append_ne_nil_of_right_ne_nil earlier (List.cons_ne_nil _ _))

end

def helloRecord : MessageContentRecord where
  contentId := adaRedaction.targetContentId
  digest := helloBody.digest
  byteLength := helloBody.byteLength
  mediaType := helloBody.mediaType

def helloUpload (submissionId : MessageSubmissionId) : MessageContentUploadRequest where
  requestId := ⟨submissionId.uuid⟩
  roomId := adaMessage.roomId
  digest := helloBody.digest
  byteLength := helloBody.byteLength
  mediaType := helloBody.mediaType
  encryptionMode := helloBody.encryptionMode
  expiresAt := helloBody.expiresAt
  body := helloBody.bytes

def helloEvent (encodings : WireEncodings) (claim : MessageSubmissionClaim) (eventType : String)
    (content : List (String × Json)) : MatrixEvent where
  eventType
  transactionId := claim.transactionId
  content := .object (insertSignature encodings content noSignature)

def helloAnswers (encodings : WireEncodings) (claim : MessageSubmissionClaim) (roomId : MatrixRoomId) (eventType : String)
    (content : List (String × Json)) : List PublicationAnswer := [
  ⟨.claim claim, .ok (.created (opened claim))⟩,
  ⟨.upload (helloUpload claim.submissionId), .ok helloRecord⟩,
  ⟨.sign (asciiBytes (canonicalText (.object content))), some noSignature⟩,
  ⟨.publish roomId (helloEvent encodings claim eventType content), .ok ⟨"$hello"⟩⟩]

theorem serves_hello (encodings : WireEncodings) (claim : MessageSubmissionClaim) (roomId : MatrixRoomId) (eventType : String)
    (content : List (String × Json)) (authorized : List AutomationAuthorizationRequest)
    (ordered : isVersion7 claim.submissionId.uuid = true) :
    ∃ world, Serves environment { World.empty with authorized } (helloAnswers encodings claim roomId eventType content) world := by
  have claimed : claimRecord [] claim = .ok ([opened claim], .created (opened claim)) := by
    rcases claim_record_cases empty_sound.rows claim ordered with ⟨_, listed, _⟩ | ⟨_, listed, _⟩ | ⟨_, ⟨_, listed, _⟩, _⟩ | ⟨_, _, ran⟩
    · cases listed
    · cases listed
    · cases listed
    · exact ran
  refine ⟨_, _, .inl ⟨_, _, claimed, rfl, .inl rfl⟩, _, .inr ⟨?_, rfl⟩, _, rfl, _, .inr ⟨?_, rfl⟩, rfl⟩
  · intro earlier listed
    cases listed
  · intro created listed
    cases listed

def messageWire : WireEncodings := plainWire 0x778633c26c3632cfbf66c9b90592979511e3d68300b9359143f59f36e85eb470 882

def messageClaim : MessageSubmissionClaim where
  submissionId := adaMessage.submissionId
  kind := .preview
  fingerprint := ⟨messageWire.sha256 []⟩
  transactionId := ⟨"agent-room-message-019b76da-a800-7000-8000-000000000005", by decide +kernel⟩

theorem message_transaction : previewTransactionId messageWire adaMessage.submissionId = .ok messageClaim.transactionId := by
  decide +kernel

def messageContent : List (String × Json) :=
  eventHead messageWire adaIdentity previewEventType adaMessage.submissionId "2026-01-01T00:00:00.000Z" .autonomousAgent
      adaMessage.roomId ++ [
    ("preview", preview helloPreview),
    ("content", contentRef messageWire helloRecord helloBody)]

theorem message_publishes : ∃ rest, Follows (messageCall.perform messageWire) (⟨.authorize messageGrant, .ok ()⟩ ::
      helloAnswers messageWire messageClaim adaMessage.roomId previewEventType messageContent) rest := by
  have text : scannedText adaMessage.body = .ok (some ⟨"hello", by decide⟩) := hello_text
  apply Exists.intro
  apply Exists.intro
  apply And.intro
  · change (send messageWire adaPublications adaMessage).run = _
    rw [send, authorizeAutomation, if_neg (by decide)]
    simp only [text, message_transaction]
    rfl
  · exact ⟨_, rfl, _, rfl, _, rfl, _, rfl, rfl⟩

theorem autonomous_message_granted : ∃ final, (∃ turns, PublicationRun messageWire (.opening .empty) turns final) ∧
    (∃ made ∈ final.history, ∃ roomId event answer, made = ⟨messageCall, .publish roomId event, answer⟩) ∧
    Granted final.history := by
  obtain ⟨rest, publishes⟩ := message_publishes
  obtain ⟨world, serves⟩ := serves_hello messageWire messageClaim adaMessage.roomId previewEventType messageContent [messageGrant] rfl
  let joined : PublicationScene := (Scene.opening World.empty).join (PublicationCall.perform messageWire) messageCall
  have onward := proceed_runs (PublicationCall.perform messageWire) joined 0 ⟨messageCall, World.empty, _⟩ rfl
    publishes ⟨_, Or.inl ⟨rfl, rfl⟩, serves⟩
  have run : PublicationRun messageWire (.opening .empty) (.join messageCall :: _) _ := ⟨joined, rfl, onward⟩
  refine ⟨_, ⟨_, run⟩, ⟨⟨messageCall, .publish adaMessage.roomId (helloEvent messageWire messageClaim previewEventType
    messageContent), .ok ⟨"$hello"⟩⟩, ?_, _, _, _, rfl⟩, autonomous_publications_are_granted messageWire _ _ run ?_⟩
  · exact List.mem_cons_of_mem _ (List.mem_cons_of_mem _ (List.mem_cons_of_mem _ (List.mem_cons_of_mem _
      (List.mem_singleton.mpr rfl))))
  · intro call listed unguarded
    rcases List.mem_cons.mp listed with same | later
    · cases same
      exact unguarded.2 adaMessage rfl
    · cases List.eq_of_mem_replicate later

def adaEdit : EditMessageRequest where
  submissionId := ⟨0x019b76daa80070008000000000000009⟩
  roomId := adaMessage.roomId
  targetMessageId := adaRedaction.targetMessageId
  preview := helloPreview
  body := helloBody
  provenance := .autonomousAgent
  ordered := rfl
  typed := hello_typed

def editCall : PublicationCall := ⟨adaPublications, .edit adaEdit⟩

def editWire : WireEncodings := plainWire 0xfb23344e3baf485a24f2a4de3110e7f9b7520ccfb53dcf0f944dd7b2d8a11d91 957

def editClaim : MessageSubmissionClaim where
  submissionId := adaEdit.submissionId
  kind := .replace
  fingerprint := ⟨editWire.sha256 []⟩
  transactionId := ⟨"agent-room-revision-019b76da-a800-7000-8000-000000000009", by decide +kernel⟩

theorem edit_transaction : revisionTransactionId editWire adaEdit.submissionId = .ok editClaim.transactionId := by
  decide +kernel

def editContent : List (String × Json) :=
  eventHead editWire adaIdentity revisionEventType adaEdit.submissionId "2026-01-01T00:00:00.000Z" .autonomousAgent
      adaEdit.roomId ++ [
    ("targetMessageId", wireId editWire adaEdit.targetMessageId),
    ("kind", .string "replace"),
    ("preview", preview helloPreview),
    ("content", contentRef editWire helloRecord helloBody)]

theorem edit_publishes : ∃ rest, Follows (editCall.perform editWire)
    (helloAnswers editWire editClaim adaEdit.roomId revisionEventType editContent) rest := by
  apply Exists.intro
  apply Exists.intro
  apply And.intro
  · change (edit editWire adaPublications adaEdit).run = _
    rw [edit, edit_transaction]
    rfl
  · exact ⟨_, rfl, _, rfl, _, rfl, rfl⟩

theorem autonomous_edit_ungranted :
    ¬ ∀ encodings turns final, PublicationRun encodings (.opening .empty) turns final → Granted final.history := by
  intro granted
  obtain ⟨rest, publishes⟩ := edit_publishes
  obtain ⟨world, serves⟩ := serves_hello editWire editClaim adaEdit.roomId revisionEventType editContent [] rfl
  let joined : PublicationScene := (Scene.opening World.empty).join (PublicationCall.perform editWire) editCall
  have onward := proceed_runs (PublicationCall.perform editWire) joined 0 ⟨editCall, World.empty, _⟩ rfl publishes serves
  have run : PublicationRun editWire (.opening .empty) (.join editCall :: _) _ := ⟨joined, rfl, onward⟩
  have recorded := publication_recorded (opening_kept empty_sound) (empty_recorded editWire) run
  let event := helloEvent editWire editClaim revisionEventType editContent
  have carries := (recorded.published editCall adaEdit.roomId event (.ok ⟨"$hello"⟩) (List.mem_cons_of_mem _
    (List.mem_cons_of_mem _ (List.mem_cons_of_mem _ (List.mem_singleton.mpr rfl))))).2
  obtain ⟨other, request, told, _⟩ := granted editWire _ _ run [_, _, _] editCall adaEdit.roomId event (.ok ⟨"$hello"⟩) [] rfl
    carries.provenance
  rcases told with _ | ⟨_, _ | ⟨_, _ | ⟨_, none⟩⟩⟩
  cases none

end AgentRoom.Publication
