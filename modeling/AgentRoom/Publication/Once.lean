import AgentRoom.Presence.Renewal
import AgentRoom.Publication.History

namespace AgentRoom.Publication

open Library Presence

abbrev PublicationCaller :=
  Caller World PublicationCall PublicationOp PublicationOp.Answer (Except MessagePublicationFailure MessagePublicationOutcome)

def AboutToPublish (caller : PublicationCaller) : Prop :=
  ∃ roomId event next, caller.rest = .call (.publish roomId event) next

def PublishedFor (scene : PublicationScene) (submissionId : MessageSubmissionId) (created : CreatedEvent) : Prop :=
  created ∈ scene.world.events ∧ ∃ call answer, call.submissionId = submissionId ∧
    ⟨call, .publish created.roomId created.event, answer⟩ ∈ scene.history

-- A call with the id of a stored submission that is not that submission.
def Differs (encodings : WireEncodings) (world : World) (call : PublicationCall) : Prop :=
  ∃ row ∈ world.rows, row.submissionId = call.submissionId ∧
    ¬ (row.kind = call.kind ∧ call.fingerprint encodings = .ok row.fingerprint)

def MessagePublicationOutcome.Names (outcome : MessagePublicationOutcome) (submissionId : MessageSubmissionId)
    (eventId : MatrixEventId) : Prop :=
  (∃ reused, outcome = .published submissionId eventId reused) ∨ outcome = .acceptedBindingPending submissionId eventId

structure PublishedOnce (encodings : WireEncodings) (submissionId : MessageSubmissionId) (scene : PublicationScene) : Prop where
  traced : ∀ created ∈ scene.world.events, ∃ owner, PublishedFor scene owner created
  once : ∀ first second, PublishedFor scene submissionId first → PublishedFor scene submissionId second → first = second
  recorded : ∀ row ∈ scene.world.rows, row.submissionId = submissionId → ∀ eventId, row.eventId = some eventId →
    ∃ created, PublishedFor scene submissionId created ∧ created.eventId = eventId
  named : ∀ call ∈ scene.ended, call.request.submissionId = submissionId → ∀ outcome, call.result = .ok outcome →
    ∀ named eventId, outcome.Names named eventId →
      named = submissionId ∧ ∃ created, PublishedFor scene submissionId created ∧ created.eventId = eventId
  final : ∀ caller ∈ scene.callers, caller.request.submissionId = submissionId → BoundIn caller.origin submissionId →
    ¬ AboutToPublish caller
  unchanged : ∀ (index : Nat) caller next, scene.callers[index]? = some caller → caller.request.submissionId = submissionId →
    Differs encodings scene.world caller.request →
    Turns environment (PublicationCall.perform encodings) scene (.proceed index) next →
      next.world = { scene.world with authorized := next.world.authorized }
  refused : ∀ call ∈ scene.ended, call.request.submissionId = submissionId → Differs encodings scene.world call.request →
    ∃ failure, call.result = .error failure ∧ (failure = .store .conflict ∨ RefusedEarlier encodings call.request failure)
  revoked : ∀ caller ∈ scene.callers, caller.request.submissionId = submissionId → AboutToPublish caller →
    ∀ request, caller.request.request = .redact request → request.targetContentId ∈ scene.world.revoked

theorem differs_not_owned (sound : SoundWorld world) (differs : Differs encodings world call) : ¬ Owned encodings call world := by
  rintro ⟨mine, listed, own, kind, fingerprint, _⟩
  obtain ⟨row, there, same, other⟩ := differs
  have equal := key_unique _ world.rows sound.rows.ids row mine there listed (same.trans own.symm)
  exact other (equal ▸ ⟨kind, fingerprint⟩)

theorem differs_unchanged (sound : SoundWorld world)
    (differs : Differs encodings world call) (may : May encodings call origin op world)
    (answers : World.Answers world op answer next) : next = { world with authorized := next.authorized } := by
  have stranger := differs_not_owned sound differs
  cases op with
  | authorize request =>
    rcases answers with ⟨_, built⟩ | ⟨_, built⟩
    · rw [built]
    · rw [built]
  | claim claim =>
    obtain ⟨own, kind, fingerprint, _⟩ := may
    obtain ⟨row, there, same, other⟩ := differs
    have foreign (found : MessageSubmissionRecord) (listed : found ∈ world.rows)
        (named : found.submissionId = claim.submissionId) : ¬ Intends claim found := by
      rintro ⟨kind', fingerprint', _⟩
      have equal := key_unique _ world.rows sound.rows.ids row found there listed (same.trans (named.trans own).symm)
      exact other (equal ▸ ⟨kind'.trans kind, fingerprint' ▸ fingerprint⟩)
    have conflicted : claimRecord world.rows claim = .error .conflict := by
      rcases claim_record_cases sound.rows claim (own ▸ call_ordered call) with ⟨found, listed, named, intends, _⟩ | ⟨_, _, _, _, ran⟩ | ⟨_, _, ran⟩ |
        ⟨free, _, _⟩
      · exact absurd intends (foreign found listed named)
      · exact ran
      · exact ran
      · exact absurd (same.trans own.symm) (free row there)
    rcases answers with ⟨_, _, run, _, _⟩ | ⟨_, _, _, built⟩ | ⟨_, built⟩
    · rw [conflicted] at run
      cases run
    · rw [built]
    · rw [built]
  | markSubmitUnknown submissionId => exact absurd may.2 stranger
  | markAccepted submissionId eventId => exact absurd may.2.1 stranger
  | markBound submissionId => exact absurd may.2 stranger
  | upload request => exact absurd may stranger
  | bind request => exact absurd may stranger
  | redact request => exact absurd may stranger
  | sign message => exact absurd may stranger
  | publish roomId event => exact absurd may.owned stranger

theorem published_transaction (recorded : Recorded encodings scene.world scene.history)
    (published : PublishedFor scene submissionId created) :
    ∃ row ∈ scene.world.rows, row.submissionId = submissionId ∧ row.transactionId = created.event.transactionId := by
  obtain ⟨_, call, answer, own, told⟩ := published
  obtain ⟨⟨row, listed, mine, _, _, transaction⟩, carries⟩ := recorded.published call _ _ answer told
  have equal := carries.transaction
  rw [transaction] at equal
  exact ⟨row, listed, mine.trans own, Except.ok.inj equal⟩

theorem created_published (sound : SoundWorld scene.world) (recorded : Recorded encodings scene.world scene.history)
    (created : CreatedEvent) (listed : created ∈ scene.world.events) : ∃ owner, PublishedFor scene owner created := by
  obtain ⟨call, answer, told⟩ := recorded.submitted _ (sound.handed created listed)
  exact ⟨call.submissionId, listed, call, answer, rfl, told⟩

theorem named_published (sound : SoundWorld scene.world) (recorded : Recorded encodings scene.world scene.history)
    (listed : row ∈ scene.world.rows) (named : row.eventId = some eventId) :
    ∃ created, PublishedFor scene row.submissionId created ∧ created.eventId = eventId := by
  obtain ⟨created, among, transaction, same⟩ := sound.named row listed eventId named
  obtain ⟨owner, published⟩ := created_published sound recorded created among
  obtain ⟨other, there, own, transaction'⟩ := published_transaction recorded published
  have equal := key_unique _ scene.world.rows sound.rows.transactions other row there listed
    (transaction'.trans transaction)
  exact ⟨created, equal ▸ own ▸ published, same⟩

theorem kept_published_once (kept : (publishing encodings).Kept scene)
    (recorded : Recorded encodings scene.world scene.history) (submissionId : MessageSubmissionId) :
    PublishedOnce encodings submissionId scene := by
  have sound : SoundWorld scene.world := kept.invariant
  constructor
  case traced => exact created_published sound recorded
  case once =>
    intro first second published published'
    obtain ⟨row, listed, own, transaction⟩ := published_transaction recorded published
    obtain ⟨row', listed', own', transaction'⟩ := published_transaction recorded published'
    have equal := key_unique _ scene.world.rows sound.rows.ids row row' listed listed' (own.trans own'.symm)
    exact key_unique _ scene.world.events sound.once first second published.1 published'.1
      (transaction.symm.trans (equal ▸ transaction'))
  case recorded =>
    intro row listed own eventId named
    exact own ▸ named_published sound recorded listed named
  case named =>
    intro call listed own outcome result submission eventId names
    have promise : Promise encodings call.request call.result scene.world := kept_promise kept listed
    have told : submission = call.request.submissionId ∧ NamedIn scene.world submission eventId := by
      rcases names with ⟨reused, built⟩ | built
      · rw [result, built] at promise
        exact promise.2
      · rw [result, built] at promise
        exact promise.2
    obtain ⟨same, row, there, named, written⟩ := told
    refine ⟨same.trans own, ?_⟩
    exact (named.trans (same.trans own)) ▸ named_published sound recorded there written
  case final =>
    rintro caller listed own bound ⟨roomId, event, next, rest⟩
    have may : Publishes encodings caller.request caller.origin event scene.world :=
      kept_may kept listed rest
    exact may.unbound (own ▸ bound)
  case unchanged =>
    intro index caller next found _ differs turned
    obtain ⟨other, found', proceeded⟩ := turned
    rw [found] at found'
    cases found'
    have listed := List.mem_of_getElem? found
    cases left : caller.rest with
    | done value =>
      rw [left] at proceeded
      cases proceeded
      rfl
    | call op continuing =>
      rw [left] at proceeded
      obtain ⟨answer, world, answers, built⟩ := proceeded
      cases built
      exact differs_unchanged sound differs
        (kept_may kept listed left) answers
  case refused =>
    intro call listed _ differs
    have stranger := differs_not_owned sound differs
    have promise : Promise encodings call.request call.result scene.world := kept_promise kept listed
    cases result : call.result with
    | ok outcome =>
      rw [result] at promise
      cases outcome with
      | published submissionId eventId reused => exact absurd promise.1 stranger
      | pendingReconciliation submissionId transactionId => exact absurd promise.1 stranger
      | acceptedBindingPending submissionId eventId => exact absurd promise.1 stranger
    | error failure =>
      rw [result] at promise
      rcases promise with owned | refused
      · exact absurd owned stranger
      · exact ⟨failure, rfl, refused⟩
  case revoked =>
    rintro caller listed _ ⟨roomId, event, next, rest⟩ request asked
    have may : Publishes encodings caller.request caller.origin event scene.world :=
      kept_may kept listed rest
    exact may.revoked request asked

-- In every run a submission is published once, and what its row once said stays so in every continuation.
theorem submissions_are_published_once (encodings : WireEncodings) (turns : List (Turn PublicationCall))
    (final : PublicationScene) (run : PublicationRun encodings (.opening .empty) turns final) :
    (∀ submissionId, PublishedOnce encodings submissionId final) ∧
      ∀ more after, PublicationRun encodings final more after → RowsLater final.world.rows after.world.rows := by
  have opening : (publishing encodings).Kept (.opening .empty) := opening_kept empty_sound
  obtain ⟨kept, _⟩ := publication_kept opening run
  have recorded := publication_recorded opening (empty_recorded encodings) run
  refine ⟨kept_published_once kept recorded, ?_⟩
  intro more after onward
  exact (publication_kept kept onward).2.rows

-- The text of a value in canonical JSON, where no string needs an escape.
mutual

def canonicalText : Json → String
  | .null => "null"
  | .bool value => toString value
  | .number (.integer value) => toString value
  | .number (.fraction value) => toString value
  | .string text => "\"" ++ text ++ "\""
  | .array items => "[" ++ ",".intercalate (canonicalItems items) ++ "]"
  | .object fields => "\x7b" ++ ",".intercalate (((canonicalFields fields).mergeSort fun first second =>
    decide (first.1 ≤ second.1)).map fun field => "\"" ++ field.1 ++ "\":" ++ field.2) ++ "\x7d"

def canonicalItems : List Json → List String
  | [] => []
  | item :: rest => canonicalText item :: canonicalItems rest

def canonicalFields : List (String × Json) → List (String × String)
  | [] => []
  | (key, value) :: rest => (key, canonicalText value) :: canonicalFields rest

end

def plainWire (digest : BitVec 256) (size : Nat) : WireEncodings where
  formatUuid := hyphenated
  formatTime _ := some "2026-01-01T00:00:00.000Z"
  canonicalize value := some (asciiBytes (canonicalText value))
  sha256 _ := digest
  encodeBase64 bytes := String.ofList (List.replicate ((bytes.length * 8 + 5) / 6) 'A')
  serializedLength _ := some size

theorem no_signature_length : (List.replicate 64 (0 : UInt8)).length = 64 := rfl

def noSignature : DeviceSignature := ⟨List.replicate 64 0, no_signature_length⟩

def redactionWire : WireEncodings := plainWire 0x0cd7811a8b5be5c524e52bbbd5f8805c3dbb4f1004fcb643481deca0e389a33c 626

def adaPublications : MessagePublicationService where
  identity := adaIdentity
  roomCatalogId := ⟨0x019b76daa80070008000000000000003⟩
  rooms _ := none

def adaRedaction : RedactMessageRequest where
  submissionId := ⟨0x019b76daa80070008000000000000005⟩
  roomId := ⟨"!lobby:example.org"⟩
  targetMessageId := ⟨0x019b76daa80070008000000000000006⟩
  targetContentId := ⟨0x019b76daa80070008000000000000007⟩
  provenance := .human
  ordered := rfl

def redactionTransaction : MatrixTransactionId := ⟨"agent-room-revision-019b76da-a800-7000-8000-000000000005", by decide +kernel⟩

theorem redaction_transaction : revisionTransactionId redactionWire adaRedaction.submissionId = .ok redactionTransaction := by
  decide +kernel

def redactionRow (state : MessageSubmissionState) (eventId : Option MatrixEventId) : MessageSubmissionRecord where
  submissionId := adaRedaction.submissionId
  kind := .redact
  fingerprint := ⟨redactionWire.sha256 []⟩
  transactionId := redactionTransaction
  state
  eventId

def redactionClaim : MessageSubmissionClaim where
  submissionId := adaRedaction.submissionId
  kind := .redact
  fingerprint := ⟨redactionWire.sha256 []⟩
  transactionId := redactionTransaction

def redactionContent : List (String × Json) :=
  eventHead redactionWire adaIdentity revisionEventType adaRedaction.submissionId "2026-01-01T00:00:00.000Z" .human
      adaRedaction.roomId ++ [
    ("targetMessageId", wireId redactionWire adaRedaction.targetMessageId),
    ("kind", .string "redact")]

def redactionEvent : MatrixEvent where
  eventType := revisionEventType
  transactionId := redactionTransaction
  content := .object (insertSignature redactionWire redactionContent noSignature)

abbrev PublicationAnswer := (op : PublicationOp) × op.Answer

def redactionAnswers (claimed : MessageSubmissionClaimOutcome) : List PublicationAnswer := [
  ⟨.claim redactionClaim, .ok claimed⟩,
  ⟨.redact ⟨adaRedaction.targetContentId⟩, .ok ()⟩,
  ⟨.sign (asciiBytes (canonicalText (.object redactionContent))), some noSignature⟩]

def publicationAnswers : List PublicationAnswer := [
  ⟨.publish adaRedaction.roomId redactionEvent, .ok ⟨"$redaction"⟩⟩,
  ⟨.markAccepted adaRedaction.submissionId ⟨"$redaction"⟩, .ok (redactionRow .accepted (some ⟨"$redaction"⟩))⟩,
  ⟨.markBound adaRedaction.submissionId, .ok (redactionRow .bound (some ⟨"$redaction"⟩))⟩]

def redactionCall : PublicationCall := ⟨adaPublications, .redact adaRedaction⟩

def claimedWorld (revoked : List ContentId) : World :=
  { World.empty with rows := [redactionRow .claimed none], revoked }

def boundWorld (revoked : List ContentId) : World where
  rows := [redactionRow .bound (some ⟨"$redaction"⟩)]
  authorized := []
  uploads := []
  bound := []
  revoked
  submitted := [⟨adaRedaction.roomId, redactionEvent⟩]
  events := [⟨⟨adaRedaction.roomId, redactionEvent⟩, ⟨"$redaction"⟩⟩]

theorem redaction_prepares (claimed : MessageSubmissionClaimOutcome) (fresh : claimed.record = redactionRow .claimed none) :
    ∃ continuing, Follows (redactionCall.perform redactionWire) (redactionAnswers claimed)
      (.call (.publish adaRedaction.roomId redactionEvent) continuing) ∧
      Follows (.call (.publish adaRedaction.roomId redactionEvent) continuing) publicationAnswers
        (.done (.ok (.published adaRedaction.submissionId ⟨"$redaction"⟩ false))) := by
  apply Exists.intro
  apply And.intro
  · apply Exists.intro
    apply And.intro
    · change (redact redactionWire adaPublications adaRedaction).run = _
      rw [redact, redaction_transaction]
      rfl
    · cases claimed with
      | created record =>
        cases fresh
        exact ⟨_, rfl, _, rfl, rfl⟩
      | existing record =>
        cases fresh
        exact ⟨_, rfl, _, rfl, rfl⟩
  · exact ⟨_, rfl, _, rfl, _, rfl, rfl⟩

theorem serves_redaction : Serves environment World.empty (redactionAnswers (.created (redactionRow .claimed none)))
    (claimedWorld [adaRedaction.targetContentId]) :=
  ⟨_, .inl ⟨_, _, rfl, rfl, .inl rfl⟩, _, rfl, _, rfl, rfl⟩

theorem serves_again : Serves environment (claimedWorld [adaRedaction.targetContentId])
    (redactionAnswers (.existing (redactionRow .claimed none)))
    (claimedWorld [adaRedaction.targetContentId, adaRedaction.targetContentId]) :=
  ⟨_, .inl ⟨_, _, rfl, rfl, .inl rfl⟩, _, rfl, _, rfl, rfl⟩

theorem serves_publication : Serves environment (claimedWorld revoked) publicationAnswers (boundWorld revoked) := by
  refine ⟨_, .inr ⟨?_, rfl⟩, _, .inl ⟨_, _, rfl, rfl, .inl rfl⟩, _, .inl ⟨_, _, rfl, rfl, .inl rfl⟩, rfl⟩
  intro created listed
  cases listed

section

variable (rest : Program PublicationOp PublicationOp.Answer (Except MessagePublicationFailure MessagePublicationOutcome))

def redactionCaller : PublicationCaller where
  request := redactionCall
  origin := .empty
  rest

abbrev claimedScene (joined : PublicationScene) : PublicationScene :=
  joined.proceeded 0 (redactionCaller (redactionCall.perform redactionWire))
    (redactionAnswers (.created (redactionRow .claimed none))) rest (claimedWorld [adaRedaction.targetContentId])

end

abbrev redactionJoined : PublicationScene := (Scene.opening World.empty).join (PublicationCall.perform redactionWire) redactionCall

theorem redaction_published_once : ∃ turns final, PublicationRun redactionWire (.opening .empty) turns final ∧
    (∃ call ∈ final.ended, call.result = .ok (.published adaRedaction.submissionId ⟨"$redaction"⟩ false)) ∧
    ∀ submissionId, PublishedOnce redactionWire submissionId final := by
  obtain ⟨continuing, prepares, finishes⟩ := redaction_prepares (.created (redactionRow .claimed none)) rfl
  have first := proceed_runs (PublicationCall.perform redactionWire) redactionJoined 0 (redactionCaller _) rfl prepares
    serves_redaction
  let prepared := claimedScene (.call (.publish adaRedaction.roomId redactionEvent) continuing) redactionJoined
  have second := proceed_runs (PublicationCall.perform redactionWire) prepared 0 (redactionCaller _) rfl finishes
    (serves_publication)
  have run : PublicationRun redactionWire (.opening .empty) (.join redactionCall :: (_ ++ (_ ++ [.proceed 0]))) _ :=
    ⟨redactionJoined, rfl, (runs_append ..).mpr ⟨_, first, (runs_append ..).mpr ⟨_, second, _, ⟨_, rfl, rfl⟩, rfl⟩⟩⟩
  exact ⟨_, _, run, ⟨_, List.mem_singleton.mpr rfl, rfl⟩, (submissions_are_published_once redactionWire _ _ run).1⟩

def helloPreview : MessagePreview where
  title := "hello"
  summary := "hello"
  contentType := ⟨"text/plain", plain_text_supported⟩
  language := none
  sensitivity := .normal
  riskFlags := ⟨[], no_flags_rising, no_flags_bounded⟩
  conversation := none

def helloBody : MessageBody where
  bytes := [104, 101, 108, 108, 111]
  digest := ⟨0x2cf24dba5fb0a30e26e83b2ac5b9e29e1b161e5c1fa7425e73043362938b9824⟩
  byteLength := ⟨5, by decide, by decide⟩
  mediaType := ⟨"text/plain", plain_text_supported⟩
  encryptionMode := .serverSide
  clientEncryption := none
  expiresAt := none
  measured := rfl
  sealed := by decide

theorem hello_typed : helloPreview.contentType = helloBody.mediaType := rfl

theorem hello_text : scannedText helloBody = .ok (some ⟨"hello", by decide⟩) := by decide +kernel

def adaMessage : SendMessageRequest where
  submissionId := adaRedaction.submissionId
  roomId := adaRedaction.roomId
  preview := helloPreview
  body := helloBody
  provenance := .autonomousAgent
  relation := none
  automationGrantId := some ⟨0x019b76daa80070008000000000000008⟩
  receptionRunId := none
  ordered := rfl
  typed := hello_typed
  granted := by decide

def messageCall : PublicationCall := ⟨adaPublications, .send adaMessage⟩

def messageGrant : AutomationAuthorizationRequest where
  receptionRunId := none
  grantId := ⟨0x019b76daa80070008000000000000008⟩
  submissionId := adaMessage.submissionId
  agentId := adaIdentity.agentId
  agentInstanceId := adaIdentity.agentInstanceId
  roomCatalogId := adaPublications.roomCatalogId
  matrixRoomId := adaMessage.roomId
  isReply := false
  messageText := some ⟨"hello", by decide⟩

theorem message_authorizes (encodings : WireEncodings) : ∃ continuing,
    messageCall.perform encodings = .call (.authorize messageGrant) continuing ∧
      continuing (.error .denied) = .done (.error (.automationAuthorization .denied)) := by
  apply Exists.intro
  apply And.intro
  · change (send encodings adaPublications adaMessage).run = _
    have text : scannedText adaMessage.body = .ok (some ⟨"hello", by decide⟩) := hello_text
    rw [send, authorizeAutomation, if_neg (by decide)]
    simp only [text]
    rfl
  · rfl

-- The second of two calls of one submission publishes after the first has finished it,
-- and a message that is not the stored submission may be refused before the store is asked.
theorem late_publication_and_early_refusal : (¬ ∀ encodings turns final, PublicationRun encodings (.opening .empty) turns final →
      ∀ caller ∈ final.callers, BoundIn final.world caller.request.submissionId → ¬ AboutToPublish caller) ∧
    ¬ ∀ encodings turns final, PublicationRun encodings (.opening .empty) turns final →
      ∀ call ∈ final.ended, Differs encodings final.world call.request → call.result = .error (.store .conflict) := by
  constructor
  · intro never
    obtain ⟨continuing, prepares, finishes⟩ := redaction_prepares (.created (redactionRow .claimed none)) rfl
    obtain ⟨continuing', prepares', _⟩ := redaction_prepares (.existing (redactionRow .claimed none)) rfl
    let begun := redactionCaller (redactionCall.perform redactionWire)
    let joined : PublicationScene := ⟨.empty, [begun, begun], [], []⟩
    have first := proceed_runs (PublicationCall.perform redactionWire) joined 0 (redactionCaller _) rfl prepares
      serves_redaction
    let prepared := claimedScene (.call (.publish adaRedaction.roomId redactionEvent) continuing) joined
    have second := proceed_runs (PublicationCall.perform redactionWire) prepared 1 (redactionCaller _) rfl prepares'
      serves_again
    let both := prepared.proceeded 1 begun (redactionAnswers (.existing (redactionRow .claimed none)))
      (.call (.publish adaRedaction.roomId redactionEvent) continuing')
      (claimedWorld [adaRedaction.targetContentId, adaRedaction.targetContentId])
    have third := proceed_runs (PublicationCall.perform redactionWire) both 0 (redactionCaller _) rfl finishes
      (serves_publication)
    have run : PublicationRun redactionWire (.opening .empty)
        (.join redactionCall :: .join redactionCall :: (_ ++ (_ ++ _))) _ :=
      ⟨_, rfl, joined, rfl, (runs_append ..).mpr ⟨_, first, (runs_append ..).mpr ⟨_, second, third⟩⟩⟩
    refine never redactionWire _ _ run _ (List.mem_cons_of_mem _ (List.mem_singleton.mpr rfl)) ?_ ⟨_, _, _, rfl⟩
    exact ⟨_, List.mem_singleton.mpr rfl, rfl, rfl⟩
  · intro always
    obtain ⟨continuing, prepares, _⟩ := redaction_prepares (.created (redactionRow .claimed none)) rfl
    obtain ⟨refusing, authorizes, refused⟩ := message_authorizes redactionWire
    have first := proceed_runs (PublicationCall.perform redactionWire) redactionJoined 0 (redactionCaller _) rfl prepares
      serves_redaction
    let prepared := claimedScene (.call (.publish adaRedaction.roomId redactionEvent) continuing) redactionJoined
    let both := prepared.join (PublicationCall.perform redactionWire) messageCall
    let turnedAway := both.goOn 1 ⟨messageCall, prepared.world, messageCall.perform redactionWire⟩ (.authorize messageGrant)
      (.error .denied) (refusing (.error .denied)) both.world
    have denied : Turns environment (PublicationCall.perform redactionWire) both (.proceed 1) turnedAway :=
      call_turn (PublicationCall.perform redactionWire) both 1 _ (.authorize messageGrant) (.error .denied) refusing
        both.world rfl authorizes (.inr ⟨⟨.denied, rfl⟩, rfl⟩)
    let failure : Except MessagePublicationFailure MessagePublicationOutcome := .error (.automationAuthorization .denied)
    let final := turnedAway.finish 1 ⟨messageCall, prepared.world, refusing (.error .denied)⟩ failure
    have ended : Turns environment (PublicationCall.perform redactionWire) turnedAway (.proceed 1) final :=
      done_turn (PublicationCall.perform redactionWire) rfl refused
    have run : PublicationRun redactionWire (.opening .empty)
        (.join redactionCall :: (_ ++ [.join messageCall, .proceed 1, .proceed 1])) final :=
      ⟨redactionJoined, rfl, (runs_append ..).mpr ⟨_, first, both, rfl, turnedAway, denied, final, ended, rfl⟩⟩
    have differs : Differs redactionWire final.world messageCall := by
      refine ⟨redactionRow .claimed none, List.mem_singleton.mpr rfl, rfl, ?_⟩
      rintro ⟨kind, _⟩
      cases kind
    have conflict := always redactionWire _ final run ⟨messageCall, prepared.world, failure⟩ (List.mem_singleton.mpr rfl) differs
    cases conflict

end AgentRoom.Publication
