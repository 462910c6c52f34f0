import AgentRoom.Automation.LedgerRuns
import AgentRoom.Content.Object

namespace AgentRoom.Automation

open Library

inductive AutomationSendDenial where
  | grantNotFound
  | grant (reason : AutomationGrantDenial)
  | actorMismatch
  | authorityChanged
  | matrixPermissionDenied
deriving DecidableEq

def AutomationSendDenial.asStr : AutomationSendDenial → String
  | .grantNotFound => "automation.grant_not_found"
  | .grant reason => reason.asStr
  | .actorMismatch => "automation.actor_mismatch"
  | .authorityChanged => "automation.authority_changed"
  | .matrixPermissionDenied => "automation.matrix_permission_denied"

inductive AutomationFailureKind where
  | invalidRequest
  | forbidden
  | notFound
  | conflict
  | dependencyUnavailable
  | internal
deriving DecidableEq

def repositoryFailure : RepositoryErrorKind → AutomationFailureKind
  | .conflict => .conflict
  | .forbidden => .forbidden
  | .notFound => .notFound
  | .constraint | .corruptData => .internal
  | .unavailable => .dependencyUnavailable

structure AuthorizeAutomationSend where
  receptionRunId : Option ReceptionRunId
  principalId : PrincipalId
  grantId : AutomationGrantId
  submissionId : MessageSubmissionId
  agentId : AgentId
  agentInstanceId : AgentInstanceId
  roomCatalogId : RoomCatalogId
  matrixRoomId : MatrixRoomId
  isReply : Bool
  messageText : Option String

structure AutomationSendAuthority where
  containsUnknownRecipients : Bool
  endToEndEncrypted : Bool

-- What a call is told by the other services: no answer of the homeserver or of the
-- scanner is none.
structure SendWorld where
  refreshed : Result Unit
  authority : Result (Option AutomationSendAuthority)
  canSendMessages : Option Bool
  scanned : Option ContentScanState
  executions : Reception.ReceptionTable
  references : Bool

inductive AutomationAuthorizationOutcome where
  | authorized (reused : Bool)
  | denied (reason : AutomationSendDenial)
deriving DecidableEq

abbrev Authorization := Except AutomationFailureKind AutomationAuthorizationOutcome

inductive SendPreparation where
  | ready (attempt : AutomationGrantAttempt)
  | denied (reason : AutomationSendDenial)
  | unavailable (decisionCode : String)

section

variable (world : SendWorld) (request : AuthorizeAutomationSend) (now : UtcMillis)

def attempt (recipients : AutomationSendAuthority) (riskScan : AutomationRiskScanOutcome) : AutomationGrantAttempt where
  agentId := request.agentId
  agentInstanceId := some request.agentInstanceId
  roomCatalogId := request.roomCatalogId
  messageKind := if request.isReply then .reply else .roomMessage
  containsUnknownRecipients := recipients.containsUnknownRecipients
  endToEndEncrypted := recipients.endToEndEncrypted
  riskScan
  now

def scanMessage : Option AutomationRiskScanOutcome :=
  match request.messageText, world.scanned with
  | none, _ => some .notRequested
  | some _, some .clean => some .passed
  | some _, some .rejected | some _, some .suspicious => some .rejected
  | some _, _ => none

def applyCurrentAuthority (record : AutomationGrantRecord) : Except AutomationFailureKind SendPreparation := do
  world.refreshed.mapError repositoryFailure
  match ← world.authority.mapError repositoryFailure with
  | none => return .denied .authorityChanged
  | some authority =>
    match record.grant.evaluatePolicy (attempt request now authority .passed), world.canSendMessages with
    | .denied reason, _ => return .denied (.grant reason)
    | .allowed, none => return .unavailable "automation.matrix_authority_unavailable"
    | .allowed, some false => return .denied .matrixPermissionDenied
    | .allowed, some true =>
      match scanMessage world request with
      | none => return .unavailable "automation.risk_scan_unavailable"
      | some riskScan =>
        match record.grant.evaluatePolicy (attempt request now authority riskScan) with
        | .denied reason => return .denied (.grant reason)
        | .allowed => return .ready (attempt request now authority riskScan)

def loadAndPrecheck (found : Result (Option AutomationGrantRecord)) : Except AutomationFailureKind SendPreparation := do
  match ← found.mapError repositoryFailure with
  | none => return .denied .grantNotFound
  | some record =>
    if request.principalId ≠ record.grant.grantorId then return .denied .actorMismatch
    else match record.grant.evaluatePolicy (attempt request now ⟨false, false⟩ .passed) with
    | .denied reason => return .denied (.grant reason)
    | .allowed => applyCurrentAuthority world request now record

def decisionRecord (decisionCode : String) : AutomationDecisionRecord where
  grantId := request.grantId
  submissionId := request.submissionId
  principalId := request.principalId
  agentId := request.agentId
  agentInstanceId := request.agentInstanceId
  roomCatalogId := request.roomCatalogId
  matrixRoomId := request.matrixRoomId
  decisionCode
  decidedAt := now

def recordDecision (tables : AutomationTables) (decisionCode : String)
    (answer : Authorization) : AutomationTables × Authorization :=
  match recordDenial tables (decisionRecord request now decisionCode) world.references with
  | .error kind => (tables, .error (repositoryFailure kind))
  | .ok tables => (tables, answer)

def consume (tables : AutomationTables) (attempt : AutomationGrantAttempt) : AutomationTables × Authorization :=
  match consumeInTransaction world.executions tables { request with attempt } world.references with
  | .error kind => (tables, .error (repositoryFailure kind))
  | .ok (tables, .consumed _ reused) => (tables, .ok (.authorized reused))
  | .ok (tables, .denied reason) => (tables, .ok (.denied (.grant reason)))
  | .ok (tables, .notFound) => (tables, .ok (.denied .grantNotFound))

def foundGrant (tables : AutomationTables) : AutomationTables × Result (Option AutomationGrantRecord) :=
  expiredFirst tables (expireGrants tables none (some request.grantId) now) (findGrant · request.grantId now)

def authorizeSend (tables : AutomationTables) : AutomationTables × Authorization :=
  let (tables, found) := foundGrant request now tables
  match loadAndPrecheck world request now found with
  | .error kind => (tables, .error kind)
  | .ok (.denied reason) =>
    -- There is no grant to record this one under.
    if reason = .grantNotFound then (tables, .ok (.denied reason))
    else recordDecision world request now tables reason.asStr (.ok (.denied reason))
  | .ok (.unavailable decisionCode) => recordDecision world request now tables decisionCode (.error .dependencyUnavailable)
  | .ok (.ready attempt) => consume world request tables attempt

end

def DenialsKept (tables later : AutomationTables) : Prop := tables.denials ⊆ later.denials

def withoutDenials (tables : AutomationTables) : AutomationTables := { tables with denials := [] }

section

variable {tables next : AutomationTables} {record : AutomationDecisionRecord}

def SameDecision (row record : AutomationDecisionRecord) : Prop :=
  row.grantId = record.grantId ∧ row.submissionId = record.submissionId ∧ row.decisionCode = record.decisionCode

theorem insert_denial_recorded (inserts : insertDenial tables record references = .ok next) :
    ∃ row ∈ next.denials, SameDecision row record := by
  obtain ⟨_, _, rest⟩ := unbind inserts
  split at rest
  case isTrue taken =>
    cases rest
    simpa [SameDecision] using taken
  case isFalse =>
    obtain ⟨_, _, built⟩ := unbind rest
    cases built
    exact ⟨record, by simp, rfl, rfl, rfl⟩

theorem insert_denial_again (inserts : insertDenial other record allowed = .ok next)
    (known : ∃ row ∈ tables.denials, SameDecision row record) : insertDenial tables record references = .ok tables := by
  obtain ⟨_, checked, _⟩ := unbind inserts
  rw [insertDenial, checked]
  exact if_pos (by simpa [SameDecision] using known)

variable {request : AutomationConsumptionRequest} {grant : AutomationGrantRecord}

theorem consumption_denial_inserts (inserts : insertConsumptionDenial other request grant code references = .ok next) :
    ∃ record, (record.grantId = request.grantId ∧ record.submissionId = request.submissionId ∧ record.decisionCode = code) ∧
      insertDenial other record references = .ok next ∧
      ∀ tables, insertConsumptionDenial tables request grant code references = insertDenial tables record references := by
  unfold insertConsumptionDenial at inserts ⊢
  cases instanceId : request.attempt.agentInstanceId with
  | none =>
    rw [instanceId] at inserts
    cases inserts
  | some _ =>
    rw [instanceId] at inserts
    exact ⟨_, ⟨rfl, rfl, rfl⟩, inserts, fun _ => rfl⟩

def RefusedAlike (tables : AutomationTables) (denials : List AutomationDecisionRecord) (request : AutomationConsumptionRequest)
    (references : Bool) (next : AutomationTables) (outcome : AutomationConsumptionOutcome)
    (refuses : Result (AutomationTables × AutomationConsumptionOutcome)) : Prop :=
  ∃ grant reason, outcome = .denied reason ∧
    insertConsumptionDenial { tables with denials } request grant reason.asStr references = .ok next ∧
    refuses = (insertConsumptionDenial tables request grant reason.asStr references).map (·, .denied reason)

variable {outcome : AutomationConsumptionOutcome} (refused : ∀ record reused, outcome ≠ .consumed record reused)
include refused

theorem reuse_refused (tables : AutomationTables)
    (reuses : reuseSubmission { tables with denials } request grant existing references = .ok (next, outcome)) :
    RefusedAlike tables denials request references next outcome (reuseSubmission tables request grant existing references) := by
  obtain ⟨_, fits, rest⟩ := unbind reuses
  obtain ⟨_, granted, rest⟩ := unbind rest
  have granted : requireSameGrantor tables request grant existing = .ok _ := granted
  rw [reuseSubmission, fits]
  simp only [bind, Except.bind, granted]
  split at rest
  · obtain ⟨_, denies, built⟩ := unbind rest
    cases built
    exact ⟨grant, _, rfl, denies, rfl⟩
  · cases rest
    exact absurd rfl (refused _ _)

theorem consume_new_refused (tables : AutomationTables)
    (consumes : consumeNewSubmission { tables with denials } request grant references = .ok (next, outcome)) :
    RefusedAlike tables denials request references next outcome (consumeNewSubmission tables request grant references) := by
  unfold consumeNewSubmission at consumes ⊢
  split at consumes
  · obtain ⟨_, denies, built⟩ := unbind consumes
    cases built
    exact ⟨grant, _, rfl, denies, rfl⟩
  · obtain ⟨_, _, rest⟩ := unbind consumes
    obtain ⟨_, _, rest⟩ := unbind rest
    obtain ⟨_, _, rest⟩ := unbind rest
    obtain ⟨again, _, rest⟩ := unbind rest
    cases again with
    | none => cases rest
    | some record =>
      cases rest
      exact absurd rfl (refused _ _)

theorem consume_refused
    (consumes : consumeInTransaction executions { tables with denials } request references = .ok (next, outcome)) :
    ∃ expired : AutomationTables, expired.denials = tables.denials ∧
      ((outcome = .notFound ∧ consumeInTransaction executions tables request references = .ok (expired, .notFound)) ∨
        RefusedAlike expired denials request references next outcome
          (consumeInTransaction executions tables request references)) := by
  obtain ⟨_, owns, rest⟩ := unbind consumes
  obtain ⟨_, expires, rest⟩ := unbind rest
  obtain ⟨rows, updated, built⟩ := unbind expires
  cases built
  have expired : expireGrants tables none (some request.grantId) request.attempt.now = .ok { tables with grants := rows } := by
    rw [expireGrants, updated]
    rfl
  obtain ⟨found, finds, rest⟩ := unbind rest
  have finds : findGrant { tables with grants := rows } request.grantId request.attempt.now = .ok found := finds
  refine ⟨{ tables with grants := rows }, rfl, ?_⟩
  simp only [consumeInTransaction, owns, expired, bind, Except.bind, finds]
  cases found with
  | none =>
    cases rest
    exact .inl ⟨rfl, rfl⟩
  | some record =>
    right
    dsimp only at rest ⊢
    split at rest
    · exact reuse_refused refused { tables with grants := rows } rest
    · exact consume_new_refused refused { tables with grants := rows } rest

end

section

variable {world : SendWorld} {request : AuthorizeAutomationSend} {tables next : AutomationTables}

theorem consume_denied (tables : AutomationTables) {attempt : AutomationGrantAttempt} (now : UtcMillis)
    (denied : consume world request { tables with denials } attempt = (next, .ok (.denied reason))) :
    ∃ expired : AutomationTables, expired.denials = tables.denials ∧
      ((reason = .grantNotFound ∧ consume world request tables attempt = (expired, .ok (.denied reason))) ∨
        ∃ other record, reason ≠ .grantNotFound ∧ SameDecision record (decisionRecord request now reason.asStr) ∧
          insertDenial other record world.references = .ok next ∧
          (insertDenial expired record world.references = .ok expired →
            consume world request tables attempt = (expired, .ok (.denied reason)))) := by
  unfold consume at denied ⊢
  split at denied
  case h_1 => cases denied
  case h_2 => cases denied
  case h_3 consumes =>
    obtain ⟨expired, same, ⟨absent, _⟩ | ⟨grant, code, refused, inserts, again⟩⟩ :=
      consume_refused (fun _ _ same => by cases same) consumes
    · cases absent
    · cases refused
      cases denied
      obtain ⟨record, key, inserted, always⟩ := consumption_denial_inserts inserts
      refine ⟨expired, same, .inr ⟨_, record, nofun, key, inserted, fun kept => ?_⟩⟩
      rw [again, always, kept]
      rfl
  case h_4 consumes =>
    obtain ⟨expired, same, ⟨_, again⟩ | ⟨grant, code, refused, _⟩⟩ := consume_refused (fun _ _ same => by cases same) consumes
    · cases denied
      exact ⟨expired, same, .inl ⟨rfl, by rw [again]⟩⟩
    · cases refused

theorem record_decision_ok (denied : recordDecision world request now tables code answer = (next, .ok outcome)) :
    answer = .ok outcome ∧ insertDenial tables (decisionRecord request now code) world.references = .ok next ∧
      decisionRecord request now code ∈ next.denials := by
  unfold recordDecision at denied
  split at denied
  · cases denied
  · next records =>
      cases denied
      obtain ⟨_, inserts, rest⟩ := unbind records
      obtain ⟨_, listed, built⟩ := unbind rest
      cases built
      exact ⟨rfl, inserts, (ensure_ok ..).mp listed⟩

theorem denied_recorded (denied : authorizeSend world request now tables = (next, .ok (.denied reason)))
    (granted : reason ≠ .grantNotFound) (later : UtcMillis) :
    ∃ row ∈ next.denials, SameDecision row (decisionRecord request later reason.asStr) := by
  unfold authorizeSend at denied
  dsimp only at denied
  split at denied
  · cases denied
  · split at denied
    · cases denied
      exact absurd ‹_› granted
    · obtain ⟨same, inserts, _⟩ := record_decision_ok denied
      cases same
      have recorded := insert_denial_recorded inserts
      exact recorded
  · exact absurd (record_decision_ok denied).1 nofun
  · obtain ⟨_, _, ⟨absent, _⟩ | ⟨_, record, _, key, inserts, _⟩⟩ := consume_denied _ later denied
    · exact absurd absent granted
    · obtain ⟨row, listed, same⟩ := insert_denial_recorded inserts
      exact ⟨row, listed, same.1.trans key.1, same.2.1.trans key.2.1, same.2.2.trans key.2.2⟩

theorem found_without (request : AuthorizeAutomationSend) (tables : AutomationTables) (now : UtcMillis) : ∃ expired : AutomationTables, ∃ found,
    expired.denials = tables.denials ∧ foundGrant request now tables = (expired, found) ∧
      foundGrant request now (withoutDenials tables) = (withoutDenials expired, found) := by
  simp only [foundGrant, expireGrants, withoutDenials]
  cases updateWhere _ (advance .expired) tables.grants with
  | error kind => exact ⟨tables, _, rfl, rfl, rfl⟩
  | ok rows => exact ⟨{ tables with grants := rows }, _, rfl, rfl, rfl⟩

theorem record_decision_again (known : insertDenial tables (decisionRecord request now code) world.references = .ok tables) :
    recordDecision world request now tables code answer =
      (tables, if decisionRecord request now code ∈ tables.denials then answer else .error .conflict) := by
  rw [recordDecision, recordDenial, known]
  by_cases same : decisionRecord request now code ∈ tables.denials
  · simp [same, ensure, bind, Except.bind, pure, Except.pure]
  · simp [same, ensure, bind, Except.bind, repositoryFailure]

theorem repeated_denial_is_harmless (first : authorizeSend world request now tables = (next, .ok (.denied reason)))
    (kept : DenialsKept next final) (facts : (authorizeSend again request later (withoutDenials final)).2 = .ok (.denied reason)) :
    ((authorizeSend again request later final).2 = .ok (.denied reason) ∧
      (authorizeSend again request later final).1.denials = final.denials) ↔
    (reason = .grantNotFound ∨
      (∃ attempt, loadAndPrecheck again request later (foundGrant request later final).2 = .ok (.ready attempt)) ∨
      decisionRecord request later reason.asStr ∈ final.denials) := by
  obtain ⟨expired, found, same, finds, bare⟩ := found_without request final later
  have known (granted : reason ≠ .grantNotFound) :
      ∃ row ∈ expired.denials, SameDecision row (decisionRecord request later reason.asStr) := by
    rw [same]
    exact (denied_recorded first granted later).imp fun _ row => ⟨kept row.1, row.2⟩
  unfold authorizeSend at facts ⊢
  rw [bare] at facts
  rw [finds, ← same]
  dsimp only at facts ⊢
  split at facts
  · cases facts
  · split at facts
    · cases facts
      simp [*]
    · obtain ⟨answered, inserts, _⟩ := record_decision_ok (Prod.ext rfl facts)
      cases answered
      have granted : reason ≠ .grantNotFound := ‹_›
      simp [*, record_decision_again (insert_denial_again inserts (known granted))]
  · exact absurd (record_decision_ok (Prod.ext rfl facts)).1 nofun
  · obtain ⟨final, kept, ⟨_, answer⟩ | ⟨_, record, granted, key, inserts, settles⟩⟩ :=
      consume_denied expired later (Prod.ext rfl facts)
    · simp [*]
    · obtain ⟨row, listed, same⟩ := known granted
      rw [← kept] at listed
      have answer := settles (insert_denial_again inserts ⟨row, listed, same.1.trans key.1.symm,
        same.2.1.trans key.2.1.symm, same.2.2.trans key.2.2.symm⟩)
      simp [*]

end

def strangersSend : AuthorizeAutomationSend where
  receptionRunId := none
  principalId := ⟨0x019b76daa80070008000000000000009⟩
  grantId := sampleGrant.id
  submissionId := ⟨0x019b76daa80070008000000000000005⟩
  agentId := sampleGrant.scope.agentId
  agentInstanceId := ⟨0x019b76daa80070008000000000000004⟩
  roomCatalogId := sampleGrant.scope.roomCatalogId
  matrixRoomId := ⟨"!lobby:example.org"⟩
  isReply := false
  messageText := none

def sampleWorld : SendWorld := ⟨.ok (), .ok none, none, none, fun _ => none, true⟩

def onceDenied : AutomationTables := (authorizeSend sampleWorld strangersSend 2000 ⟨[sampleGrant], [], []⟩).1

theorem denied_again_at_once : (authorizeSend sampleWorld strangersSend 2000 onceDenied).2 = .ok (.denied .actorMismatch) ∧
    (authorizeSend sampleWorld strangersSend 2000 onceDenied).1.denials = onceDenied.denials := by
  have first : authorizeSend sampleWorld strangersSend 2000 ⟨[sampleGrant], [], []⟩ = (onceDenied, .ok (.denied .actorMismatch)) :=
    Prod.ext rfl (by decide)
  exact (repeated_denial_is_harmless first (List.Subset.refl _) (by decide)).mpr (.inr (.inr (by decide)))

theorem denied_again_later_fails :
    (authorizeSend sampleWorld strangersSend 2000 ⟨[sampleGrant], [], []⟩).2 = .ok (.denied .actorMismatch) ∧
      (authorizeSend sampleWorld strangersSend 2001 (withoutDenials onceDenied)).2 = .ok (.denied .actorMismatch) ∧
      (authorizeSend sampleWorld strangersSend 2001 onceDenied).2 = .error .conflict := by decide

end AgentRoom.Automation
