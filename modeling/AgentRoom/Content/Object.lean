import AgentRoom.Domain.Basics
import AgentRoom.Library.Method

namespace AgentRoom

open Library

def maxContentBytes : Nat := 25 * 1024 * 1024

def supportedMediaTypes : List String :=
  ["application/json", "application/octet-stream", "application/pdf", "image/gif", "image/jpeg", "image/png",
    "image/webp", "text/markdown", "text/plain"]

structure Sha256Digest where
  bytes : BitVec 256
deriving DecidableEq

structure ContentByteLength where
  value : Nat
  positive : value ≠ 0
  bounded : value ≤ maxContentBytes
deriving DecidableEq

structure ContentMediaType where
  value : String
  supported : value ∈ supportedMediaTypes
deriving DecidableEq

def storageKeyCharacter (character : Char) : Bool := character.isAlphanum || character ∈ ['/', '-', '_', '.']

def safeStorageKey (value : String) : Bool :=
  16 ≤ value.utf8ByteSize && value.utf8ByteSize ≤ 1024 && value.toList.head? ≠ some '/' &&
    value.toList.getLast? ≠ some '/' && (value.toList.splitOn '/').all (fun segment => segment ≠ [] && segment ≠ ['.', '.']) &&
    value.toList.all storageKeyCharacter

structure ContentStorageKey where
  value : String
  safe : safeStorageKey value = true

inductive ContentEncryptionMode where
  | serverSide
  | clientE2ee
deriving DecidableEq

inductive ContentScanState where
  | pending
  | clean
  | suspicious
  | rejected
  | notApplicable
deriving DecidableEq

namespace ContentScanState

def asStr : ContentScanState → String
  | .pending => "pending"
  | .clean => "clean"
  | .suspicious => "suspicious"
  | .rejected => "rejected"
  | .notApplicable => "not_applicable"

def allowsRead (state : ContentScanState) : Bool := state = .clean || state = .notApplicable

end ContentScanState

inductive ContentLifecycleState where
  | uploading
  | active
  | orphaned
  | redacted
  | expired
  | deleted
deriving DecidableEq

def ContentLifecycleState.asStr : ContentLifecycleState → String
  | .uploading => "uploading"
  | .active => "active"
  | .orphaned => "orphaned"
  | .redacted => "redacted"
  | .expired => "expired"
  | .deleted => "deleted"

structure ContentObject where
  id : ContentId
  ownerPrincipalId : PrincipalId
  storageKey : ContentStorageKey
  digest : Sha256Digest
  byteLength : ContentByteLength
  mediaType : ContentMediaType
  encryptionMode : ContentEncryptionMode
  scanState : ContentScanState
  lifecycleState : ContentLifecycleState
  expiresAt : Option UtcMillis
  retentionExpiresAt : Option UtcMillis
  createdAt : UtcMillis
  deletedAt : Option UtcMillis

abbrev ContentMethod := Method DomainError ContentObject Unit

namespace ContentObject

def deletionConsistent (fields : ContentObject) : DomainResult Unit :=
  match fields.lifecycleState, fields.deletedAt with
  | .deleted, some deletedAt =>
    if fields.createdAt ≤ deletedAt then .ok ()
    else .error (.invariantViolation "content_object" "删除终态必须记录合法删除时间")
  | .deleted, none => .error (.invariantViolation "content_object" "删除终态必须记录合法删除时间")
  | _, none => .ok ()
  | _, some _ => .error (.invariantViolation "content_object" "非删除状态不能携带删除时间")

def validateFields (fields : ContentObject) : DomainResult Unit :=
  if fields.expiresAt.any (· ≤ fields.createdAt) then
    .error (.validation "content_expires_at" "必须晚于创建时间")
  else if fields.retentionExpiresAt.any (· ≤ fields.createdAt) then
    .error (.validation "content_retention_expires_at" "必须晚于创建时间")
  else if fields.encryptionMode = .clientE2ee ∧ fields.scanState ≠ .notApplicable then
    .error (.invariantViolation "content_object" "客户端密文不能声明服务端正文扫描状态")
  else if fields.lifecycleState = .active ∧ ¬ fields.scanState.allowsRead then
    .error (.invariantViolation "content_object" "活跃内容必须已通过扫描或为客户端密文")
  else fields.deletionConsistent

def restore (fields : ContentObject) : DomainResult ContentObject := do
  fields.validateFields
  return fields

def beginUpload (fields : ContentObject) : DomainResult ContentObject :=
  restore { fields with lifecycleState := .uploading, deletedAt := none }

def effectiveExpiresAt (content : ContentObject) : Option UtcMillis :=
  match content.expiresAt, content.retentionExpiresAt with
  | some declared, some retention => some (declared.earlier retention)
  | declared, retention => declared.or retention

def recordScan (outcome : ContentScanState) : ContentMethod := do
  let content ← get
  if content.encryptionMode = .clientE2ee ∨ content.scanState ≠ .pending ∨ content.lifecycleState = .deleted ∨
      outcome = .pending ∨ outcome = .notApplicable then
    throw (.invalidTransition "content_scan" content.scanState.asStr outcome.asStr)
  else set { content with scanState := outcome }

def transition (target : ContentLifecycleState) (allowed : List ContentLifecycleState) : ContentMethod := do
  let content ← get
  if content.lifecycleState ∈ allowed then set { content with lifecycleState := target }
  else throw (.invalidTransition "content_object" content.lifecycleState.asStr target.asStr)

def activate : ContentMethod := do
  let content ← get
  if ¬ content.scanState.allowsRead then
    throw (.invariantViolation "content_object" "只有通过扫描或客户端加密的内容可以激活")
  else transition .active [.uploading, .active]

def markOrphaned : ContentMethod := transition .orphaned [.uploading, .active, .orphaned]

def redact : ContentMethod := transition .redacted [.uploading, .active, .orphaned, .redacted]

def expire (now : UtcMillis) : ContentMethod := do
  let content ← get
  match content.effectiveExpiresAt with
  | none => throw (.invariantViolation "content_object" "无到期时间的内容不能由保留任务过期")
  | some expiresAt =>
    if now < expiresAt then throw (.invariantViolation "content_object" "内容尚未到达保留期限")
    else transition .expired [.uploading, .active, .orphaned, .expired]

def markDeleted (deletedAt : UtcMillis) : ContentMethod := do
  let content ← get
  if content.lifecycleState = .deleted then return ()
  else if deletedAt < content.createdAt then throw (.validation "content_deleted_at" "不能早于创建时间")
  else
    transition .deleted [.orphaned, .redacted, .expired]
    modify fun content => { content with deletedAt := some deletedAt }

def isReadableAt (content : ContentObject) (now : UtcMillis) : Bool :=
  content.lifecycleState = .active && content.scanState.allowsRead && content.effectiveExpiresAt.all (now < ·)

inductive Call where
  | recordScan (outcome : ContentScanState)
  | activate
  | markOrphaned
  | redact
  | expire (now : UtcMillis)
  | markDeleted (deletedAt : UtcMillis)

def perform : Call → ContentMethod
  | .recordScan outcome => recordScan outcome
  | .activate => activate
  | .markOrphaned => markOrphaned
  | .redact => redact
  | .expire now => expire now
  | .markDeleted deletedAt => markDeleted deletedAt

inductive Made : ContentObject → Prop where
  | begun (fields content : ContentObject) (made : beginUpload fields = .ok content) : Made content
  | restored (fields content : ContentObject) (made : restore fields = .ok content) : Made content

-- The bytes were scanned clean: the record was made so, or a scan was recorded in the run.
def ScannedClean (content : ContentObject) (calls : List Call) : Prop :=
  content.scanState = .clean ∨ ∃ before rest next, calls = before ++ .recordScan .clean :: rest ∧
      (recordScan .clean).run (runAll perform content before) = .ok () next

def ReadsSoundly (content : ContentObject) : Prop :=
  ∀ (calls : List Call) (now : UtcMillis), (runAll perform content calls).isReadableAt now = true →
    (runAll perform content calls).lifecycleState = .active ∧
      (∀ expiresAt ∈ (runAll perform content calls).expiresAt, now < expiresAt) ∧
      (∀ expiresAt ∈ (runAll perform content calls).retentionExpiresAt, now < expiresAt) ∧
      ((runAll perform content calls).encryptionMode = .clientE2ee ∨ ScannedClean content calls)

def ScanApplies (content : ContentObject) : Prop :=
  content.encryptionMode = .serverSide → content.scanState = .notApplicable →
    content.lifecycleState ≠ .uploading ∧ content.lifecycleState ≠ .active

def Showable (content : ContentObject) : Prop :=
  content.lifecycleState = .uploading ∨ content.lifecycleState = .active

structure Descends (content next : ContentObject) : Prop where
  encrypted : next.encryptionMode = content.encryptionMode
  exempt : next.scanState = .notApplicable → content.scanState = .notApplicable
  showable : Showable next → Showable content

structure Moved (content : ContentObject) (call : Call) (next : ContentObject) : Prop where
  descends : Descends content next
  scanned : next.scanState = content.scanState ∨ call = .recordScan next.scanState

theorem descends_refl (content : ContentObject) : Descends content content :=
  ⟨rfl, fun exempt => exempt, fun showable => showable⟩

theorem descends_trans (first second third : ContentObject) (before : Descends first second)
    (after : Descends second third) : Descends first third :=
  ⟨after.encrypted.trans before.encrypted, fun exempt => before.exempt (after.exempt exempt),
    fun showable => before.showable (after.showable showable)⟩

theorem moved_refl {content : ContentObject} {call : Call} : Moved content call content :=
  ⟨descends_refl content, .inl rfl⟩

section

variable (content : ContentObject)

variable (call : Call)

theorem transition_yields
    (opens : target = .uploading ∨ target = .active → ∀ state ∈ allowed, state = .uploading ∨ state = .active) :
    Yields (transition target allowed) content fun _ next =>
      Moved content call next ∧ next = { content with lifecycleState := target } := by
  apply yields_get
  apply yields_ite
  · intro listed
    refine ⟨⟨⟨rfl, fun exempt => exempt, fun showable => ?_⟩, .inl rfl⟩, rfl⟩
    exact opens showable _ listed
  · intro _
    exact yields_throw

theorem closing_yields (uploading : target ≠ .uploading) (active : target ≠ .active) :
    Yields (transition target allowed) content fun _ next => Moved content call next := by
  refine yields_mono (fun _ _ moved => moved.1) (transition_yields content call ?_)
  intro opens
  rcases opens with same | same
  · exact absurd same uploading
  · exact absurd same active

theorem record_scan_yields : Yields (recordScan outcome) content fun _ next => Moved content (.recordScan outcome) next := by
  apply yields_get
  apply yields_ite
  · intro _
    exact yields_throw
  · intro allowed
    have applies : outcome ≠ .notApplicable := fun same => allowed (.inr (.inr (.inr (.inr same))))
    exact ⟨⟨rfl, fun exempt => absurd exempt applies, fun showable => showable⟩, .inr rfl⟩

theorem activate_yields : Yields activate content fun _ next => Moved content .activate next := by
  apply yields_get
  apply yields_ite
  · intro _
    exact yields_throw
  · intro _
    refine yields_mono (fun _ _ moved => moved.1) (transition_yields content .activate ?_)
    intro _ state listed
    simpa using listed

theorem expire_yields (now : UtcMillis) : Yields (expire now) content fun _ next => Moved content (.expire now) next := by
  apply yields_get
  cases content.effectiveExpiresAt with
  | none => exact yields_throw
  | some expiresAt =>
    apply yields_ite
    · intro _
      exact yields_throw
    · intro _
      exact closing_yields content _ (by decide) (by decide)

theorem mark_deleted_yields {deletedAt : UtcMillis} :
    Yields (markDeleted deletedAt) content fun _ next => Moved content (.markDeleted deletedAt) next := by
  apply yields_get
  apply yields_ite
  · intro _
    exact yields_pure (moved_refl)
  · intro _
    apply yields_ite
    · intro _
      exact yields_throw
    · intro _
      refine yields_modify
        (closing_yields content (.markDeleted deletedAt) (by decide) (by decide)) ?_
      intro _ next moved
      exact ⟨⟨moved.descends.encrypted, moved.descends.exempt, moved.descends.showable⟩, moved.scanned⟩

theorem call_yields : Yields (perform call) content fun _ next => Moved content call next := by
  cases call with
  | recordScan outcome => exact record_scan_yields content
  | activate => exact activate_yields content
  | markOrphaned => exact closing_yields content _ (by decide) (by decide)
  | redact => exact closing_yields content _ (by decide) (by decide)
  | expire now => exact expire_yields content now
  | markDeleted deletedAt => exact mark_deleted_yields content

theorem run_descends (calls : List Call) : Descends content (runAll perform content calls) := by
  refine run_all_related perform (fun _ => True) Descends descends_refl descends_trans (fun _ _ _ => trivial) ?_ calls
    content trivial
  intro state call _
  exact after_of_yields (call_yields state call) (descends_refl state) fun _ _ moved => moved.descends

theorem scanned_clean_run (clean : (runAll perform content calls).scanState = .clean) : ScannedClean content calls := by
  induction calls generalizing content with
  | nil => exact .inl clean
  | cons call rest ih =>
    rcases ih (after (perform call) content) clean with already | ⟨before, later, next, shape, recorded⟩
    · have yields := call_yields content call
      unfold Yields at yields
      unfold after at already
      cases run : (perform call).run content with
      | ok _ next =>
        rw [run] at yields already
        rcases yields.scanned with same | scan
        · exact .inl (same.symm.trans already)
        · rw [show next.scanState = .clean from already] at scan
          subst scan
          exact .inr ⟨[], rest, next, rfl, run⟩
      | error failure next =>
        rw [run] at yields already
        exact .inl (yields ▸ already)
    · exact .inr ⟨call :: before, later, next, by rw [shape]; rfl, recorded⟩

end

section

variable {fields content : ContentObject}

theorem validated_expiries (valid : fields.validateFields = .ok ()) :
    (∀ expiresAt ∈ fields.expiresAt, fields.createdAt < expiresAt) ∧
      ∀ expiresAt ∈ fields.retentionExpiresAt, fields.createdAt < expiresAt := by
  unfold validateFields at valid
  by_cases declared : fields.expiresAt.any (· ≤ fields.createdAt) = true
  · rw [if_pos declared] at valid
    cases valid
  · rw [if_neg declared] at valid
    by_cases retention : fields.retentionExpiresAt.any (· ≤ fields.createdAt) = true
    · rw [if_pos retention] at valid
      cases valid
    · refine ⟨fun expiresAt carried => ?_, fun expiresAt carried => ?_⟩
      · rw [carried] at declared
        simpa [UtcMillis.not_le_iff] using declared
      · rw [carried] at retention
        simpa [UtcMillis.not_le_iff] using retention

theorem restored_valid (made : restore fields = .ok content) : content.validateFields = .ok () := by
  unfold restore at made
  cases valid : fields.validateFields with
  | error failure =>
    rw [valid] at made
    cases made
  | ok _ =>
    rw [valid] at made
    cases made
    exact valid

theorem made_valid (made : Made content) : content.validateFields = .ok () := by
  cases made with
  | begun fields _ made => exact restored_valid made
  | restored fields _ made => exact restored_valid made

theorem readable_split (now : UtcMillis) : content.isReadableAt now = true ↔
      content.lifecycleState = .active ∧ content.scanState.allowsRead = true ∧
        (∀ expiresAt ∈ content.expiresAt, now < expiresAt) ∧ ∀ expiresAt ∈ content.retentionExpiresAt, now < expiresAt := by
  have both : (content.effectiveExpiresAt.all (now < ·) = true) ↔ (∀ expiresAt ∈ content.expiresAt, now < expiresAt) ∧
        ∀ expiresAt ∈ content.retentionExpiresAt, now < expiresAt := by
    rw [effectiveExpiresAt]
    cases content.expiresAt with
    | none => cases content.retentionExpiresAt <;> simp
    | some declared =>
      cases content.retentionExpiresAt with
      | none => simp
      | some retention =>
        by_cases order : declared ≤ retention
        · simp only [UtcMillis.earlier, if_pos order, Option.all_some, decide_eq_true_eq, Option.mem_def,
            Option.some.injEq, forall_eq', UtcMillis.lt_iff]
          rw [UtcMillis.le_iff] at order
          omega
        · simp only [UtcMillis.earlier, if_neg order, Option.all_some, decide_eq_true_eq, Option.mem_def,
            Option.some.injEq, forall_eq', UtcMillis.lt_iff]
          rw [UtcMillis.not_le_iff, UtcMillis.lt_iff] at order
          omega
  simp only [isReadableAt, Bool.and_eq_true, decide_eq_true_eq, both]
  exact and_assoc

end

theorem activated (content : ContentObject) (readable : content.scanState.allowsRead = true) (showable : Showable content) :
    runAll perform content [.activate] = { content with lifecycleState := .active } := by
  have listed : content.lifecycleState ∈ [ContentLifecycleState.uploading, .active] := by
    simpa [Showable] using showable
  have passes : ¬ ¬ content.scanState.allowsRead = true := not_not.mpr readable
  change finalState ((if ¬ content.scanState.allowsRead = true then
      throw (.invariantViolation "content_object" "只有通过扫描或客户端加密的内容可以激活")
    else transition .active [.uploading, .active]) content) = _
  rw [if_neg passes]
  change finalState ((if content.lifecycleState ∈ [ContentLifecycleState.uploading, .active] then
      set { content with lifecycleState := .active }
    else throw (.invalidTransition "content_object" content.lifecycleState.asStr "active") : ContentMethod) content) = _
  rw [if_pos listed]
  rfl

-- The error texts of `activate` and `restore` promise that only scanned or
-- client-encrypted bytes are shown, but both ask the scan state alone.
theorem reads_soundly_iff_scan_applies (content : ContentObject) (made : Made content) :
    ReadsSoundly content ↔ ScanApplies content := by
  constructor
  · intro sound serverSide exempt
    by_contra open_
    have showable : Showable content := by
      by_contra closed
      exact open_ ⟨fun same => closed (.inl same), fun same => closed (.inr same)⟩
    have allowed : content.scanState.allowsRead = true := by simp [exempt, ContentScanState.allowsRead]
    have activated := activated content allowed showable
    obtain ⟨declared, retention⟩ := validated_expiries (made_valid made)
    have readable : (runAll perform content [.activate]).isReadableAt content.createdAt = true := by
      rw [activated, readable_split]
      exact ⟨rfl, allowed, declared, retention⟩
    rcases (sound [.activate] content.createdAt readable).2.2.2 with client | scanned
    · rw [activated] at client
      rw [serverSide] at client
      cases client
    · rcases scanned with clean | ⟨before, rest, next, shape, _⟩
      · rw [exempt] at clean
        cases clean
      · have listed : Call.recordScan .clean ∈ [Call.activate] := by
          rw [shape]
          simp
        simp at listed
  · intro applies calls now readable
    obtain ⟨active, allowed, declared, retention⟩ := (readable_split now).mp readable
    refine ⟨active, declared, retention, ?_⟩
    have descends := run_descends content calls
    have states : (runAll perform content calls).scanState = .clean ∨
        (runAll perform content calls).scanState = .notApplicable := by
      simpa [ContentScanState.allowsRead] using allowed
    rcases states with clean | exempt
    · exact .inr (scanned_clean_run content clean)
    · left
      rw [descends.encrypted]
      cases mode : content.encryptionMode with
      | clientE2ee => rfl
      | serverSide =>
        obtain ⟨uploading, notActive⟩ := applies mode (descends.exempt exempt)
        rcases descends.showable (.inr active) with same | same
        · exact absurd same uploading
        · exact absurd same notActive

def uploadFields (encryptionMode : ContentEncryptionMode) (scanState : ContentScanState) : ContentObject where
  id := ⟨1⟩
  ownerPrincipalId := ⟨2⟩
  storageKey := ⟨"content/0195-safe-object", by decide +kernel⟩
  digest := ⟨7#256⟩
  byteLength := ⟨128, by decide, by decide⟩
  mediaType := ⟨"text/markdown", by decide⟩
  encryptionMode
  scanState
  lifecycleState := .uploading
  expiresAt := none
  retentionExpiresAt := none
  createdAt := 1000
  deletedAt := none

theorem scanned_upload_reads_soundly : ReadsSoundly (uploadFields .serverSide .pending) :=
  (reads_soundly_iff_scan_applies _ (.begun (uploadFields .serverSide .pending) _ rfl)).mpr
    fun _ exempt => (nomatch exempt)

theorem exempt_upload_is_shown_unscanned : Made (uploadFields .serverSide .notApplicable) ∧
      (runAll perform (uploadFields .serverSide .notApplicable) [.activate]).isReadableAt ⟨2000, by decide⟩ = true ∧
      (runAll perform (uploadFields .serverSide .notApplicable) [.activate]).encryptionMode = .serverSide ∧
      ¬ ReadsSoundly (uploadFields .serverSide .notApplicable) := by
  refine ⟨.begun (uploadFields .serverSide .notApplicable) _ rfl, by decide +kernel, by decide +kernel, fun sound => ?_⟩
  have client := (sound [.activate] ⟨2000, by decide⟩ (by decide +kernel)).2.2.2
  rcases client with same | clean | ⟨before, rest, next, shape, _⟩
  · cases same
  · cases clean
  · have listed : Call.recordScan .clean ∈ [Call.activate] := by simp [shape]
    simp at listed

end ContentObject

end AgentRoom
