import AgentRoom.Handoff.TargetedQueue
import AgentRoom.Handoff.TargetedRuns
import Mathlib.Data.List.Induction

namespace AgentRoom

open Library

def TargetedOp.time : TargetedOp → UtcMillis
  | .markDelivered deliveredAt => deliveredAt
  | .consume consumedAt => consumedAt
  | .decline _ declinedAt => declinedAt
  | .revoke revokedAt => revokedAt
  | .expire observedAt => observedAt
  | .fail _ failedAt => failedAt

namespace TargetedHandoff


variable {deliveredAt : UtcMillis}

variable (handoff : TargetedHandoff)

theorem mark_delivered_run (queued : handoff.status = .queued)
    (later : handoff.queuedAt ≤ deliveredAt) (live : deliveredAt < handoff.fields.expiresAt) :
    (markDelivered deliveredAt).run handoff = .ok () { handoff with
      status := .delivered, deliveredAt := some deliveredAt, version := bumpVersion handoff.version } := by
  have fresh : handoff.status ≠ .delivered := by
    rw [queued]
    decide
  have status : handoff.requireTargetedStatus .queued .delivered = .ok () := by
    rw [requireTargetedStatus, if_neg (not_not.mpr queued)]
  have timed : handoff.validateTargetedActiveTime deliveredAt handoff.queuedAt "handoff_delivered_at" = .ok () :=
    active_time_passes later live
  simp [markDelivered, if_neg fresh, status, timed, lift_ok]

theorem consume_run {consumedAt : UtcMillis} (delivered : handoff.status = .delivered)
    (recorded : handoff.deliveredAt = some deliveredAt) (later : deliveredAt ≤ consumedAt)
    (live : consumedAt < handoff.fields.expiresAt) : (consume consumedAt).run handoff = .ok () { handoff with
      status := .consumed, consumedAt := some consumedAt, resolvedAt := some consumedAt,
      version := bumpVersion handoff.version } := by
  have fresh : handoff.status ≠ .consumed := by
    rw [delivered]
    decide
  have status : handoff.requireTargetedStatus .delivered .consumed = .ok () := by
    rw [requireTargetedStatus, if_neg (not_not.mpr delivered)]
  have timed : handoff.validateTargetedActiveTime consumedAt deliveredAt "handoff_consumed_at" = .ok () :=
    active_time_passes later live
  simp [consume, if_neg fresh, status, recorded, timed, lift_ok]

theorem open_not (active : handoff.open') (status : TargetedHandoffStatus)
    (terminal : status.isTerminal = true) : handoff.status ≠ status := by
  intro same
  have running := open_not_terminal active
  rw [same, terminal] at running
  cases running

theorem resolve_active_run {status : TargetedHandoffStatus} {failureCode : HandoffFailureCode}
    {resolvedAt : UtcMillis} (terminal : status.isTerminal = true) (active : handoff.open')
    (later : handoff.latestTargetedActiveTime ≤ resolvedAt) (live : resolvedAt < handoff.fields.expiresAt) :
    (resolveActive status failureCode resolvedAt).run handoff = .ok () { handoff with
      status, failureCode := some failureCode, resolvedAt := some resolvedAt, version := bumpVersion handoff.version } := by
  have fresh := open_not handoff active status terminal
  have timed : handoff.validateTargetedActiveTime resolvedAt handoff.latestTargetedActiveTime "handoff_resolved_at" = .ok () :=
    active_time_passes later live
  have active : handoff.status = .queued ∨ handoff.status = .delivered := active
  simp only [resolveActive, EStateM.run_bind, EStateM.run_get, if_neg fresh, if_neg (not_not.mpr active), timed, lift_ok,
    EStateM.run_pure, EStateM.run_set]

theorem revoke_run (active : handoff.open')
    (later : handoff.latestTargetedActiveTime ≤ revokedAt) (live : revokedAt < handoff.fields.expiresAt) :
    (revoke revokedAt).run handoff = .ok () { handoff with
      status := .revoked, resolvedAt := some revokedAt, version := bumpVersion handoff.version } := by
  have fresh := open_not handoff active .revoked rfl
  have timed : handoff.validateTargetedActiveTime revokedAt handoff.latestTargetedActiveTime "handoff_revoked_at" = .ok () :=
    active_time_passes later live
  have active : handoff.status = .queued ∨ handoff.status = .delivered := active
  simp only [revoke, EStateM.run_bind, EStateM.run_get, if_neg fresh, if_neg (not_not.mpr active), timed, lift_ok,
    EStateM.run_pure, EStateM.run_set]

theorem expire_run (observedAt : UtcMillis) (active : handoff.open') (due : handoff.fields.expiresAt ≤ observedAt) :
    (expire observedAt).run handoff = .ok () { handoff with
      status := .expired, resolvedAt := some observedAt, version := bumpVersion handoff.version } := by
  have fresh := open_not handoff active .expired rfl
  have early := (UtcMillis.not_lt_iff ..).mpr due
  have active : handoff.status = .queued ∨ handoff.status = .delivered := active
  simp only [expire, EStateM.run_bind, EStateM.run_get, if_neg fresh, if_neg (not_not.mpr active), if_neg early, EStateM.run_set]

end TargetedHandoff

def TargetedRow.ofTargeted (detailed : DetailedTargeted) (requestFingerprint : Option (BitVec 256)) : TargetedRow :=
  let handoff := detailed.handoff
  let details := detailed.details
  { id := handoff.fields.id
    principalId := handoff.fields.principalId
    targetInstanceId := handoff.fields.targetInstanceId
    sourceRoomId := details.sourceRoomId.value
    sourceEventId := details.sourceEventId.value
    sourceMessageId := some handoff.fields.sourceMessageId
    contentId := handoff.fields.contentId
    allowedPurpose := details.purpose.asStr
    permissions := details.permissions.members.map HandoffPermission.asStr
    state := handoff.status.asStr
    approvedAt := some handoff.fields.createdAt
    createdAt := some handoff.fields.createdAt
    queuedAt := some handoff.queuedAt
    deliveredAt := handoff.deliveredAt
    consumedAt := handoff.consumedAt
    resolvedAt := handoff.resolvedAt
    expiresAt := handoff.fields.expiresAt
    failureCode := handoff.failureCode.map HandoffFailureCode.bytes
    requestFingerprint
    version := handoff.version }

structure TargetCatalog.Agrees (catalog : TargetCatalog) (detailed : DetailedTargeted) : Prop where
  agent : catalog.agentOf detailed.handoff.fields.targetInstanceId = some detailed.handoff.fields.targetAgentId
  content : catalog.contentOf detailed.handoff.fields.contentId =
    some (detailed.details.digest.bytes, (detailed.details.byteLength.value : Int), detailed.details.mediaType.value)

namespace TargetedRow

open TargetedHandoff

@[simp] theorem decode_status_as_str (status : TargetedHandoffStatus) : decodeStatus status.asStr = some status := by
  cases status <;> rfl

@[simp] theorem is_open_as_str {status : TargetedHandoffStatus} :
    isOpenState status.asStr = true ↔ status = .queued ∨ status = .delivered := by
  cases status <;> decide

variable {status : TargetedHandoffStatus}

theorem queued_as_str : status.asStr = "queued" ↔ status = .queued := by
  cases status <;> decide

theorem delivered_as_str : status.asStr = "delivered" ↔ status = .delivered := by
  cases status <;> decide

@[simp] theorem decode_failure_bytes (operation : String) (code : Option HandoffFailureCode) :
    decodeFailure operation (code.map HandoffFailureCode.bytes) = .ok code := by
  cases code with
  | none => rfl
  | some code =>
    simp only [Option.map_some, decodeFailure, HandoffFailureCode.new, dif_pos code.valid]
    rfl

@[simp] theorem decode_version_cast (operation : String) (version : Nat) :
    decodeVersion operation (version : Int) = .ok version := by
  rw [decodeVersion, if_pos (Int.natCast_nonneg version)]
  rfl

@[simp] theorem or_corrupt_ok (operation : String) (value : α) : orCorrupt operation (.ok value) = .ok value := rfl

@[simp] theorem decode_permissions (operation : String) (permissions : HandoffPermissions) :
    ((permissions.members.map HandoffPermission.asStr).mapM fun permission =>
      orCorrupt operation (HandoffPermission.tryFrom permission)) = .ok permissions.members :=
  map_m_restores (fun permission => by rw [HandoffPermission.try_from_as_str]; rfl) _

theorem decode_row (catalog : TargetCatalog) (operation : String) (detailed : DetailedTargeted)
    (fingerprint : Option (BitVec 256)) (inv : TargetedInvariant detailed.handoff) (agrees : catalog.Agrees detailed) :
    (ofTargeted detailed fingerprint).decodeHandoff catalog operation = .ok detailed := by
  have restored := invariant_restores inv
  have details : decodeDetails catalog operation (ofTargeted detailed fingerprint) = .ok detailed.details := by
    simp only [decodeDetails, ofTargeted, agrees.content, found, decode_permissions]
    simp [bind, Except.bind, pure, Except.pure]
  simp only [decodeHandoff, details]
  simp only [ofTargeted, decode_status_as_str, agrees.agent, found, decode_version_cast, decode_failure_bytes, Option.or]
  simp only [bind, Except.bind, restored]
  rfl

end TargetedRow

structure TargetedRow.Stands (catalog : TargetCatalog) (now : UtcMillis) (row : TargetedRow) (detailed : DetailedTargeted) :
    Prop where
  written : row = TargetedRow.ofTargeted detailed row.requestFingerprint
  sound : TargetedHandoff.Sound detailed.handoff
  agrees : catalog.Agrees detailed
  timely : detailed.handoff.open' → detailed.handoff.latestTargetedActiveTime ≤ now

def TargetedRow.Becomes (catalog : TargetCatalog) (now : UtcMillis) (old new : TargetedRow) : Prop :=
  ∃ before after details, TargetedRow.Stands catalog now old ⟨before, details⟩ ∧
    TargetedRow.Stands catalog now new ⟨after, details⟩ ∧ new.requestFingerprint = old.requestFingerprint ∧
    ∃ op : TargetedOp, op.time = now ∧ op.perform.run before = .ok () after

namespace TargetedRow

open TargetedHandoff

variable {catalog : TargetCatalog} {now : UtcMillis} {row : TargetedRow} {detailed : DetailedTargeted}

theorem stands_later (passed : now ≤ later) (stands : Stands catalog now row detailed) : Stands catalog later row detailed :=
  ⟨stands.written, stands.sound, stands.agrees, fun active => UtcMillis.le_trans _ _ _ (stands.timely active) passed⟩

section

variable (stands : Stands catalog now row detailed)
include stands

theorem becomes_of_run (op : TargetedOp) (timed : op.time = now)
    {after : TargetedHandoff} (run : op.perform.run detailed.handoff = .ok () after)
    (timely : after.open' → after.latestTargetedActiveTime ≤ now) {new : TargetedRow}
    (written : new = ofTargeted ⟨after, detailed.details⟩ row.requestFingerprint) : Becomes catalog now row new := by
  have fields : after.fields = detailed.handoff.fields := by
    rcases yields_ok (perform_yields detailed.handoff op) run with same | step
    · rw [same]
    · cases step <;> rfl
  have sound : Sound after := by
    have kept := perform_sound detailed.handoff op stands.sound
    rw [Library.after, run] at kept
    exact kept
  have kept : new.requestFingerprint = row.requestFingerprint := by rw [written]; rfl
  refine ⟨detailed.handoff, after, detailed.details, stands, ⟨?_, sound, ⟨?_, ?_⟩, timely⟩, kept, op, timed, run⟩
  · rw [kept]
    exact written
  · rw [show (⟨after, detailed.details⟩ : DetailedTargeted).handoff.fields = detailed.handoff.fields from fields]
    exact stands.agrees.agent
  · rw [show (⟨after, detailed.details⟩ : DetailedTargeted).handoff.fields = detailed.handoff.fields from fields]
    exact stands.agrees.content

theorem stands_open : isOpenState row.state = true ↔ detailed.handoff.open' := by
  rw [stands.written]
  exact is_open_as_str

theorem raised_version : row.version + 1 = (bumpVersion detailed.handoff.version : Nat) := by
  rw [stands.written, bump_counted stands.sound.2]
  rfl

end

theorem closed_timely {after : TargetedHandoff} (terminal : after.status.isTerminal = true) (active : after.open') :
    after.latestTargetedActiveTime ≤ now := by
  rw [open_not_terminal active] at terminal
  cases terminal

section

variable (stands : Stands catalog now row detailed)
include stands

theorem expired_becomes (due : TargetedRows.isDue now row = true) : Becomes catalog now row (TargetedRows.expired now row) := by
  simp only [TargetedRows.isDue, Bool.and_eq_true, decide_eq_true_eq] at due
  have active := (stands_open stands).mp due.1
  have late : detailed.handoff.fields.expiresAt ≤ now := by
    have expiry := due.2
    rw [stands.written] at expiry
    exact expiry
  obtain ⟨_, _, failure⟩ := open_fields stands.sound.1 active
  refine becomes_of_run stands (.expire now) rfl (expire_run detailed.handoff now active late) (closed_timely rfl) ?_
  rw [TargetedRows.expired, raised_version stands]
  rw [stands.written]
  simp [ofTargeted, failure, TargetedHandoffStatus.asStr]

theorem stands_live : now < row.expiresAt ↔ now < detailed.handoff.fields.expiresAt := by
  rw [stands.written]
  rfl

theorem revoked_becomes (opened : isOpenState row.state = true)
    (live : now < row.expiresAt) : Becomes catalog now row (TargetedRows.revoked now row) := by
  have active := (stands_open stands).mp opened
  obtain ⟨_, _, failure⟩ := open_fields stands.sound.1 active
  refine becomes_of_run stands (.revoke now) rfl
    (revoke_run detailed.handoff active (stands.timely active) ((stands_live stands).mp live)) (closed_timely rfl) ?_
  rw [TargetedRows.revoked, raised_version stands]
  rw [stands.written]
  simp [ofTargeted, failure, TargetedHandoffStatus.asStr]

theorem delivered_becomes (waiting : row.state = "queued")
    (live : now < row.expiresAt) : Becomes catalog now row (TargetedRows.delivered now row) := by
  have queued : detailed.handoff.status = .queued := by
    rw [stands.written] at waiting
    exact (queued_as_str).mp waiting
  have absent := (queued_empty stands.sound.1 queued).1
  have later : detailed.handoff.queuedAt ≤ now := by
    have timely := stands.timely (.inl queued)
    rw [latestTargetedActiveTime, absent] at timely
    exact timely
  refine becomes_of_run stands (.markDelivered now) rfl
    (mark_delivered_run detailed.handoff queued later ((stands_live stands).mp live)) (fun _ => UtcMillis.le_refl now) ?_
  rw [TargetedRows.delivered, if_pos waiting, if_pos waiting, raised_version stands]
  rw [stands.written]
  simp [ofTargeted, TargetedHandoffStatus.asStr]

end

theorem delivered_again (waits : row.state = "delivered") : TargetedRows.delivered now row = row := by
  have other : ¬ row.state = "queued" := by
    rw [waits]
    decide
  rw [TargetedRows.delivered, if_neg other, if_neg other, ← waits]

theorem received_becomes (stands : Stands catalog now row detailed) (waits : row.state = "delivered")
    (live : now < row.expiresAt) {outcome : TargetedHandoffReceiptOutcome} :
    Becomes catalog now row (TargetedRows.received outcome now row) := by
  have status : detailed.handoff.status = .delivered := by
    rw [stands.written] at waits
    exact (delivered_as_str).mp waits
  have active : detailed.handoff.open' := .inr status
  obtain ⟨some, unread, _, failure⟩ := delivered_only stands.sound.1 status
  have later := stands.timely active
  have inside := (stands_live stands).mp live
  cases outcome with
  | consumed =>
    obtain ⟨deliveredAt, recorded⟩ := Option.isSome_iff_exists.mp some
    have after : deliveredAt ≤ now := by
      rw [latestTargetedActiveTime, recorded] at later
      exact later
    refine becomes_of_run stands (.consume now) rfl
      (consume_run detailed.handoff status recorded after inside) (closed_timely rfl) ?_
    rw [TargetedRows.received, raised_version stands]
    rw [stands.written]
    simp [ofTargeted, TargetedRows.receiptState, failure, TargetedHandoffStatus.asStr]
  | declined code =>
    refine becomes_of_run stands (.decline code now) rfl
      (resolve_active_run detailed.handoff rfl active later inside) (closed_timely rfl) ?_
    rw [TargetedRows.received, raised_version stands]
    rw [stands.written]
    simp [ofTargeted, TargetedRows.receiptState, unread, TargetedHandoffStatus.asStr]
  | failed code =>
    refine becomes_of_run stands (.fail code now) rfl
      (resolve_active_run detailed.handoff rfl active later inside) (closed_timely rfl) ?_
    rw [TargetedRows.received, raised_version stands]
    rw [stands.written]
    simp [ofTargeted, TargetedRows.receiptState, unread, TargetedHandoffStatus.asStr]

theorem failed_becomes (stands : Stands catalog now row detailed) (opened : isOpenState row.state = true)
    (code : HandoffFailureCode) : Becomes catalog now row (TargetedRows.failed code now row) := by
  by_cases due : row.expiresAt ≤ now
  · have same : TargetedRows.failed code now row = TargetedRows.expired now row := by
      rw [TargetedRows.failed, if_pos due, if_pos due, TargetedRows.expired]
    rw [same]
    exact expired_becomes stands (by simp [TargetedRows.isDue, opened, due])
  · have active := (stands_open stands).mp opened
    have inside := (stands_live stands).mp ((UtcMillis.not_le_iff ..).mp due)
    refine becomes_of_run stands (.fail code now) rfl
      (resolve_active_run detailed.handoff rfl active (stands.timely active) inside) (closed_timely rfl) ?_
    rw [TargetedRows.failed, if_neg due, if_neg due, raised_version stands]
    rw [stands.written]
    simp [ofTargeted, TargetedHandoffStatus.asStr]

end TargetedRow

structure QueueStands (catalog : TargetCatalog) (now : UtcMillis) (rows : TargetedRows) : Prop where
  stands : ∀ row ∈ rows, ∃ detailed, TargetedRow.Stands catalog now row detailed
  distinct : (rows.map TargetedRow.id).Nodup

namespace TargetedRows

open TargetedRow

variable {catalog : TargetCatalog} {now : UtcMillis}

-- A statement that only closes rows, one that only changes open rows, and what
-- the two make together: every row is moved on once at most.
def Closes (catalog : TargetCatalog) (now : UtcMillis) (old new : TargetedRow) : Prop :=
  new = old ∨ (isOpenState new.state = false ∧ Becomes catalog now old new)

def Moves (catalog : TargetCatalog) (now : UtcMillis) (old new : TargetedRow) : Prop :=
  new = old ∨ (isOpenState old.state = true ∧ Becomes catalog now old new)

def Advances (catalog : TargetCatalog) (now : UtcMillis) (old new : TargetedRow) : Prop :=
  new = old ∨ Becomes catalog now old new

theorem closes_then_moves (old middle new : TargetedRow) (early : Closes catalog now old middle)
    (late : Moves catalog now middle new) : Advances catalog now old new := by
  rcases early with same | ⟨closed, becomes⟩
  · rw [same] at late
    exact late.imp_right And.right
  · rcases late with same | ⟨opened, _⟩
    · rw [same]
      exact .inr becomes
    · rw [closed] at opened
      cases opened

theorem becomes_id (old new : TargetedRow) (becomes : Becomes catalog now old new) : new.id = old.id := by
  obtain ⟨before, after, details, stood, stands, -, op, -, run⟩ := becomes
  have fields : after.fields = before.fields := by
    rcases yields_ok (TargetedHandoff.perform_yields before op) run with same | step
    · rw [same]
    · cases step <;> rfl
  rw [stands.written, stood.written]
  exact congrArg TargetedHandoffFields.id fields

theorem advances_keep (queue : QueueStands catalog now rows)
    (each : List.Forall₂ (Advances catalog now) rows next) : QueueStands catalog now next := by
  constructor
  · intro new listed
    obtain ⟨old, member, advanced⟩ := related_from each listed
    rcases advanced with same | ⟨_, after, details, _, stands, _⟩
    · rw [same]
      exact queue.stands old member
    · exact ⟨⟨after, details⟩, stands⟩
  · rw [related_column TargetedRow.id (fun old new advanced => advanced.elim (congrArg _) (becomes_id old new)) each]
    exact queue.distinct

variable {rows next : TargetedRows} {operation : String} {id : HandoffId} {access : TargetAccess}
  {answer : Option DetailedTargeted} {row : TargetedRow} {principalId : PrincipalId} {request : QueueTargetedHandoff}

theorem write_ok (done : row.write operation = .ok written) : written = row := by
  unfold TargetedRow.write at done
  by_cases checked : row.checked = true
  · rw [if_pos checked] at done
    cases done
    rfl
  · rw [if_neg checked] at done
    cases done

-- An UPDATE relates each row to what it makes of the rows it hits.
theorem statement_related (unchanged : ∀ row, related row row) {operation : String} {change : TargetedRow → TargetedRow}
    {next : TargetedRows} (changes : ∀ row ∈ rows, hit row = true → related row (change row))
    (done : updateWhere hit (fun row => (change row).write operation) rows = .ok next) : List.Forall₂ related rows next := by
  refine related_known (update_where_ok hit _ rows next done) ?_
  rintro old listed new (⟨hits, rewritten⟩ | ⟨_, same⟩)
  · rw [write_ok rewritten]
    exact changes old listed hits
  · rw [same]
    exact unchanged old

theorem expired_closed (row : TargetedRow) : isOpenState (expired now row).state = false := by
  simp only [expired]
  decide

theorem expiry_closes (operation : String) (hit : TargetedRow → Bool) (due : ∀ row, hit row = true → isDue now row = true)
    (rows next : TargetedRows) (queue : QueueStands catalog now rows)
    (done : updateWhere hit (fun row => (expired now row).write operation) rows = .ok next) :
    List.Forall₂ (Closes catalog now) rows next := by
  refine statement_related (fun _ => .inl rfl) ?_ done
  intro row listed hits
  obtain ⟨detailed, stands⟩ := queue.stands row listed
  exact .inr ⟨expired_closed row, expired_becomes stands (due row hits)⟩

theorem expiry_leaves_live (operation : String) (rows : TargetedRows)
    (done : updateWhere hit (fun row => (expired now row).write operation) rows = .ok next)
    (listed : row ∈ next) (opened : isOpenState row.state = true) : hit row = false := by
  obtain ⟨old, _, updated⟩ := related_from (update_where_ok hit _ rows next done) listed
  rcases updated with ⟨_, rewritten⟩ | ⟨misses, same⟩
  · rw [write_ok rewritten, expired_closed] at opened
    cases opened
  · rw [same]
    exact misses

theorem closes_advance (rows next : TargetedRows) (each : List.Forall₂ (Closes catalog now) rows next) :
    List.Forall₂ (Advances catalog now) rows next :=
  each.imp fun _ _ closes => closes.imp_right And.right

theorem both_advance (early : List.Forall₂ (Closes catalog now) rows middle)
    (late : List.Forall₂ (Moves catalog now) middle next) : List.Forall₂ (Advances catalog now) rows next :=
  related_trans early late fun one _ two three => closes_then_moves one two three

theorem handoff_expiry_closes (queue : QueueStands catalog now rows) (done : expireHandoff operation id now rows = .ok next) :
    List.Forall₂ (Closes catalog now) rows next :=
  expiry_closes operation _ (fun _ hits => (Bool.and_eq_true_iff.mp hits).2) rows next queue done

theorem handoff_expiry_live (done : expireHandoff operation id now rows = .ok next) (listed : row ∈ next) (named : row.id = id)
    (opened : isOpenState row.state = true) : now < row.expiresAt := by
  have missed := expiry_leaves_live operation rows done listed opened
  simp only [named, decide_true, Bool.true_and, isDue, opened, decide_eq_false_iff_not] at missed
  exact (UtcMillis.not_le_iff ..).mp missed

theorem find_advances (queue : QueueStands catalog now rows)
    (done : findForPrincipal catalog rows id principalId now = .ok (next, answer)) :
    List.Forall₂ (Advances catalog now) rows next := by
  obtain ⟨expired, expiry, done⟩ := unbind done
  obtain ⟨handoff, -, done⟩ := unbind done
  cases done
  exact closes_advance rows _ (handoff_expiry_closes queue expiry)

theorem revoke_advances (queue : QueueStands catalog now rows)
    (done : revokeTargetedHandoff catalog rows id principalId now = .ok (next, answer)) :
    List.Forall₂ (Advances catalog now) rows next := by
  obtain ⟨middle, expiry, done⟩ := unbind done
  obtain ⟨last, revocation, done⟩ := unbind done
  obtain ⟨handoff, -, done⟩ := unbind done
  obtain ⟨answered, -, done⟩ := unbind done
  cases done
  have closes := handoff_expiry_closes queue expiry
  have kept := advances_keep queue (closes_advance rows middle closes)
  refine both_advance closes (statement_related (fun _ => .inl rfl) ?_ revocation)
  intro row listed hits
  simp only [revocable, Bool.and_eq_true, decide_eq_true_eq] at hits
  obtain ⟨⟨named, _⟩, opened⟩ := hits
  obtain ⟨detailed, stands⟩ := kept.stands row listed
  have live := handoff_expiry_live expiry listed named opened
  exact .inr ⟨opened, revoked_becomes stands opened live⟩

theorem first_of_member (rows : TargetedRows) (row : TargetedRow) (first : firstOf rows = some row) : row ∈ rows := by
  induction rows generalizing row with
  | nil => cases first
  | cons head rest ih =>
    unfold firstOf at first
    cases later : firstOf rest with
    | none =>
      rw [later] at first
      cases first
      exact List.mem_cons_self ..
    | some other =>
      simp only [later] at first
      split at first
      · cases first
        exact List.mem_cons_of_mem _ (ih _ later)
      · cases first
        exact List.mem_cons_self ..

theorem hit_selected (rows : TargetedRows) (queue : QueueStands catalog now rows) (selected row : TargetedRow)
    (chosen : selected ∈ rows) (listed : row ∈ rows) (id : HandoffId) (named : selected.id = id)
    (hits : decide (row.id = id) = true) : row = selected :=
  key_unique TargetedRow.id rows queue.distinct row selected listed chosen (by rw [named]; exact of_decide_eq_true hits)

theorem claim_advances (access : TargetAccess) (locked : List HandoffId) (rows next : TargetedRows)
    (request : ClaimTargetedHandoff) (queue : QueueStands catalog request.claimedAt rows) (answer : Option DetailedTargeted)
    (done : claimTargetedHandoff catalog access locked rows request = .ok (next, answer)) :
    List.Forall₂ (Advances catalog request.claimedAt) rows next := by
  obtain ⟨middle, expiry, done⟩ := unbind done
  have closes := expiry_closes _ _ (fun _ hits => (Bool.and_eq_true_iff.mp hits).2) rows middle queue expiry
  have kept := advances_keep queue (closes_advance rows middle closes)
  cases selected : firstOf (middle.filter fun row => claimable catalog access request row && !locked.contains row.id) with
  | none =>
    rw [selected] at done
    cases done
    exact closes_advance rows _ closes
  | some candidate =>
    rw [selected] at done
    obtain ⟨last, delivery, done⟩ := unbind done
    obtain ⟨loaded, -, done⟩ := unbind done
    cases done
    obtain ⟨chosen, eligible⟩ := List.mem_filter.mp (first_of_member _ candidate selected)
    have claimed := (Bool.and_eq_true_iff.mp eligible).1
    simp only [claimable, Bool.and_eq_true, decide_eq_true_eq] at claimed
    obtain ⟨⟨⟨⟨⟨⟨-, opened⟩, live⟩, -⟩, -⟩, -⟩, -⟩ := claimed
    refine both_advance closes (statement_related (fun _ => .inl rfl) ?_ delivery)
    intro row listed hits
    rw [hit_selected middle kept candidate row chosen listed candidate.id rfl hits]
    obtain ⟨detailed, stands⟩ := kept.stands candidate chosen
    rcases (Bool.or_eq_true_iff.mp opened) with queued | delivered
    · exact .inr ⟨opened, delivered_becomes stands (of_decide_eq_true queued) live⟩
    · exact .inl (delivered_again (of_decide_eq_true delivered))

theorem receipt_advances {request : RecordTargetedHandoffReceipt} (queue : QueueStands catalog request.recordedAt rows)
    (done : recordTargetedHandoffReceipt catalog access rows request = .ok (next, answer)) :
    List.Forall₂ (Advances catalog request.recordedAt) rows next := by
  obtain ⟨middle, expiry, done⟩ := unbind done
  have closes := handoff_expiry_closes queue expiry
  have kept := advances_keep queue (closes_advance rows middle closes)
  cases selected : middle.find? (receivable catalog access request) with
  | none =>
    rw [selected] at done
    cases done
    exact closes_advance rows _ closes
  | some current =>
    simp only [selected] at done
    split at done
    · obtain ⟨loaded, -, done⟩ := unbind done
      cases done
      exact closes_advance rows _ closes
    · split at done
      · cases done
      · rename_i waits
        have waits := not_not.mp waits
        obtain ⟨last, recorded, done⟩ := unbind done
        obtain ⟨loaded, -, done⟩ := unbind done
        cases done
        have chosen := List.mem_of_find?_eq_some selected
        have received := List.find?_some selected
        simp only [receivable, Bool.and_eq_true, decide_eq_true_eq] at received
        obtain ⟨⟨⟨⟨⟨⟨named, -⟩, -⟩, -⟩, -⟩, -⟩, -⟩ := received
        have opened : isOpenState current.state = true := by
          rw [waits]
          decide
        have live := handoff_expiry_live expiry chosen named opened
        refine both_advance closes (statement_related (fun _ => .inl rfl) ?_ recorded)
        intro row listed hits
        rw [hit_selected middle kept current row chosen listed request.handoffId named hits]
        obtain ⟨detailed, stands⟩ := kept.stands current chosen
        exact .inr ⟨opened, received_becomes stands waits live⟩

theorem failing_advances (operation : String) (code : HandoffFailureCode) {rows : TargetedRows}
    (queue : QueueStands catalog now rows) (opens : ∀ row, hit row = true → failable row = true)
    (done : updateWhere hit (fun row => (failed code now row).write operation) rows = .ok next) :
    List.Forall₂ (Advances catalog now) rows next := by
  refine statement_related (fun _ => .inl rfl) ?_ done
  intro row listed hits
  obtain ⟨detailed, stands⟩ := queue.stands row listed
  exact .inr (failed_becomes stands (Bool.and_eq_true_iff.mp (opens row hits)).2 code)

def Queued (catalog : TargetCatalog) (now : UtcMillis) (request : QueueTargetedHandoff) (row : TargetedRow) : Prop :=
  ∃ handoff, TargetedHandoff.queue request.handoff.handoff.fields = .ok handoff ∧
    Stands catalog now row ⟨handoff, request.handoff.details⟩

theorem queued_stands (access : TargetAccess) (admitted : admits catalog access request.handoff = true)
    (lifetime : request.handoff.handoff.fields.createdAt < request.handoff.handoff.fields.expiresAt) :
    Queued catalog request.handoff.handoff.fields.createdAt request (queuedRow request) := by
  let handoff : TargetedHandoff := {
    fields := request.handoff.handoff.fields
    status := .queued
    queuedAt := request.handoff.handoff.fields.createdAt
    deliveredAt := none
    consumedAt := none
    resolvedAt := none
    failureCode := none
    version := 0 }
  have queued : TargetedHandoff.queue request.handoff.handoff.fields = .ok handoff := by
    rw [TargetedHandoff.queue, TargetedHandoff.validateTargetedLifetime, if_neg ((UtcMillis.not_le_iff ..).mpr lifetime)]
    rfl
  obtain ⟨inv, counted, -⟩ := TargetedHandoff.queue_invariant queued
  simp only [admits, Bool.and_eq_true, decide_eq_true_eq] at admitted
  obtain ⟨⟨⟨⟨⟨⟨⟨⟨agent, -⟩, -⟩, -⟩, -⟩, -⟩, content⟩, -⟩, -⟩ := admitted
  exact ⟨handoff, queued, rfl, ⟨inv, counted⟩, ⟨agent, content⟩, fun _ => UtcMillis.le_refl _⟩

theorem insert_queued (inserted : insertTargetedHandoff catalog access operation rows request = .ok (some next)) :
    next = rows ++ [queuedRow request] ∧ (∀ row ∈ rows, row.id ≠ (queuedRow request).id) ∧
      Queued catalog request.handoff.handoff.fields.createdAt request (queuedRow request) := by
  unfold insertTargetedHandoff at inserted
  by_cases admitted : admits catalog access request.handoff = false
  · rw [if_pos admitted] at inserted
    cases inserted
  · rw [if_neg admitted] at inserted
    obtain ⟨row, written, inserted⟩ := unbind inserted
    have lifetime : request.handoff.handoff.fields.createdAt < request.handoff.handoff.fields.expiresAt := by
      by_cases checked : (queuedRow request).checked = true
      · simp only [TargetedRow.checked, timestampsChecked, Bool.and_eq_true] at checked
        exact of_decide_eq_true checked.2.1.1.1
      · rw [TargetedRow.write, if_neg checked] at written
        cases written
    have same := write_ok written
    subst same
    by_cases taken : (rows.any fun row => decide (row.id = (queuedRow request).id)) = true
    · rw [if_pos taken] at inserted
      cases inserted
    · rw [if_neg taken] at inserted
      split at inserted
      · cases inserted
      · cases inserted
        refine ⟨rfl, ?_, ?_⟩
        · intro row listed named
          exact taken (List.any_eq_true.mpr ⟨row, listed, decide_eq_true named⟩)
        · exact queued_stands access (by simpa using admitted) lifetime

theorem queue_adds (done : queueTargetedHandoff catalog access rows request = .ok (next, outcome)) :
    next = rows ∨ ∃ row, next = rows ++ [row] ∧ (∀ old ∈ rows, old.id ≠ row.id) ∧
      Queued catalog request.handoff.handoff.fields.createdAt request row := by
  obtain ⟨inserted, insertion, done⟩ := unbind done
  cases inserted with
  | none =>
    obtain ⟨loaded, -, done⟩ := unbind done
    obtain ⟨stored, -, done⟩ := unbind done
    obtain ⟨_, -, done⟩ := unbind done
    cases done
    exact .inl rfl
  | some inserted =>
    obtain ⟨loaded, -, done⟩ := unbind done
    obtain ⟨stored, -, done⟩ := unbind done
    cases done
    exact .inr ⟨_, insert_queued insertion⟩

end TargetedRows

namespace TargetedCall

open TargetedRows

-- What one call does to the rows: it moves each on once at most and may add one.
def Steps (catalog : TargetCatalog) (call : TargetedCall) (rows next : TargetedRows) : Prop :=
  List.Forall₂ (Advances catalog call.request.time) rows next ∨
    ∃ request row, call.request = .queue request ∧ next = rows ++ [row] ∧ (∀ old ∈ rows, old.id ≠ row.id) ∧
      Queued catalog call.request.time request row

variable {call : TargetedCall} {rows : TargetedRows} {catalog : TargetCatalog}

theorem unchanged_steps : Steps catalog call rows rows :=
  .inl (List.forall₂_same.mpr fun _ _ => .inl rfl)

theorem attempt_steps (catalog : TargetCatalog) (call : TargetedCall) (rows next : TargetedRows)
    (queue : QueueStands catalog call.request.time rows)
    (done : call.request.attempt catalog call.access rows = .ok next) : Steps catalog call rows next := by
  cases asked : call.request with
  | queue request =>
    rw [asked] at done
    obtain ⟨⟨after, outcome⟩, queued, rfl⟩ := (map_ok ..).mp done
    rcases queue_adds queued with same | ⟨row, added⟩
    · rw [same]
      exact unchanged_steps
    · refine .inr ⟨request, row, asked, ?_⟩
      rw [asked]
      exact added
  | find id principalId observedAt =>
    rw [asked] at done queue
    obtain ⟨⟨after, answer⟩, found, rfl⟩ := (map_ok ..).mp done
    refine .inl ?_
    rw [asked]
    exact find_advances queue found
  | revoke id principalId revokedAt =>
    rw [asked] at done queue
    obtain ⟨⟨after, answer⟩, revoked, rfl⟩ := (map_ok ..).mp done
    refine .inl ?_
    rw [asked]
    exact revoke_advances queue revoked
  | claim request locked =>
    rw [asked] at done queue
    obtain ⟨⟨after, answer⟩, claimed, rfl⟩ := (map_ok ..).mp done
    refine .inl ?_
    rw [asked]
    exact claim_advances call.access locked rows after request queue answer claimed
  | receipt request =>
    rw [asked] at done queue
    obtain ⟨⟨after, answer⟩, recorded, rfl⟩ := (map_ok ..).mp done
    refine .inl ?_
    rw [asked]
    exact receipt_advances queue recorded
  | failForInstance operation instanceId failedAt =>
    rw [asked] at done queue
    refine .inl ?_
    rw [asked]
    exact failing_advances operation targetRevoked queue (fun _ hits => (Bool.and_eq_true_iff.mp hits).2) done
  | failForDevice operation deviceId failedAt =>
    rw [asked] at done queue
    refine .inl ?_
    rw [asked]
    exact failing_advances operation targetDeviceRevoked queue
      (fun _ hits => (Bool.and_eq_true_iff.mp hits).2) done

theorem perform_steps (catalog : TargetCatalog) (call : TargetedCall) (rows : TargetedRows)
    (queue : QueueStands catalog call.request.time rows) : Steps catalog call rows (call.perform catalog rows) := by
  unfold perform
  cases done : call.request.attempt catalog call.access rows with
  | error failure => exact unchanged_steps
  | ok next =>
    by_cases committed : call.commits = true
    · simp only [committed, if_true]
      exact attempt_steps catalog call rows next queue done
    · simp only [committed]
      exact unchanged_steps

-- The step lemma: a call keeps every row standing.
theorem steps_stand (queue : QueueStands catalog call.request.time rows) (steps : Steps catalog call rows next) :
    QueueStands catalog call.request.time next := by
  rcases steps with each | ⟨request, row, -, rfl, fresh, handoff, -, stands⟩
  · exact advances_keep queue each
  · refine ⟨?_, keys_append queue.distinct fresh⟩
    intro other listed
    rcases List.mem_append.mp listed with old | new
    · exact queue.stands other old
    · rw [List.mem_singleton.mp new]
      exact ⟨_, stands⟩

def run (catalog : TargetCatalog) (calls : List TargetedCall) : TargetedRows :=
  calls.foldl (fun rows call => call.perform catalog rows) []

-- The run lemma: at any time from the last call on, every row stands.
theorem run_stands (catalog : TargetCatalog) (calls : List TargetedCall)
    (ordered : calls.Pairwise fun early late => early.request.time ≤ late.request.time) (now : UtcMillis)
    (passed : ∀ call ∈ calls, call.request.time ≤ now) : QueueStands catalog now (run catalog calls) := by
  induction calls using List.reverseRecOn generalizing now with
  | nil => exact ⟨fun _ listed => (List.not_mem_nil listed).elim, List.nodup_nil⟩
  | append_singleton earlier call ih =>
    obtain ⟨before, -, follows⟩ := List.pairwise_append.mp ordered
    have queue := ih before call.request.time fun other listed => follows other listed call (List.mem_singleton_self call)
    have performed := steps_stand queue (perform_steps catalog call _ queue)
    have done := passed call (by simp)
    rw [run, List.foldl_append]
    constructor
    · intro row listed
      obtain ⟨detailed, stands⟩ := performed.stands row listed
      exact ⟨detailed, TargetedRow.stands_later done stands⟩
    · exact performed.distinct

-- In any run of calls whose times do not go back, a row reads as a handoff before
-- and after each call, and what the call did to it is what one method of the
-- domain object, called at that time, does to that handoff.
theorem queue_refines_the_handoff (catalog : TargetCatalog) (earlier : List TargetedCall) (call : TargetedCall)
    (ordered : (earlier ++ [call]).Pairwise fun early late => early.request.time ≤ late.request.time) (operation : String) :
    let rows := run catalog earlier
    let next := run catalog (earlier ++ [call])
    (List.Forall₂ (fun old new => ∃ before after details,
        old.decodeHandoff catalog operation = .ok ⟨before, details⟩ ∧ new.decodeHandoff catalog operation = .ok ⟨after, details⟩ ∧
          (new = old ∨ ∃ op : TargetedOp, op.time = call.request.time ∧ op.perform.run before = .ok () after)) rows next ∨
      ∃ request row handoff, call.request = .queue request ∧ next = rows ++ [row] ∧ (∀ old ∈ rows, old.id ≠ row.id) ∧
        row.decodeHandoff catalog operation = .ok ⟨handoff, request.handoff.details⟩ ∧
          TargetedHandoff.queue request.handoff.handoff.fields = .ok handoff) ∧
      ∀ row ∈ next, ∃ detailed, row.decodeHandoff catalog operation = .ok detailed := by
  intro rows next
  obtain ⟨before, -, follows⟩ := List.pairwise_append.mp ordered
  have queue := run_stands catalog earlier before call.request.time fun other listed =>
    follows other listed call (List.mem_singleton_self call)
  have reached : next = call.perform catalog rows := by
    rw [show next = run catalog (earlier ++ [call]) from rfl, run, List.foldl_append]
    rfl
  have steps := perform_steps catalog call rows queue
  rw [← reached] at steps
  have reads (row : TargetedRow) (detailed : DetailedTargeted)
      (stands : TargetedRow.Stands catalog call.request.time row detailed) :
      row.decodeHandoff catalog operation = .ok detailed := by
    rw [stands.written]
    exact TargetedRow.decode_row catalog operation detailed _ stands.sound.1 stands.agrees
  refine ⟨?_, ?_⟩
  · rcases steps with each | ⟨request, row, asked, added, fresh, handoff, queued, stands⟩
    · refine .inl (related_known each ?_)
      rintro old listed new (same | ⟨before, after, details, stood, stands, -, moved⟩)
      · obtain ⟨detailed, stood⟩ := queue.stands old listed
        have read := reads old detailed stood
        exact ⟨detailed.handoff, detailed.handoff, detailed.details, read, by rw [same]; exact read, .inl same⟩
      · exact ⟨before, after, details, reads old _ stood, reads new _ stands, .inr moved⟩
    · exact .inr ⟨request, row, handoff, asked, added, fresh, reads row _ stands, queued⟩
  · intro row listed
    obtain ⟨detailed, stands⟩ := (steps_stand queue steps).stands row listed
    exact ⟨detailed, reads row detailed stands⟩

def sampleRequest : QueueTargetedHandoff where
  handoff :=
    { handoff :=
        { fields :=
            { id := ⟨528905046081400263933953⟩
              principalId := ⟨2⟩
              sourceMessageId := ⟨528905046081400263933954⟩
              targetAgentId := ⟨4⟩
              targetInstanceId := ⟨5⟩
              contentId := ⟨6⟩
              createdAt := 100
              expiresAt := 200 }
          status := .queued
          queuedAt := 100
          deliveredAt := none
          consumedAt := none
          resolvedAt := none
          failureCode := none
          version := 0 }
      details :=
        { sourceRoomId := ⟨"!room:example", example_room_valid⟩
          sourceEventId := ⟨"$event", example_event_valid⟩
          digest := ⟨7⟩
          byteLength := ⟨1, one_byte_positive, one_byte_bounded⟩
          mediaType := ⟨"text/plain", plain_text_supported⟩
          permissions := ⟨[.readText], read_text_rising, read_text_nonempty⟩
          purpose := .inspect } }
  requestFingerprint := 8

def sampleCatalog : TargetCatalog where
  agentOf instanceId := if instanceId.uuid = 5 then some ⟨4⟩ else none
  contentOf contentId := if contentId.uuid = 6 then some (7, 1, "text/plain") else none

def sampleAccess : TargetAccess where
  instanceLive _ := true
  agentActive _ := true
  bindingCapable _ := true
  deviceOf _ := some ⟨9⟩
  deviceTrusted _ := true
  ownerOf _ := some ⟨2⟩
  principalActive _ := true
  operates _ _ := true
  contentReadable _ _ := true
  contentShared _ _ _ := true

def sampleCalls : List TargetedCall :=
  [⟨.queue sampleRequest, sampleAccess, true⟩, ⟨.claim ⟨⟨2⟩, ⟨9⟩, ⟨5⟩, 120⟩ [], sampleAccess, true⟩]

def sampleReceipt : TargetedCall :=
  ⟨.receipt ⟨⟨2⟩, ⟨9⟩, ⟨5⟩, ⟨528905046081400263933953⟩, .consumed, 150⟩, sampleAccess, true⟩

theorem consumed_row_reads :
    (run sampleCatalog (sampleCalls ++ [sampleReceipt])).map (fun row => (row.state, row.version)) = [("consumed", 2)] ∧
      ∀ row ∈ run sampleCatalog (sampleCalls ++ [sampleReceipt]),
        ∃ detailed, row.decodeHandoff sampleCatalog "handoff.find" = .ok detailed :=
  ⟨by decide, (queue_refines_the_handoff sampleCatalog sampleCalls sampleReceipt (by decide) "handoff.find").2⟩

end TargetedCall

end AgentRoom
