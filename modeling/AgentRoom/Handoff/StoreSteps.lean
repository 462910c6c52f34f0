import AgentRoom.Handoff.Store

namespace AgentRoom

open Library

namespace ContextHandoff

structure Advances (old next : ContextHandoff) : Prop where
  built : old.Built → next.Built
  fields : next.fields = old.fields
  moved : next = old ∨ old.status.closed = false ∧ (old.status = .delivered → next.status.closed = true)

theorem advances_refl (handoff : ContextHandoff) : Advances handoff handoff := ⟨id, rfl, .inl rfl⟩

theorem advances_trans (early : Advances first second) (late : Advances second third) : Advances first third := by
  refine ⟨fun built => late.built (early.built built), late.fields.trans early.fields, ?_⟩
  rcases late.moved with same | ⟨active, _⟩
  · rw [same]
    exact early.moved
  · rcases early.moved with same | ⟨started, closes⟩
    · rw [← same]
      exact late.moved
    · refine .inr ⟨started, fun delivered => ?_⟩
      rw [closes delivered] at active
      cases active

theorem run_advances (next : ContextHandoff) (op : ContextOp) (run : op.perform.run old = .ok () next) : Advances old next := by
  refine ⟨fun built => built_transition op built run, ?_, ?_⟩
  · rcases yields_ok (perform_yields old op) run with same | step
    · rw [same]
    · cases step <;> rfl
  · rcases yields_ok (perform_yields old op) run with same | step
    · exact .inl same
    · refine .inr ⟨step_open step, fun delivered => ?_⟩
      cases step with
      | approved _ _ proposed => rw [delivered] at proposed; cases proposed
      | delivered _ _ approved => rw [delivered] at approved; cases approved
      | _ => rfl

end ContextHandoff

namespace HandoffReceiptRecord

open ContextHandoff

theorem make_calls_advances (ops : List ContextOp) (old : ContextHandoff) :
    Leaves (makeCalls ops) old (fun _ next => Advances old next) fun _ => True := by
  induction ops generalizing old with
  | nil => exact leaves_pure (advances_refl old)
  | cons op rest ih =>
    refine leaves_bind (fun _ middle => Advances old middle) ?_ fun _ middle early => ?_
    · unfold Leaves
      cases run : op.perform.run old with
      | ok answer next => exact run_advances next op run
      | error failure next => trivial
    · exact leaves_mono (fun _ next late => advances_trans early late)
        (fun _ _ => trivial) (ih middle)

theorem apply_to_advances (receipt : HandoffReceiptRecord) (next : ContextHandoff)
    (run : receipt.applyTo.run old = .ok () next) : Advances old next := by
  have calls : Leaves receipt.applyTo old (fun _ next => Advances old next) fun _ => True := by
    refine leaves_get ?_
    by_cases addressed : receipt.addresses old.fields = false
    · rw [if_pos addressed]
      exact leaves_throw trivial
    · rw [if_neg addressed]
      by_cases coded : decide (receipt.status = .failed) ≠ receipt.failureCode.isSome
      · rw [if_pos coded]
        exact leaves_throw trivial
      · rw [if_neg coded]
        cases listed : receipt.calls old with
        | error failure => exact leaves_throw trivial
        | ok ops => exact make_calls_advances ops old
  exact leaves_ok old next () _ _ calls run

end HandoffReceiptRecord

structure StoredAs (tables : HandoffTables) (id : HandoffId) (detailed : DetailedHandoff) (version : Int) : Prop where
  row : tables.handoffs id = some (HandoffRow.ofHandoff detailed version)
  named : detailed.handoff.fields.id = id
  built : detailed.handoff.Built
  positive : 0 < version

def RowsHeld (tables : HandoffTables) : Prop :=
  ∀ id row, tables.handoffs id = some row → ∃ detailed version, StoredAs tables id detailed version

namespace HandoffTables

variable {tables : HandoffTables} {id : HandoffId}

theorem load_held (held : RowsHeld tables) (found : tables.loadOr id absent = .ok loaded) :
    StoredAs tables id loaded.detailed loaded.version ∧ HandoffRow.Identified loaded.detailed := by
  unfold loadOr at found
  cases kept : tables.handoffs id with
  | none =>
    rw [kept] at found
    cases found
  | some row =>
    rw [kept] at found
    obtain ⟨detailed, version, stored⟩ := held id row kept
    have same := stored.row
    rw [kept] at same
    cases same
    obtain ⟨identified, rfl⟩ := (HandoffRow.decode_row detailed stored.built version stored.positive loaded).mp found
    exact ⟨stored, identified⟩

theorem update_held (stored : StoredAs tables id detailed version)
    (built : next.Built) (fields : next.fields = detailed.handoff.fields) :
    tables.updateHandoffState ⟨⟨next, detailed.details⟩, version⟩ =
      .ok { tables with
        handoffs := Function.update tables.handoffs id (some (HandoffRow.ofHandoff ⟨next, detailed.details⟩ (version + 1))) } := by
  have named : next.fields.id = id := by rw [fields, stored.named]
  have later : 0 < version + 1 := Int.lt_add_one_of_le (Int.le_of_lt stored.positive)
  have checked := HandoffRow.built_checked ⟨next, detailed.details⟩ built (version + 1) later
  have written := HandoffRow.write_state_row detailed next version fields
  simp only [updateHandoffState, named, stored.row]
  rw [if_pos (show (HandoffRow.ofHandoff detailed version).version = version from rfl)]
  rw [show (HandoffRow.ofHandoff detailed version).version = version from rfl, written, writeRow, if_pos checked]

def move (tables : HandoffTables) (id : HandoffId) (detailed : DetailedHandoff) (version : Int) : HandoffTables :=
  let written := { tables with
    handoffs := Function.update tables.handoffs id (some (HandoffRow.ofHandoff detailed version)) }
  if detailed.handoff.status.closed then written.deletePackage id else written

end HandoffTables

namespace SqliteHandoffStore

inductive Step (cryptography : HandoffCryptography) (tables : HandoffTables) (call : HandoffStoreCall) : Committed → Prop where
  | refused (failure : HandoffStoreFailure) : Step cryptography tables call (tables, .error failure)
  | sent (handoff : BuiltHandoff) (outgoing : call.request = .recordOutgoing handoff)
      (fresh : tables.handoffs handoff.detailed.handoff.fields.id = none) :
      Step cryptography tables call
        ({ tables with
            handoffs := Function.update tables.handoffs handoff.detailed.handoff.fields.id
              (some (HandoffRow.ofHandoff handoff.detailed 1)) },
          .ok (.recorded (.created handoff.detailed)))
  | accepted (handoff : BuiltHandoff) (package : OneShotHandoffPackage) (nonce ciphertext : List UInt8)
      (incoming : call.request = .acceptIncoming handoff package)
      (fresh : tables.handoffs handoff.detailed.handoff.fields.id = none)
      (delivered : handoff.detailed.handoff.status = .delivered)
      (sealed : cryptography.encrypt nonce (HandoffPackageCipher.associatedData handoff.detailed) package.body = some ciphertext) :
      Step cryptography tables call
        ({ handoffs := Function.update tables.handoffs handoff.detailed.handoff.fields.id
              (some (HandoffRow.ofHandoff handoff.detailed 1)),
           packages := Function.update tables.packages handoff.detailed.handoff.fields.id
              (some { keyVersion, nonce, ciphertext }) },
          .ok (.recorded (.created handoff.detailed)))
  | existing (detailed : DetailedHandoff) :
      Step cryptography tables call (tables, .ok (.recorded (.existing detailed)))
  | unmoved (id : HandoffId) (detailed : DetailedHandoff) (version : Int) (answer : HandoffStoreAnswer)
      (stored : StoredAs tables id detailed version)
      (answered : answer = .updated detailed ∨ answer = .received detailed) :
      Step cryptography tables call
        (if detailed.handoff.status.closed then tables.deletePackage id else tables, .ok answer)
  | moved (id : HandoffId) (detailed : DetailedHandoff) (next : ContextHandoff) (version : Int) (answer : HandoffStoreAnswer)
      (stored : StoredAs tables id detailed version) (advances : ContextHandoff.Advances detailed.handoff next)
      (active : detailed.handoff.status.closed = false)
      (closes : detailed.handoff.status = .delivered → next.status.closed = true)
      (answered : answer = .updated ⟨next, detailed.details⟩ ∨ answer = .received ⟨next, detailed.details⟩) :
      Step cryptography tables call (tables.move id ⟨next, detailed.details⟩ (version + 1), .ok answer)
  | expired (id : HandoffId) (detailed : DetailedHandoff) (next : ContextHandoff) (version : Int)
      (target : AgentInstanceId) (occurredAt : UtcMillis)
      (asked : call.request = .apply id (.consume target occurredAt))
      (stored : StoredAs tables id detailed version) (identified : HandoffRow.Identified detailed)
      (targeted : detailed.handoff.fields.targetInstanceId = target)
      (delivered : detailed.handoff.status = .delivered) (late : detailed.handoff.fields.expiresAt ≤ occurredAt)
      (run : (ContextHandoff.expire occurredAt).run detailed.handoff = .ok () next) :
      Step cryptography tables call (tables.move id ⟨next, detailed.details⟩ (version + 1), .error .expired)
  | read (id : HandoffId) (detailed : DetailedHandoff) (next : ContextHandoff) (version : Int)
      (target : AgentInstanceId) (occurredAt : UtcMillis) (package : EncryptedPackage) (body : List UInt8)
      (asked : call.request = .apply id (.consume target occurredAt))
      (stored : StoredAs tables id detailed version) (delivered : detailed.handoff.status = .delivered)
      (early : occurredAt < detailed.handoff.fields.expiresAt)
      (run : (ContextHandoff.consume occurredAt).run detailed.handoff = .ok () next)
      (kept : tables.packages id = some package)
      (opened : cryptography.decrypt package.nonce (HandoffPackageCipher.associatedData detailed) package.ciphertext = some body) :
      Step cryptography tables call
        (tables.move id ⟨next, detailed.details⟩ (version + 1), .ok (.consumed ⟨next, detailed.details⟩ body))

theorem insert_fresh {tables : HandoffTables} {handoff : BuiltHandoff}
    (fresh : tables.handoffs handoff.detailed.handoff.fields.id = none) :
    tables.insertHandoff handoff.detailed = .ok (some { tables with
      handoffs := Function.update tables.handoffs handoff.detailed.handoff.fields.id
        (some (HandoffRow.ofHandoff handoff.detailed 1)) }) := by
  have checked := HandoffRow.built_checked handoff.detailed handoff.built 1 Int.one_pos
  simp only [HandoffTables.insertHandoff, fresh, HandoffTables.writeRow, if_pos checked]
  rfl

variable {tables : HandoffTables} {committed : Committed} {id : HandoffId} {cryptography : HandoffCryptography}
  {package : EncryptedPackage} {loaded : LoadedHandoff} {handoff : BuiltHandoff}

variable {written : HandoffTables} {next : ContextHandoff}

theorem insert_package_ok (inserted : tables.insertPackage id package = .ok written) :
    written = { tables with packages := Function.update tables.packages id (some package) } := by
  unfold HandoffTables.insertPackage at inserted
  by_cases checked : package.checked = false
  · rw [if_pos checked] at inserted
    cases inserted
  · rw [if_neg checked] at inserted
    by_cases taken : (tables.packages id).isSome
    · rw [if_pos taken] at inserted
      cases inserted
    · rw [if_neg taken] at inserted
      cases inserted
      rfl

theorem encrypt_ok (encrypted : HandoffPackageCipher.encrypt cryptography random detailed plaintext = .ok package) :
    ∃ nonce ciphertext, package = { keyVersion, nonce, ciphertext } ∧
      cryptography.encrypt nonce (HandoffPackageCipher.associatedData detailed) plaintext = some ciphertext := by
  unfold HandoffPackageCipher.encrypt at encrypted
  cases random with
  | none => cases encrypted
  | some nonce =>
    cases sealed : cryptography.encrypt nonce (HandoffPackageCipher.associatedData detailed) plaintext with
    | none =>
      simp only [sealed] at encrypted
      cases encrypted
    | some ciphertext =>
      simp only [sealed] at encrypted
      cases encrypted
      exact ⟨nonce, ciphertext, rfl, sealed⟩

theorem record_existing {package : Option EncryptedPackage} {row : HandoffRow}
    (found : tables.handoffs detailed.handoff.fields.id = some row) (recorded : record tables detailed package = .ok committed) :
    ∃ existing, committed = (tables, .ok (.recorded (.existing existing))) := by
  rw [record, HandoffTables.insertHandoff, found] at recorded
  obtain ⟨inserted, same, recorded⟩ := unbind recorded
  cases same
  obtain ⟨existing, -, recorded⟩ := unbind recorded
  obtain ⟨_, -, recorded⟩ := unbind recorded
  obtain ⟨_, -, recorded⟩ := unbind recorded
  cases recorded
  exact ⟨existing.detailed, rfl⟩

variable {call : HandoffStoreCall}

theorem outgoing_steps {cryptography : HandoffCryptography} (outgoing : call.request = .recordOutgoing handoff)
    (recorded : record tables handoff.detailed none = .ok committed) : Step cryptography tables call committed := by
  cases found : tables.handoffs handoff.detailed.handoff.fields.id with
  | some row =>
    obtain ⟨existing, rfl⟩ := record_existing found recorded
    exact .existing existing
  | none =>
    rw [record, insert_fresh found] at recorded
    cases recorded
    exact .sent handoff outgoing found

theorem incoming_steps (call : HandoffStoreCall) {package : OneShotHandoffPackage} (incoming : call.request = .acceptIncoming handoff package)
    (recorded : acceptIncoming cryptography tables call.nonce handoff.detailed package = .ok committed) :
    Step cryptography tables call committed := by
  obtain ⟨_, delivered, recorded⟩ := unbind recorded
  obtain ⟨_, -, recorded⟩ := unbind recorded
  obtain ⟨encrypted, sealed, recorded⟩ := unbind recorded
  cases found : tables.handoffs handoff.detailed.handoff.fields.id with
  | some row =>
    obtain ⟨existing, rfl⟩ := record_existing found recorded
    exact .existing existing
  | none =>
    rw [record, insert_fresh found] at recorded
    obtain ⟨inserted, same, recorded⟩ := unbind recorded
    cases same
    obtain ⟨written, put, recorded⟩ := unbind recorded
    cases recorded
    rw [insert_package_ok put]
    obtain ⟨nonce, ciphertext, rfl, enciphered⟩ := encrypt_ok sealed
    exact .accepted handoff package nonce ciphertext incoming found ((ensure_ok ..).mp delivered) enciphered

theorem settle_held (stored : StoredAs tables id loaded.detailed loaded.version)
    (advances : ContextHandoff.Advances loaded.detailed.handoff next) (settled : settle tables loaded next = .ok written) :
    (next = loaded.detailed.handoff ∧
        written = if loaded.detailed.handoff.status.closed then tables.deletePackage id else tables) ∨
      (loaded.detailed.handoff.status.closed = false ∧ (loaded.detailed.handoff.status = .delivered → next.status.closed = true) ∧
        written = tables.move id ⟨next, loaded.detailed.details⟩ (loaded.version + 1)) := by
  have named : next.fields.id = id := by rw [advances.fields, stored.named]
  obtain ⟨updated, wrote, finished⟩ := unbind settled
  cases finished
  unfold writeChanged at wrote
  by_cases same : next = loaded.detailed.handoff
  · rw [if_pos same] at wrote
    cases wrote
    exact .inl ⟨same, by rw [named, same]⟩
  · rw [if_neg same, HandoffTables.update_held stored
      (advances.built stored.built) advances.fields] at wrote
    cases wrote
    obtain ⟨active, closes⟩ := advances.moved.resolve_left same
    exact .inr ⟨active, closes, by rw [named, HandoffTables.move]⟩

theorem settle_steps (stored : StoredAs tables id loaded.detailed loaded.version) (advances : ContextHandoff.Advances loaded.detailed.handoff next)
    (settled : settle tables loaded next = .ok written)
    (answered : answer = .updated ⟨next, loaded.detailed.details⟩ ∨ answer = .received ⟨next, loaded.detailed.details⟩) :
    Step cryptography tables call (written, .ok answer) := by
  rcases settle_held stored advances settled with ⟨same, rfl⟩ | ⟨active, closes, rfl⟩
  · rw [same] at answered
    exact .unmoved id loaded.detailed loaded.version answer stored answered
  · exact .moved id loaded.detailed next loaded.version answer stored advances active closes answered

theorem command_steps (stored : StoredAs tables id loaded.detailed loaded.version)
    (applied : applyNonConsumingCommand tables loaded target op = .ok committed) : Step cryptography tables call committed := by
  obtain ⟨_, -, applied⟩ := unbind applied
  obtain ⟨next, run, applied⟩ := unbind applied
  obtain ⟨written, settled, applied⟩ := unbind applied
  cases applied
  have advances := ContextHandoff.run_advances next op ((transit_ok ..).mp run)
  exact settle_steps stored advances settled (.inl rfl)

theorem receipt_steps (held : RowsHeld tables)
    (applied : applyReceiptRecord tables receipt = .ok committed) : Step cryptography tables call committed := by
  obtain ⟨loaded, found, applied⟩ := unbind applied
  obtain ⟨next, run, applied⟩ := unbind applied
  obtain ⟨written, settled, applied⟩ := unbind applied
  cases applied
  obtain ⟨stored, -⟩ := HandoffTables.load_held held found
  have advances := HandoffReceiptRecord.apply_to_advances receipt next ((transit_ok ..).mp run)
  exact settle_steps stored advances settled (.inr rfl)

theorem decrypt_ok (opened : HandoffPackageCipher.decrypt cryptography detailed package = .ok body) :
    cryptography.decrypt package.nonce (HandoffPackageCipher.associatedData detailed) package.ciphertext = some body := by
  unfold HandoffPackageCipher.decrypt at opened
  by_cases other : package.keyVersion ≠ keyVersion ∨ package.nonce.length ≠ nonceBytes
  · rw [if_pos other] at opened
    cases opened
  · rw [if_neg other] at opened
    cases plain : cryptography.decrypt package.nonce (HandoffPackageCipher.associatedData detailed) package.ciphertext with
    | none =>
      rw [plain] at opened
      cases opened
    | some plaintext =>
      rw [plain] at opened
      obtain ⟨_, -, opened⟩ := unbind opened
      cases opened
      rfl

theorem associated_data_kept (fields : next.fields = detailed.handoff.fields) :
    HandoffPackageCipher.associatedData ⟨next, detailed.details⟩ = HandoffPackageCipher.associatedData detailed := by
  simp [HandoffPackageCipher.associatedData, fields]

theorem closes_move (tables : HandoffTables) (id : HandoffId) (detailed : DetailedHandoff)
    (closed : detailed.handoff.status.closed = true) : tables.move id detailed version = HandoffTables.deletePackage { tables with
      handoffs := Function.update tables.handoffs id (some (HandoffRow.ofHandoff detailed version)) } id := by
  rw [HandoffTables.move, if_pos closed]

theorem required_ok (column : Option α) (value : α) (found : HandoffReplay.required column = .ok value) :
    column = some value := by
  cases column with
  | none => cases found
  | some stored =>
    cases found
    rfl

theorem expire_run (handoff : ContextHandoff) (observedAt : UtcMillis) (delivered : handoff.status = .delivered)
    (late : handoff.fields.expiresAt ≤ observedAt) :
    (ContextHandoff.expire observedAt).run handoff = .ok () { handoff with status := .expired, resolvedAt := some observedAt } := by
  have lapsed : ¬ observedAt < handoff.fields.expiresAt := (UtcMillis.not_lt_iff ..).mpr late
  have fresh : ¬ handoff.status = .expired := by rw [delivered]; decide
  have active : ¬ ¬ (handoff.status = .proposed ∨ handoff.status = .approved ∨ handoff.status = .delivered) :=
    not_not.mpr (.inr (.inr delivered))
  have body : (ContextHandoff.expire observedAt).run handoff =
      (if handoff.status = .expired then (return () : ContextHandoff.ContextMethod)
        else if ¬ (handoff.status = .proposed ∨ handoff.status = .approved ∨ handoff.status = .delivered) then
          throw (handoff.invalidTransition .expired)
        else if observedAt < handoff.fields.expiresAt then throw (ContextHandoff.violation "尚未到达交付授权期限")
        else set { handoff with status := HandoffStatus.expired, resolvedAt := some observedAt }).run handoff := rfl
  rw [body, if_neg fresh, if_neg active, if_neg lapsed]
  rfl

theorem consume_ends (handoff : ContextHandoff) (consumedAt : UtcMillis) :
    Yields (ContextHandoff.consume consumedAt) handoff fun _ next => next.status = .consumed := by
  rw [ContextHandoff.consume]
  refine yields_get ?_
  refine yields_ite (fun done => yields_pure done) fun _ => ?_
  refine yields_lift fun _ _ => ?_
  cases handoff.deliveredAt with
  | none => exact yields_throw
  | some deliveredAt => exact yields_lift fun _ _ => rfl

theorem close_held (stored : StoredAs tables id loaded.detailed loaded.version)
    (advances : ContextHandoff.Advances loaded.detailed.handoff next) (closed : next.status.closed = true)
    (wrote : tables.updateHandoffState ⟨⟨next, loaded.detailed.details⟩, loaded.version⟩ = .ok written) :
    written.deletePackage next.fields.id = tables.move id ⟨next, loaded.detailed.details⟩ (loaded.version + 1) := by
  rw [HandoffTables.update_held stored (advances.built stored.built)
    advances.fields] at wrote
  cases wrote
  rw [advances.fields, stored.named, closes_move tables id ⟨next, loaded.detailed.details⟩ closed]

theorem consume_steps (call : HandoffStoreCall) (asked : call.request = .apply id (.consume target occurredAt))
    (stored : StoredAs tables id loaded.detailed loaded.version) (identified : HandoffRow.Identified loaded.detailed) (applied : consume cryptography tables loaded target occurredAt = .ok committed) :
    Step cryptography tables call committed := by
  obtain ⟨_, targeted, applied⟩ := unbind applied
  have targeted := (ensure_ok ..).mp targeted
  cases status : loaded.detailed.handoff.status with
  | delivered =>
    simp only [status] at applied
    by_cases late : loaded.detailed.handoff.fields.expiresAt ≤ occurredAt
    · rw [if_pos late] at applied
      obtain ⟨next, run, applied⟩ := unbind applied
      obtain ⟨written, wrote, applied⟩ := unbind applied
      cases applied
      have run := (transit_ok ..).mp run
      have ended := expire_run loaded.detailed.handoff occurredAt status late
      rw [run] at ended
      cases ended
      rw [close_held stored (ContextHandoff.run_advances _ (.expire occurredAt) run) rfl wrote]
      exact .expired id loaded.detailed _ loaded.version target occurredAt asked stored identified targeted status late run
    · rw [if_neg late] at applied
      obtain ⟨next, run, applied⟩ := unbind applied
      obtain ⟨package, kept, applied⟩ := unbind applied
      obtain ⟨body, opened, applied⟩ := unbind applied
      obtain ⟨written, wrote, applied⟩ := unbind applied
      cases applied
      have run := (transit_ok ..).mp run
      have advances := ContextHandoff.run_advances next (.consume occurredAt) run
      have ended := yields_ok (consume_ends loaded.detailed.handoff occurredAt) run
      rw [close_held stored advances (by rw [ended]; rfl) wrote]
      rw [advances.fields, stored.named] at kept
      have opened := decrypt_ok opened
      rw [associated_data_kept advances.fields] at opened
      exact .read id loaded.detailed next loaded.version target occurredAt package body asked stored status
        ((UtcMillis.not_le_iff ..).mp late) run (required_ok _ _ kept) opened
  | _ =>
    simp only [status] at applied
    cases applied

theorem apply_steps (held : RowsHeld tables)
    (call : HandoffStoreCall) (asked : call.request = .apply id command) (applied : applyCommand cryptography tables id command = .ok committed) :
    Step cryptography tables call committed := by
  obtain ⟨loaded, found, applied⟩ := unbind applied
  obtain ⟨stored, identified⟩ := HandoffTables.load_held held found
  cases command with
  | consume target occurredAt =>
    exact consume_steps call asked stored identified applied
  | _ => exact command_steps stored applied

theorem attempt_steps (cryptography : HandoffCryptography) (tables : HandoffTables) (held : RowsHeld tables)
    (call : HandoffStoreCall) (committed : Committed) (done : attempt cryptography tables call = .ok committed) :
    Step cryptography tables call committed := by
  unfold attempt at done
  cases asked : call.request with
  | recordOutgoing handoff =>
    rw [asked] at done
    exact outgoing_steps asked done
  | acceptIncoming handoff package =>
    rw [asked] at done
    exact incoming_steps call asked done
  | apply id command =>
    rw [asked] at done
    exact apply_steps held call asked done
  | applyReceipt receipt =>
    rw [asked] at done
    exact receipt_steps held done

theorem perform_steps (cryptography : HandoffCryptography) (tables : HandoffTables) (held : RowsHeld tables)
    (call : HandoffStoreCall) : Step cryptography tables call (perform cryptography tables call) := by
  unfold perform
  cases done : attempt cryptography tables call with
  | error failure =>
    cases call.outage with
    | none => exact .refused failure
    | some outage => exact .refused failure
  | ok committed =>
    cases call.outage with
    | none => exact attempt_steps cryptography tables held call committed done
    | some outage => exact .refused outage

end SqliteHandoffStore

end AgentRoom
