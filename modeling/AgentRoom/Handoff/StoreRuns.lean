import AgentRoom.Handoff.StoreSteps
import AgentRoom.Library.Runs

namespace AgentRoom

open Library

abbrev HandoffStoreEntry := HandoffStoreCall × HandoffStoreResult HandoffStoreAnswer

namespace HandoffStoreEntry

def recordedOf (id : HandoffId) (entry : HandoffStoreEntry) : Option (Option (List UInt8)) :=
  match entry.1.request, entry.2 with
  | .recordOutgoing _, .ok (.recorded (.created detailed)) => if detailed.handoff.fields.id = id then some none else none
  | .acceptIncoming _ package, .ok (.recorded (.created detailed)) =>
    if detailed.handoff.fields.id = id then some (some package.body) else none
  | _, _ => none

def returnedOf (id : HandoffId) (entry : HandoffStoreEntry) : Option (List UInt8) :=
  match entry.2 with
  | .ok (.consumed detailed body) => if detailed.handoff.fields.id = id then some body else none
  | _ => none

end HandoffStoreEntry

structure HandoffStoreRun where
  tables : HandoffTables
  trace : List HandoffStoreEntry

namespace HandoffStoreRun

def start : HandoffStoreRun := ⟨.empty, []⟩

def call (cryptography : HandoffCryptography) (run : HandoffStoreRun) (call : HandoffStoreCall) : HandoffStoreRun :=
  let committed := SqliteHandoffStore.perform cryptography run.tables call
  ⟨committed.1, run.trace ++ [(call, committed.2)]⟩

def calls (cryptography : HandoffCryptography) (calls : List HandoffStoreCall) : HandoffStoreRun :=
  calls.foldl (HandoffStoreRun.call cryptography) start

def firstRecorded (run : HandoffStoreRun) (id : HandoffId) : Option (Option (List UInt8)) :=
  run.trace.findSome? (HandoffStoreEntry.recordedOf id)

def bodiesReturned (run : HandoffStoreRun) (id : HandoffId) : List (List UInt8) :=
  run.trace.filterMap (HandoffStoreEntry.returnedOf id)

end HandoffStoreRun

-- Where a handoff of the store can stand. Its package is kept in one phase only.
inductive HandoffPhase (cryptography : HandoffCryptography) (run : HandoffStoreRun) (id : HandoffId) : Prop where
  | unseen (absent : run.tables.handoffs id = none) (unkept : run.tables.packages id = none)
      (first : run.firstRecorded id = none) (unread : run.bodiesReturned id = [])
  | outgoing (detailed : DetailedHandoff) (version : Int) (stored : StoredAs run.tables id detailed version)
      (unkept : run.tables.packages id = none) (first : run.firstRecorded id = some none)
      (unread : run.bodiesReturned id = [])
  | waiting (detailed : DetailedHandoff) (version : Int) (body nonce ciphertext : List UInt8)
      (stored : StoredAs run.tables id detailed version) (delivered : detailed.handoff.status = .delivered)
      (kept : run.tables.packages id = some { keyVersion, nonce, ciphertext })
      (sealed : cryptography.encrypt nonce (HandoffPackageCipher.associatedData detailed) body = some ciphertext)
      (first : run.firstRecorded id = some (some body)) (unread : run.bodiesReturned id = [])
  | finished (detailed : DetailedHandoff) (version : Int) (body : List UInt8)
      (stored : StoredAs run.tables id detailed version) (closed : detailed.handoff.status.closed = true)
      (unkept : run.tables.packages id = none) (first : run.firstRecorded id = some (some body))
      (once : run.bodiesReturned id = [] ∨ run.bodiesReturned id = [body])

namespace HandoffPhase

variable {cryptography : HandoffCryptography} {run next : HandoffStoreRun} {id : HandoffId}

theorem held (phases : ∀ id, HandoffPhase cryptography run id) : RowsHeld run.tables := by
  intro id row found
  cases phases id with
  | unseen absent => rw [absent] at found; cases found
  | outgoing detailed version stored => exact ⟨detailed, version, stored⟩
  | waiting detailed version _ _ _ stored => exact ⟨detailed, version, stored⟩
  | finished detailed version _ stored => exact ⟨detailed, version, stored⟩

theorem stored_elsewhere {tables later : HandoffTables} (same : later.handoffs id = tables.handoffs id)
    {version : Int} (stored : StoredAs tables id detailed version) : StoredAs later id detailed version :=
  ⟨same.trans stored.row, stored.named, stored.built, stored.positive⟩

theorem framed (phase : HandoffPhase cryptography run id)
    (row : next.tables.handoffs id = run.tables.handoffs id) (package : next.tables.packages id = run.tables.packages id)
    (first : next.firstRecorded id = run.firstRecorded id) (bodies : next.bodiesReturned id = run.bodiesReturned id) :
    HandoffPhase cryptography next id := by
  cases phase with
  | unseen absent unkept unrecorded unread =>
    exact .unseen (row.trans absent) (package.trans unkept) (first.trans unrecorded) (bodies.trans unread)
  | outgoing detailed version stored unkept recorded unread =>
    exact .outgoing detailed version (stored_elsewhere row stored) (package.trans unkept) (first.trans recorded)
      (bodies.trans unread)
  | waiting detailed version body nonce ciphertext stored delivered kept sealed recorded unread =>
    exact .waiting detailed version body nonce ciphertext (stored_elsewhere row stored) delivered
      (package.trans kept) sealed (first.trans recorded) (bodies.trans unread)
  | finished detailed version body stored closed unkept recorded once =>
    exact .finished detailed version body (stored_elsewhere row stored) closed (package.trans unkept)
      (first.trans recorded) (by rw [bodies]; exact once)

end HandoffPhase

variable {first second : Int}

theorem stored_status {tables : HandoffTables} {id : HandoffId}
    (one : StoredAs tables id left first) (other : StoredAs tables id right second) :
    left.handoff.status = right.handoff.status := by
  have rows : HandoffRow.ofHandoff left first = HandoffRow.ofHandoff right second :=
    Option.some.inj (one.row.symm.trans other.row)
  have texts : left.handoff.status.asStr = right.handoff.status.asStr := congrArg HandoffRow.status rows
  have decoded := congrArg HandoffRow.decodeStatus texts
  rw [HandoffRow.decode_status_as_str, HandoffRow.decode_status_as_str] at decoded
  exact Except.ok.inj decoded

theorem stored_associated_data {tables : HandoffTables} {id : HandoffId}
    (one : StoredAs tables id left first) (other : StoredAs tables id right second) :
    HandoffPackageCipher.associatedData left = HandoffPackageCipher.associatedData right := by
  have rows : HandoffRow.ofHandoff left first = HandoffRow.ofHandoff right second :=
    Option.some.inj (one.row.symm.trans other.row)
  have named := congrArg HandoffRow.handoffId rows
  have targeted := congrArg HandoffRow.targetInstanceId rows
  have content := congrArg HandoffRow.contentId rows
  have digest := congrArg HandoffRow.contentDigest rows
  have length := Int.ofNat.inj (congrArg HandoffRow.contentByteLength rows)
  have mediaType := congrArg HandoffRow.contentMediaType rows
  simp only [HandoffRow.ofHandoff] at named targeted content digest mediaType
  simp [HandoffPackageCipher.associatedData, named, targeted, content, digest, length, mediaType]

namespace HandoffStoreRun

def extend (run : HandoffStoreRun) (call : HandoffStoreCall) (committed : SqliteHandoffStore.Committed) : HandoffStoreRun :=
  ⟨committed.1, run.trace ++ [(call, committed.2)]⟩

variable (run : HandoffStoreRun) (call : HandoffStoreCall) (tables : HandoffTables)
  (answer : HandoffStoreResult HandoffStoreAnswer) (id : HandoffId)

theorem first_extend : (run.extend call (tables, answer)).firstRecorded id =
    (run.firstRecorded id).or (HandoffStoreEntry.recordedOf id (call, answer)) := by
  simp [firstRecorded, extend, List.findSome?_append]

theorem bodies_extend : (run.extend call (tables, answer)).bodiesReturned id =
    run.bodiesReturned id ++ (HandoffStoreEntry.returnedOf id (call, answer)).toList := by
  simp only [bodiesReturned, extend, List.filterMap_append]
  cases returned : HandoffStoreEntry.returnedOf id (call, answer) <;> simp [returned]

theorem records_nothing (other : ∀ detailed, answer ≠ .ok (.recorded (.created detailed))) :
    (run.extend call (tables, answer)).firstRecorded id = run.firstRecorded id := by
  rw [first_extend]
  have nothing : HandoffStoreEntry.recordedOf id (call, answer) = none := by
    unfold HandoffStoreEntry.recordedOf
    split
    · rename_i created
      exact absurd created (other _)
    · rename_i created
      exact absurd created (other _)
    · rfl
  rw [nothing, Option.or_none]

theorem returns_nothing (other : ∀ detailed body, answer ≠ .ok (.consumed detailed body)) :
    (run.extend call (tables, answer)).bodiesReturned id = run.bodiesReturned id := by
  rw [bodies_extend]
  have nothing : HandoffStoreEntry.returnedOf id (call, answer) = none := by
    unfold HandoffStoreEntry.returnedOf
    split
    · rename_i consumed
      exact absurd consumed (other _ _)
    · rfl
  rw [nothing, Option.toList_none, List.append_nil]

end HandoffStoreRun

namespace HandoffPhase

open HandoffStoreRun SqliteHandoffStore

variable {cryptography : HandoffCryptography} {run : HandoffStoreRun} {call : HandoffStoreCall}

theorem silent (id : HandoffId) (phase : HandoffPhase cryptography run id) (tables : HandoffTables)
    (answer : HandoffStoreResult HandoffStoreAnswer) (row : tables.handoffs id = run.tables.handoffs id)
    (package : tables.packages id = run.tables.packages id)
    (unrecorded : ∀ detailed, answer ≠ .ok (.recorded (.created detailed)))
    (unread : ∀ detailed body, answer ≠ .ok (.consumed detailed body)) :
    HandoffPhase cryptography (run.extend call (tables, answer)) id :=
  phase.framed row package (records_nothing run call tables answer id unrecorded)
    (returns_nothing run call tables answer id unread)

variable {id : HandoffId} {detailed : DetailedHandoff} {version : Int}

theorem move_elsewhere (tables : HandoffTables) (distinct : other ≠ id) (detailed : DetailedHandoff)
    (version : Int) : (tables.move id detailed version).handoffs other = tables.handoffs other ∧
      (tables.move id detailed version).packages other = tables.packages other := by
  unfold HandoffTables.move HandoffTables.deletePackage
  split <;> simp [Function.update_of_ne distinct]

theorem move_here (tables : HandoffTables) (id : HandoffId) (detailed : DetailedHandoff) (version : Int) :
    (tables.move id detailed version).handoffs id = some (HandoffRow.ofHandoff detailed version) ∧
      (tables.move id detailed version).packages id =
        if detailed.handoff.status.closed then none else tables.packages id := by
  unfold HandoffTables.move HandoffTables.deletePackage
  split <;> simp

theorem move_stored {tables : HandoffTables} (stored : StoredAs tables id detailed version)
    (advances : ContextHandoff.Advances detailed.handoff next) :
    StoredAs (tables.move id ⟨next, detailed.details⟩ (version + 1)) id ⟨next, detailed.details⟩ (version + 1) where
  row := (move_here tables id _ _).1
  named := advances.fields ▸ stored.named
  built := advances.built stored.built
  positive := Int.lt_add_one_of_le (Int.le_of_lt stored.positive)

theorem advanced (id : HandoffId) (phase : HandoffPhase cryptography run id) (detailed : DetailedHandoff) (version : Int)
    (stored : StoredAs run.tables id detailed version) (next : ContextHandoff)
    (advances : ContextHandoff.Advances detailed.handoff next) (active : detailed.handoff.status.closed = false)
    (answer : HandoffStoreResult HandoffStoreAnswer) (moved : detailed.handoff.status = .delivered → next.status.closed = true)
    (unrecorded : ∀ detailed, answer ≠ .ok (.recorded (.created detailed)))
    (unread : ∀ detailed body, answer ≠ .ok (.consumed detailed body)) : HandoffPhase cryptography
      (run.extend call (run.tables.move id ⟨next, detailed.details⟩ (version + 1), answer)) id := by
  have later := move_stored stored advances
  have first := records_nothing run call (run.tables.move id ⟨next, detailed.details⟩ (version + 1)) answer id unrecorded
  have bodies := returns_nothing run call (run.tables.move id ⟨next, detailed.details⟩ (version + 1)) answer id unread
  have package := (move_here run.tables id ⟨next, detailed.details⟩ (version + 1)).2
  cases phase with
  | unseen absent => rw [stored.row] at absent; cases absent
  | outgoing _ _ _ unkept recorded unreturned =>
    refine .outgoing _ _ later ?_ (first.trans recorded) (bodies.trans unreturned)
    exact package.trans (by rw [unkept, ite_self])
  | waiting before _ body _ _ held delivered _ _ recorded unreturned =>
    have closed := moved ((stored_status stored held).trans delivered)
    refine .finished _ _ body later closed ?_ (first.trans recorded) (.inl (bodies.trans unreturned))
    exact package.trans (if_pos closed)
  | finished before _ body held closed =>
    rw [stored_status stored held, closed] at active
    cases active

theorem fresh_unseen (phase : HandoffPhase cryptography run id) (fresh : run.tables.handoffs id = none) :
    run.tables.packages id = none ∧ run.firstRecorded id = none ∧ run.bodiesReturned id = [] := by
  cases phase with
  | unseen _ unkept first unread => exact ⟨unkept, first, unread⟩
  | outgoing _ _ stored => rw [stored.row] at fresh; cases fresh
  | waiting _ _ _ _ _ stored => rw [stored.row] at fresh; cases fresh
  | finished _ _ _ stored => rw [stored.row] at fresh; cases fresh

theorem closed_unkept (phase : HandoffPhase cryptography run id)
    (stored : StoredAs run.tables id detailed version) (closed : detailed.handoff.status.closed = true) :
    run.tables.packages id = none := by
  cases phase with
  | unseen _ unkept => exact unkept
  | outgoing _ _ _ unkept => exact unkept
  | finished _ _ _ _ _ unkept => exact unkept
  | waiting _ _ _ _ _ held delivered =>
    rw [stored_status stored held, delivered] at closed
    cases closed

theorem read_phase (opens : cryptography.RoundTrips) (id : HandoffId) (phase : HandoffPhase cryptography run id)
    (detailed : DetailedHandoff) (version : Int) (stored : StoredAs run.tables id detailed version)
    (delivered : detailed.handoff.status = .delivered) (next : ContextHandoff)
    (advances : ContextHandoff.Advances detailed.handoff next) (closed : next.status.closed = true)
    (package : EncryptedPackage) (kept : run.tables.packages id = some package) (body : List UInt8)
    (opened : cryptography.decrypt package.nonce (HandoffPackageCipher.associatedData detailed) package.ciphertext = some body) :
    HandoffPhase cryptography
      (run.extend call (run.tables.move id ⟨next, detailed.details⟩ (version + 1),
        .ok (.consumed ⟨next, detailed.details⟩ body))) id := by
  have later := move_stored stored advances
  have first := records_nothing run call (run.tables.move id ⟨next, detailed.details⟩ (version + 1))
    (.ok (.consumed ⟨next, detailed.details⟩ body)) id (by simp)
  have bodies := bodies_extend run call (run.tables.move id ⟨next, detailed.details⟩ (version + 1))
    (.ok (.consumed ⟨next, detailed.details⟩ body)) id
  rw [show HandoffStoreEntry.returnedOf id (call, .ok (.consumed ⟨next, detailed.details⟩ body)) = some body from
    if_pos later.named] at bodies
  cases phase with
  | unseen absent => rw [stored.row] at absent; cases absent
  | outgoing _ _ _ unkept => rw [kept] at unkept; cases unkept
  | finished before _ _ held ended =>
    rw [← stored_status stored held, delivered] at ended
    cases ended
  | waiting before _ plaintext nonce ciphertext held _ waits sealed recorded unreturned =>
    rw [kept] at waits
    cases waits
    rw [stored_associated_data stored held, opens nonce _ plaintext ciphertext sealed] at opened
    cases opened
    refine .finished _ _ body later closed ?_ (first.trans recorded) (.inr (bodies.trans ?_))
    · exact (move_here ..).2.trans (if_pos closed)
    · rw [unreturned]
      rfl

theorem quiet_answer {answer : HandoffStoreAnswer} (answered : answer = .updated detailed ∨ answer = .received detailed) :
    (∀ created, (.ok answer : HandoffStoreResult HandoffStoreAnswer) ≠ .ok (.recorded (.created created))) ∧
      ∀ read body, (.ok answer : HandoffStoreResult HandoffStoreAnswer) ≠ .ok (.consumed read body) := by
  rcases answered with rfl | rfl <;> simp

-- The step lemma: whatever a call does, every handoff stands in some phase after it.
theorem step_phase (opens : cryptography.RoundTrips) (phases : ∀ id, HandoffPhase cryptography run id)
    (step : Step cryptography run.tables call committed) (id : HandoffId) :
    HandoffPhase cryptography (run.extend call committed) id := by
  have phase := phases id
  cases step with
  | refused failure => exact phase.silent id _ _ rfl rfl (by simp) (by simp)
  | existing detailed => exact phase.silent id _ _ rfl rfl (by simp) (by simp)
  | sent handoff outgoing fresh =>
    have bodies tables := returns_nothing run call tables (.ok (.recorded (.created handoff.detailed))) id (by simp)
    by_cases same : id = handoff.detailed.handoff.fields.id
    · obtain ⟨unkept, first, unread⟩ := fresh_unseen phase (same ▸ fresh)
      refine .outgoing handoff.detailed 1 ⟨?_, same.symm, handoff.built, Int.one_pos⟩ unkept ?_ ((bodies _).trans unread)
      · rw [same]
        exact Function.update_self ..
      · rw [first_extend, first, Option.none_or]
        simp [HandoffStoreEntry.recordedOf, outgoing, same]
    · refine phase.framed (Function.update_of_ne same ..) rfl ?_ (bodies _)
      rw [first_extend]
      simp [HandoffStoreEntry.recordedOf, outgoing, Ne.symm same]
  | accepted handoff package nonce ciphertext incoming fresh delivered sealed =>
    have bodies tables := returns_nothing run call tables (.ok (.recorded (.created handoff.detailed))) id (by simp)
    by_cases same : id = handoff.detailed.handoff.fields.id
    · obtain ⟨unkept, first, unread⟩ := fresh_unseen phase (same ▸ fresh)
      refine .waiting handoff.detailed 1 package.body nonce ciphertext ⟨?_, same.symm, handoff.built, Int.one_pos⟩
        delivered ?_ sealed ?_ ((bodies _).trans unread)
      · rw [same]
        exact Function.update_self ..
      · rw [same]
        exact Function.update_self ..
      · rw [first_extend, first, Option.none_or]
        simp [HandoffStoreEntry.recordedOf, incoming, same]
    · refine phase.framed (Function.update_of_ne same ..) (Function.update_of_ne same ..) ?_ (bodies _)
      rw [first_extend]
      simp [HandoffStoreEntry.recordedOf, incoming, Ne.symm same]
  | unmoved moving detailed version answer stored answered =>
    obtain ⟨unrecorded, unread⟩ := quiet_answer answered
    by_cases closed : detailed.handoff.status.closed = true
    · rw [if_pos closed]
      refine phase.silent id _ _ rfl ?_ unrecorded unread
      by_cases same : id = moving
      · rw [same, closed_unkept (phases moving) stored closed]
        exact Function.update_self ..
      · exact Function.update_of_ne same ..
    · rw [if_neg closed]
      exact phase.silent id _ _ rfl rfl unrecorded unread
  | moved moving detailed after version answer stored advances active closes answered =>
    obtain ⟨unrecorded, unread⟩ := quiet_answer answered
    by_cases same : id = moving
    · subst same
      exact phase.advanced id detailed version stored after advances active _ closes unrecorded unread
    · obtain ⟨row, package⟩ := move_elsewhere run.tables same ⟨after, detailed.details⟩ (version + 1)
      exact phase.silent id _ _ row package unrecorded unread
  | expired moving detailed after version target occurredAt asked stored identified targeted delivered late transition =>
    have advances := ContextHandoff.run_advances after (.expire occurredAt) transition
    have ended := expire_run detailed.handoff occurredAt delivered late
    rw [transition] at ended
    cases ended
    by_cases same : id = moving
    · subst same
      exact phase.advanced id detailed version stored _ advances (by rw [delivered]; rfl) _ (fun _ => rfl) (by simp) (by simp)
    · obtain ⟨row, package⟩ := move_elsewhere run.tables same ⟨_, detailed.details⟩ (version + 1)
      exact phase.silent id _ _ row package (by simp) (by simp)
  | read moving detailed after version target occurredAt package body asked stored delivered early transition kept opened =>
    have advances := ContextHandoff.run_advances after (.consume occurredAt) transition
    have ended := yields_ok (consume_ends detailed.handoff occurredAt) transition
    have closed : after.status.closed = true := by
      rw [ended]
      rfl
    by_cases same : id = moving
    · subst same
      exact phase.read_phase opens id detailed version stored delivered after advances closed package kept body opened
    · obtain ⟨row, unchanged⟩ := move_elsewhere run.tables same ⟨after, detailed.details⟩ (version + 1)
      refine phase.framed row unchanged (records_nothing _ _ _ _ _ (by simp)) ?_
      rw [bodies_extend]
      have other : ¬ after.fields.id = id := by
        rw [advances.fields, stored.named]
        exact Ne.symm same
      simp [HandoffStoreEntry.returnedOf, other]

end HandoffPhase

namespace HandoffStoreRun

open SqliteHandoffStore

theorem start_phase {cryptography : HandoffCryptography} (id : HandoffId) : HandoffPhase cryptography start id :=
  .unseen rfl rfl rfl rfl

theorem calls_phase {cryptography : HandoffCryptography} (opens : cryptography.RoundTrips) (made : List HandoffStoreCall)
    (id : HandoffId) : HandoffPhase cryptography (calls cryptography made) id := by
  have run := (foldl_runs (HandoffStoreRun.call cryptography) start (calls cryptography made) made).mpr rfl
  refine runs_invariant (fun run => ∀ id, HandoffPhase cryptography run id) ?_ (start_phase) run id
  intro run call next phases stepped
  rw [stepped]
  exact HandoffPhase.step_phase opens phases (perform_steps cryptography run.tables (HandoffPhase.held phases) call)

variable (cryptography : HandoffCryptography) (run : HandoffStoreRun) (phases : ∀ id, HandoffPhase cryptography run id)

include phases

theorem package_waits (id : HandoffId) : (run.tables.packages id).isSome = true ↔
      (∃ body, run.firstRecorded id = some (some body)) ∧
        ∃ row, run.tables.handoffs id = some row ∧ row.status = HandoffStatus.delivered.asStr := by
  cases phases id with
  | unseen absent unkept first => simp [unkept, first]
  | outgoing detailed version stored unkept first => simp [unkept, first]
  | waiting detailed version body nonce ciphertext stored delivered kept sealed first =>
    refine ⟨fun _ => ⟨⟨body, first⟩, _, stored.row, ?_⟩, fun _ => by rw [kept]; rfl⟩
    rw [← delivered]
    rfl
  | finished detailed version body stored closed unkept first =>
    refine ⟨fun kept => absurd kept (by rw [unkept]; decide), ?_⟩
    rintro ⟨-, row, found, status⟩
    rw [stored.row] at found
    cases found
    have decoded := congrArg HandoffRow.decodeStatus (show detailed.handoff.status.asStr = _ from status)
    rw [HandoffRow.decode_status_as_str, HandoffRow.decode_status_as_str] at decoded
    rw [Except.ok.inj decoded] at closed
    cases closed

theorem body_returned_once (id : HandoffId) : (run.bodiesReturned id).length ≤ 1 ∧
      ∀ body ∈ run.bodiesReturned id, run.firstRecorded id = some (some body) := by
  cases phases id with
  | unseen _ _ _ unread => simp [unread]
  | outgoing _ _ _ _ _ unread => simp [unread]
  | waiting _ _ _ _ _ _ _ _ _ _ unread => simp [unread]
  | finished _ _ body _ _ _ first once =>
    rcases once with unread | read
    · simp [unread]
    · simp [read, first]

theorem row_reloads (id : HandoffId) (row : HandoffRow) (found : run.tables.handoffs id = some row) :
    ∃ detailed, row = HandoffRow.ofHandoff detailed row.version ∧ detailed.handoff.Built ∧
      (HandoffRow.Identified detailed → run.tables.find id = .ok (some detailed)) := by
  obtain ⟨detailed, version, stored⟩ := HandoffPhase.held phases id row found
  have written := stored.row
  rw [found] at written
  cases written
  refine ⟨detailed, rfl, stored.built, fun identified => ?_⟩
  have decoded := (HandoffRow.decode_row detailed stored.built version stored.positive ⟨detailed, version⟩).mpr ⟨identified, rfl⟩
  simp only [HandoffTables.find, HandoffTables.load, found, decoded]
  rfl

theorem late_consumption {call : HandoffStoreCall} {id : HandoffId} {occurredAt : UtcMillis}
    (asked : call.request = .apply id (.consume target occurredAt)) {version : Int}
    (stored : StoredAs run.tables id detailed version) (late : detailed.handoff.fields.expiresAt ≤ occurredAt) :
    (∀ read body, (perform cryptography run.tables call).2 ≠ .ok (.consumed read body)) ∧
      (call.outage = none → HandoffRow.Identified detailed → detailed.handoff.fields.targetInstanceId = target →
        detailed.handoff.status = .delivered →
          let expired := { detailed.handoff with status := .expired, resolvedAt := some occurredAt }
          let committed := perform cryptography run.tables call
          committed.2 = .error .expired ∧ committed.1.packages id = none ∧
            committed.1.handoffs id = some (HandoffRow.ofHandoff ⟨expired, detailed.details⟩ (version + 1))) := by
  constructor
  · intro read body answered
    have step := perform_steps cryptography run.tables (HandoffPhase.held phases) call
    cases committed : perform cryptography run.tables call with
    | mk after answer =>
      rw [committed] at step answered
      cases answered
      cases step with
      | unmoved _ _ _ _ _ quiet => rcases quiet with same | same <;> cases same
      | moved _ _ _ _ _ _ _ _ _ quiet => rcases quiet with same | same <;> cases same
      | read other held next _ _ _ _ _ requested kept _ early =>
        rw [asked] at requested
        cases requested
        have rows := Option.some.inj (stored.row.symm.trans kept.row)
        have expiry := Int.ofNat.inj (congrArg HandoffRow.expiresAt rows)
        rw [UtcMillis.lt_iff, ← expiry] at early
        exact Nat.not_lt_of_le late early
  · intro up identified targeted delivered expired committed
    have decoded := (HandoffRow.decode_row detailed stored.built version stored.positive ⟨detailed, version⟩).mpr ⟨identified, rfl⟩
    have loaded : run.tables.loadOr id .notFound = .ok ⟨detailed, version⟩ := by
      rw [HandoffTables.loadOr, stored.row]
      exact decoded
    have closed := expire_run detailed.handoff occurredAt delivered late
    have advances := ContextHandoff.run_advances expired (.expire occurredAt) closed
    have wrote := HandoffTables.update_held stored (advances.built stored.built) rfl
    have attempted : attempt cryptography run.tables call =
        .ok (run.tables.move id ⟨expired, detailed.details⟩ (version + 1), .error .expired) := by
      unfold attempt
      rw [asked]
      refine (bind_ok ..).mpr ⟨_, loaded, (bind_ok ..).mpr ⟨(), (ensure_ok ..).mpr targeted, ?_⟩⟩
      simp only [delivered, if_pos late]
      refine (bind_ok ..).mpr ⟨_, (transit_ok ..).mpr closed, (bind_ok ..).mpr ⟨_, wrote, ?_⟩⟩
      rw [closes_move run.tables id ⟨expired, detailed.details⟩ rfl, ← stored.named]
      rfl
    have done : committed = (run.tables.move id ⟨expired, detailed.details⟩ (version + 1), .error .expired) := by
      simp [committed, perform, up, attempted]
    obtain ⟨row, package⟩ := HandoffPhase.move_here run.tables id ⟨expired, detailed.details⟩ (version + 1)
    rw [done]
    exact ⟨rfl, package, row⟩

theorem failed_call_keeps (call : HandoffStoreCall) (failure : HandoffStoreFailure)
    (failed : (perform cryptography run.tables call).2 = .error failure) : (perform cryptography run.tables call).1 = run.tables ∨
      ∃ id target occurredAt detailed version, call.request = .apply id (.consume target occurredAt) ∧
        StoredAs run.tables id detailed version ∧ detailed.handoff.fields.targetInstanceId = target ∧
        detailed.handoff.status = .delivered ∧ detailed.handoff.fields.expiresAt ≤ occurredAt := by
  have step := perform_steps cryptography run.tables (HandoffPhase.held phases) call
  cases committed : perform cryptography run.tables call with
  | mk after answer =>
    rw [committed] at step failed
    cases failed
    cases step with
    | refused => exact .inl rfl
    | expired id detailed next version target occurredAt asked stored _ targeted delivered late =>
      exact .inr ⟨id, target, occurredAt, detailed, version, asked, stored, targeted, delivered, late⟩

end HandoffStoreRun

namespace SqliteHandoffStore

open HandoffStoreRun

-- One-shot delivery over any run of calls. Two things the calls do not do: a late
-- consumption closes only a delivered handoff that is its own, and a row whose
-- identifiers are not of version 7 is never read back.
theorem handoffs_are_one_shot (cryptography : HandoffCryptography) (opens : cryptography.RoundTrips)
    (made : List HandoffStoreCall) : let run := calls cryptography made
    (∀ id, (run.tables.packages id).isSome = true ↔ (∃ body, run.firstRecorded id = some (some body)) ∧
        ∃ row, run.tables.handoffs id = some row ∧ row.status = HandoffStatus.delivered.asStr) ∧
    (∀ id, (run.bodiesReturned id).length ≤ 1 ∧ ∀ body ∈ run.bodiesReturned id, run.firstRecorded id = some (some body)) ∧
    (∀ call id target occurredAt detailed version, call.request = .apply id (.consume target occurredAt) →
      StoredAs run.tables id detailed version → detailed.handoff.fields.expiresAt ≤ occurredAt →
        (∀ read body, (perform cryptography run.tables call).2 ≠ .ok (.consumed read body)) ∧
          (call.outage = none → HandoffRow.Identified detailed → detailed.handoff.fields.targetInstanceId = target →
            detailed.handoff.status = .delivered →
              let expired := { detailed.handoff with status := .expired, resolvedAt := some occurredAt }
              let committed := perform cryptography run.tables call
              committed.2 = .error .expired ∧ committed.1.packages id = none ∧
                committed.1.handoffs id = some (HandoffRow.ofHandoff ⟨expired, detailed.details⟩ (version + 1)))) ∧
    (∀ call failure, (perform cryptography run.tables call).2 = .error failure →
      (perform cryptography run.tables call).1 = run.tables ∨
        ∃ id target occurredAt detailed version, call.request = .apply id (.consume target occurredAt) ∧
          StoredAs run.tables id detailed version ∧ detailed.handoff.fields.targetInstanceId = target ∧
          detailed.handoff.status = .delivered ∧ detailed.handoff.fields.expiresAt ≤ occurredAt) ∧
    ∀ id row, run.tables.handoffs id = some row →
      ∃ detailed, row = HandoffRow.ofHandoff detailed row.version ∧ detailed.handoff.Built ∧
        (HandoffRow.Identified detailed → run.tables.find id = .ok (some detailed)) := by
  intro run
  have phases := calls_phase opens made
  exact ⟨package_waits cryptography run phases, body_returned_once cryptography run phases,
    fun call id target occurredAt detailed version asked =>
      late_consumption cryptography run phases asked,
    failed_call_keeps cryptography run phases,
    row_reloads cryptography run phases⟩

def sampleUuid (number : Nat) : Nat := 528905046081400263933952 + number

def sampleHandoffFields (uuid : Nat → Nat) : ContextHandoffFields where
  id := ⟨uuid 1⟩
  requesterAgentId := ⟨uuid 2⟩
  requesterInstanceId := ⟨uuid 3⟩
  targetAgentId := ⟨uuid 4⟩
  targetInstanceId := ⟨uuid 5⟩
  contentId := ⟨uuid 6⟩
  proposedAt := 100
  expiresAt := 200

def sampleHandoffDetails (uuid : Nat → Nat) : HandoffDetails where
  source :=
    { roomId := ⟨"!room:example", example_room_valid⟩
      eventId := ⟨"$event", example_event_valid⟩
      messageId := ⟨uuid 7⟩
      actor := { agentId := ⟨uuid 2⟩, instanceId := ⟨uuid 3⟩, provenance := .human } }
  digest := ⟨0xca978112ca1bbdcafac231b39a23dc4da786eff8147c4f72b9807785afee48bb⟩
  byteLength := ⟨1, one_byte_positive, one_byte_bounded⟩
  mediaType := ⟨"text/plain", plain_text_supported⟩
  permissions := ⟨[.readText], read_text_rising, read_text_nonempty⟩
  purpose := .inspect
  riskFlags := ⟨[], no_flags_rising, no_flags_bounded⟩

def sampleHandoff (uuid : Nat → Nat) (ops : List ContextOp) : BuiltHandoff where
  detailed :=
    { handoff := runAll ContextOp.perform
        { fields := sampleHandoffFields uuid
          status := .proposed
          approvedByPrincipalId := none
          approvedAt := none
          deliveredAt := none
          consumedAt := none
          resolvedAt := none
          failureCode := none } ops
      details := sampleHandoffDetails uuid }
  built := ⟨sampleHandoffFields uuid, _, ops, rfl, rfl⟩

def sampleDelivered : BuiltHandoff :=
  sampleHandoff sampleUuid [.approve ⟨sampleUuid 8⟩ 110, .markDelivered 120]

def sampleCiphertext : List UInt8 := [25, 210, 234, 223, 87, 26, 10, 60, 224, 63, 167, 22, 125, 231, 98, 55, 194]

def sampleCryptography : HandoffCryptography where
  encrypt nonce associatedData plaintext :=
    if nonce = List.replicate 24 0 ∧ associatedData = HandoffPackageCipher.associatedData sampleDelivered.detailed ∧
      plaintext = [97] then some sampleCiphertext else none
  decrypt nonce associatedData ciphertext :=
    if nonce = List.replicate 24 0 ∧ associatedData = HandoffPackageCipher.associatedData sampleDelivered.detailed ∧
      ciphertext = sampleCiphertext then some [97] else none
  sha256 bytes := if bytes = [97] then 0xca978112ca1bbdcafac231b39a23dc4da786eff8147c4f72b9807785afee48bb else 0

theorem sample_round_trips : sampleCryptography.RoundTrips := by
  intro nonce associatedData plaintext ciphertext sealed
  simp only [sampleCryptography] at sealed ⊢
  split at sealed
  · rename_i input
    cases sealed
    rw [if_pos ⟨input.1, input.2.1, rfl⟩, input.2.2]
  · cases sealed

def sampleAccept : HandoffStoreCall where
  request := .acceptIncoming sampleDelivered ⟨⟨sampleUuid 1⟩, [97]⟩
  nonce := some (List.replicate 24 0)
  outage := none

def sampleConsume (uuid : Nat → Nat) (occurredAt : UtcMillis) : HandoffStoreCall where
  request := .apply ⟨uuid 1⟩ (.consume ⟨uuid 5⟩ occurredAt)
  nonce := none
  outage := none

theorem sample_read_once :
    ((calls sampleCryptography [sampleAccept, sampleConsume sampleUuid 150, sampleConsume sampleUuid 160]).bodiesReturned
      ⟨sampleUuid 1⟩).length ≤ 1 :=
  ((handoffs_are_one_shot sampleCryptography sample_round_trips _).2.1 _).1

-- A proposal consumed after its expiry stays a proposal, and a row with
-- identifiers of another version cannot be read.
theorem late_proposal_stays : let proposed : HandoffStoreCall := ⟨.recordOutgoing (sampleHandoff sampleUuid []), none, none⟩
    let run := calls sampleCryptography [proposed, sampleConsume sampleUuid 200]
    let other := calls sampleCryptography [⟨.recordOutgoing (sampleHandoff id []), none, none⟩]
    (run.tables.handoffs ⟨sampleUuid 1⟩).map HandoffRow.status = some HandoffStatus.proposed.asStr ∧
      run.trace.map Prod.snd = [.ok (.recorded (.created (sampleHandoff sampleUuid []).detailed)), .error .alreadyResolved] ∧
      (other.tables.handoffs ⟨1⟩).isSome = true ∧ other.tables.find ⟨1⟩ = .error .corrupt := by
  decide

end SqliteHandoffStore

end AgentRoom
