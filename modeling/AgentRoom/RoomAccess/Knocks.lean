import AgentRoom.Domain.Failures
import AgentRoom.Library.Runs

namespace AgentRoom.RoomAccess

open Library

def maxWaitingAgentKnocks : Nat := 5

inductive PrivateRoomAgentKnockStatus where
  | waiting
  | admitted
  | declined
deriving DecidableEq

structure KnockRow where
  agentId : AgentId
  status : PrivateRoomAgentKnockStatus
  knockedAt : UtcMillis
  expiresAt : UtcMillis
  decidedAt : Option UtcMillis
  decidedBy : Option PrincipalId

-- The knocks on one room. An Agent is live when it is active and no disabled network Agent.
structure KnockRoom where
  stored : Bool
  knocks : List KnockRow
  live : AgentId → Bool

structure KnockAttempt where
  agentId : AgentId
  now : UtcMillis
  expiresAt : UtcMillis
  maxWaiting : Nat

inductive PrivateRoomAgentKnockOutcome where
  | waiting (record : KnockRow)
  | declined (record : KnockRow)
  | roomFull (retryAt : UtcMillis)

namespace KnockRoom

variable (room : KnockRoom)

def findKnock (agentId : AgentId) : Option KnockRow := room.knocks.find? (·.agentId = agentId)

def waiting (among : AgentId → Bool) (now : UtcMillis) : List KnockRow :=
  room.knocks.filter fun row => among row.agentId ∧ row.status = .waiting ∧ now.value < row.expiresAt.value ∧ room.live row.agentId

def upsert (record : KnockRow) : KnockRoom := { room with knocks := room.knocks.filter (·.agentId ≠ record.agentId) ++ [record] }

-- One transaction under the lock of the room: the row it has written is the one it reads again.
def recordKnock (attempt : KnockAttempt) : Except RepositoryErrorKind (KnockRoom × PrivateRoomAgentKnockOutcome) := do
  ensure .notFound (room.stored = true)
  match (room.findKnock attempt.agentId).filter (·.status = .declined) with
  | some record => return (room, .declined record)
  | none => do
    let waiting := room.waiting (· ≠ attempt.agentId) attempt.now
    if attempt.maxWaiting ≤ waiting.length then
      return (room, .roomFull (.ofNat ((waiting.map (·.expiresAt.value)).min?.getD attempt.expiresAt.value)))
    else do
      ensure .constraint (attempt.now.value < attempt.expiresAt.value)
      let record := ⟨attempt.agentId, .waiting, attempt.now, attempt.expiresAt, none, none⟩
      return (room.upsert record, .waiting record)

def decideKnock (agentId : AgentId) (status : PrivateRoomAgentKnockStatus) (decidedBy : PrincipalId) (now : UtcMillis) :
    Except RepositoryErrorKind (KnockRoom × Bool) := do
  ensure .constraint (status ≠ .waiting)
  let hit (row : KnockRow) : Bool := row.agentId = agentId ∧ row.status = .waiting
  let decided (row : KnockRow) : KnockRow := { row with
    status
    decidedAt := some (if row.knockedAt.value ≤ now.value then now else row.knockedAt)
    decidedBy := some decidedBy }
  return ({ room with knocks := room.knocks.map fun row => if hit row then decided row else row }, room.knocks.any hit)

def settle {α : Type} : Except RepositoryErrorKind (KnockRoom × α) → KnockRoom
  | .ok (next, _) => next
  | .error _ => room

end KnockRoom

inductive KnockEvent where
  | knock (agentId : AgentId) (now expiresAt : UtcMillis)
  | decide (agentId : AgentId) (status : PrivateRoomAgentKnockStatus) (decidedBy : PrincipalId) (now : UtcMillis)
  | retired (live : AgentId → Bool)

structure KnockScene where
  room : KnockRoom
  now : UtcMillis

variable (maxWaiting : Nat)

def knockAttempt (agentId : AgentId) (now expiresAt : UtcMillis) : KnockAttempt := ⟨agentId, now, expiresAt, maxWaiting⟩

-- One transaction after the other, at times that do not go back; no Agent becomes live again.
def KnockStep (scene : KnockScene) : KnockEvent → KnockScene → Prop
  | .knock agentId now expiresAt, next => scene.now.value ≤ now.value ∧
    next = ⟨scene.room.settle (scene.room.recordKnock (knockAttempt maxWaiting agentId now expiresAt)), now⟩
  | .decide agentId status decidedBy now, next => scene.now.value ≤ now.value ∧
    next = ⟨scene.room.settle (scene.room.decideKnock agentId status decidedBy now), now⟩
  | .retired live, next => (∀ agentId, live agentId = true → scene.room.live agentId = true) ∧
    next = ⟨{ scene.room with live }, scene.now⟩

def KnockEvent.isKnock : KnockEvent → Bool
  | .knock .. => true
  | _ => false

section

variable {maxWaiting} {room next : KnockRoom} {attempt : KnockAttempt} {scene after : KnockScene}

theorem waiting_sooner (room : KnockRoom) (among : AgentId → Bool) (sooner : early.value ≤ late.value) :
    (room.waiting among late).length ≤ (room.waiting among early).length := by
  rw [KnockRoom.waiting, KnockRoom.waiting, ← List.countP_eq_length_filter, ← List.countP_eq_length_filter]
  refine List.countP_mono_left fun row _ => ?_
  simp only [decide_eq_true_eq]
  rintro ⟨member, status, unexpired, live⟩
  exact ⟨member, status, Nat.lt_of_le_of_lt sooner unexpired, live⟩

-- A knock is written, or nothing is, and then a full room names its earliest knock.
theorem knock_cases (room : KnockRoom) (attempt : KnockAttempt) :
    (room.settle (room.recordKnock attempt) = room ∧ ∀ next retryAt, room.recordKnock attempt = .ok (next, .roomFull retryAt) →
      attempt.maxWaiting ≤ (room.waiting (· ≠ attempt.agentId) attempt.now).length ∧
        retryAt = .ofNat (((room.waiting (· ≠ attempt.agentId) attempt.now).map (·.expiresAt.value)).min?.getD
          attempt.expiresAt.value)) ∨
      ∃ record, record.agentId = attempt.agentId ∧ (∀ row, room.findKnock attempt.agentId = some row → row.status ≠ .declined) ∧
        (room.waiting (· ≠ attempt.agentId) attempt.now).length < attempt.maxWaiting ∧
        room.recordKnock attempt = .ok (room.upsert record, .waiting record) := by
  cases records : room.recordKnock attempt with
  | error kind => exact .inl ⟨rfl, nofun⟩
  | ok done =>
    obtain ⟨_, _, rest⟩ := unbind records
    cases found : (room.findKnock attempt.agentId).filter (·.status = .declined) with
    | some record =>
      rw [found] at rest
      cases rest
      exact .inl ⟨rfl, nofun⟩
    | none =>
      simp only [found] at rest
      split at rest
      · next full =>
        cases rest
        refine .inl ⟨rfl, fun _ _ refused => ?_⟩
        cases refused
        exact ⟨full, rfl⟩
      · next free =>
        obtain ⟨_, _, built⟩ := unbind rest
        cases built
        exact .inr ⟨_, rfl, by simpa [Option.filter_eq_none_iff] using found, Nat.not_le.mp free, rfl⟩

theorem settled_decision (room : KnockRoom) (agentId : AgentId) (status : PrivateRoomAgentKnockStatus) (decidedBy : PrincipalId)
    (now : UtcMillis) : ∃ rewrite : KnockRow → KnockRow,
      room.settle (room.decideKnock agentId status decidedBy now) = { room with knocks := room.knocks.map rewrite } ∧
      ∀ row, rewrite row = row ∨ (row.status = .waiting ∧ (rewrite row).status ≠ .waiting ∧ (rewrite row).agentId = row.agentId) := by
  cases decides : room.decideKnock agentId status decidedBy now with
  | error kind => exact ⟨id, by simp [KnockRoom.settle], fun row => .inl rfl⟩
  | ok done =>
    obtain ⟨_, allowed, built⟩ := unbind decides
    rw [ensure_ok] at allowed
    cases built
    refine ⟨_, rfl, fun row => ?_⟩
    dsimp only
    split
    · next hits => exact .inr ⟨(of_decide_eq_true hits).2, allowed, rfl⟩
    · exact .inl rfl

theorem quiet_waiting (step : KnockStep maxWaiting scene event after) (quiet : event.isKnock = false) (among : AgentId → Bool) (now : UtcMillis) :
    (after.room.waiting among now).length ≤ (scene.room.waiting among now).length := by
  simp only [KnockRoom.waiting, ← List.countP_eq_length_filter]
  cases event with
  | knock agentId now expiresAt => cases quiet
  | decide agentId status decidedBy decidedAt =>
    obtain ⟨_, rfl⟩ := step
    obtain ⟨rewrite, built, each⟩ := settled_decision scene.room agentId status decidedBy decidedAt
    rw [built, List.countP_map]
    refine List.countP_mono_left fun row _ => ?_
    rcases each row with same | ⟨_, ended, _⟩
    · simp [same]
    · simp [ended]
  | retired live =>
    obtain ⟨fewer, rfl⟩ := step
    refine List.countP_mono_left fun row _ => ?_
    simp only [decide_eq_true_eq]
    exact fun ⟨member, status, unexpired, alive⟩ => ⟨member, status, unexpired, fewer _ alive⟩

theorem quiet_run (run : Runs (KnockStep maxWaiting) scene events after) (quiet : ∀ event ∈ events, event.isKnock = false)
    (among : AgentId → Bool) (now : UtcMillis) :
    (after.room.waiting among now).length ≤ (scene.room.waiting among now).length := by
  induction events generalizing scene with
  | nil => exact run ▸ Nat.le_refl _
  | cons event rest ih =>
    obtain ⟨middle, step, later⟩ := run
    exact Nat.le_trans (ih later fun event listed => quiet event (List.mem_cons_of_mem _ listed))
      (quiet_waiting step (quiet event List.mem_cons_self) among now)

theorem full_until (some' : 0 < maxWaiting) (bounded : (room.waiting (fun _ => true) now).length ≤ maxWaiting)
    (full : room.recordKnock (knockAttempt maxWaiting agentId now expiresAt) = .ok (next, .roomFull retryAt)) :
    (room.waiting (· ≠ agentId) retryAt).length < maxWaiting := by
  rcases knock_cases room (knockAttempt maxWaiting agentId now expiresAt) with ⟨_, named⟩ | ⟨_, _, _, _, records⟩
  case inr => cases records.symm.trans full
  obtain ⟨full, earliest⟩ : maxWaiting ≤ (room.waiting (· ≠ agentId) now).length ∧ _ := named next retryAt full
  cases least : ((room.waiting (· ≠ agentId) now).map (·.expiresAt.value)).min? with
  | none =>
    rw [List.min?_eq_none_iff, List.map_eq_nil_iff] at least
    rw [least] at full
    exact absurd full (Nat.not_le.mpr some')
  | some first =>
    obtain ⟨row, listed, rfl⟩ := List.mem_map.mp (List.min?_eq_some_iff.mp least).1
    have ended : row.expiresAt.value = retryAt.value := by
      rw [earliest]
      change _ = min (((room.waiting (· ≠ agentId) now).map (·.expiresAt.value)).min?.getD expiresAt.value) i64Max
      rw [least]
      exact (Nat.min_eq_left row.expiresAt.fits).symm
    obtain ⟨stored, waits⟩ := List.mem_filter.mp listed
    obtain ⟨_, status, unexpired, live⟩ := of_decide_eq_true waits
    rw [ended] at unexpired
    have rest : room.waiting (· ≠ agentId) retryAt =
        (room.waiting (fun _ => true) now).filter fun row => row.agentId ≠ agentId ∧ retryAt.value < row.expiresAt.value := by
      rw [KnockRoom.waiting, KnockRoom.waiting, List.filter_filter]
      refine List.filter_congr fun other _ => ?_
      grind
    rw [rest]
    refine Nat.lt_of_lt_of_le (List.length_filter_lt_length_iff_exists.mpr ⟨row, ?_, ?_⟩) bounded
    · exact List.mem_filter.mpr ⟨stored, by simp [status, ended, unexpired, live]⟩
    · simp [ended]

theorem upsert_waiting (room : KnockRoom) (record : KnockRow) (now : UtcMillis) :
    ((room.upsert record).waiting (fun _ => true) now).length ≤ (room.waiting (· ≠ record.agentId) now).length + 1 := by
  rw [KnockRoom.waiting, KnockRoom.upsert, List.filter_append, List.length_append, List.filter_filter]
  refine Nat.add_le_add (Nat.le_of_eq (congrArg List.length ?_)) (List.length_filter_le _ [record])
  exact List.filter_congr fun row _ => by simp [Bool.and_comm]

theorem upsert_find (apart : agentId ≠ record.agentId) : (room.upsert record).findKnock agentId = room.findKnock agentId := by
  have others : (room.knocks.filter (·.agentId ≠ record.agentId)).find? (·.agentId = agentId) = room.findKnock agentId := by
    rw [List.find?_filter, KnockRoom.findKnock]
    congr 1
    funext row
    by_cases mine : row.agentId = agentId <;> simp [mine, apart]
  rw [KnockRoom.findKnock, KnockRoom.upsert, List.find?_append, others]
  simp [apart.symm]

theorem waiting_bounded (step : KnockStep maxWaiting scene event after)
    (bounded : (scene.room.waiting (fun _ => true) scene.now).length ≤ maxWaiting) :
    (after.room.waiting (fun _ => true) after.now).length ≤ maxWaiting := by
  cases event with
  | knock agentId now expiresAt =>
    obtain ⟨later, rfl⟩ := step
    have bounded := Nat.le_trans (waiting_sooner scene.room (fun _ => true) later) bounded
    rcases knock_cases scene.room (knockAttempt maxWaiting agentId now expiresAt) with ⟨same, _⟩ | ⟨record, own, _, free, records⟩
    · rw [same]
      exact bounded
    · rw [records]
      exact Nat.le_trans (upsert_waiting ..) (own ▸ free)
  | decide agentId status decidedBy decidedAt =>
    obtain ⟨later, built⟩ := id step
    exact Nat.le_trans (waiting_sooner _ _ (by rw [built]; exact later)) (Nat.le_trans (quiet_waiting step rfl _ _) bounded)
  | retired live =>
    obtain ⟨_, built⟩ := id step
    exact Nat.le_trans (waiting_sooner _ _ (by rw [built])) (Nat.le_trans (quiet_waiting step rfl _ _) bounded)

theorem declined_stays (step : KnockStep maxWaiting scene event after) (final : row.status = .declined)
    (declined : scene.room.findKnock agentId = some row) : after.room.findKnock agentId = some row := by
  cases event with
  | knock other now expiresAt =>
    obtain ⟨_, rfl⟩ := step
    rcases knock_cases scene.room (knockAttempt maxWaiting other now expiresAt) with ⟨same, _⟩ | ⟨record, own, undecided, _, records⟩
    · rw [same]
      exact declined
    · rw [records]
      refine (upsert_find fun same => ?_).trans declined
      exact undecided row (own ▸ same ▸ declined) final
  | decide other status decidedBy decidedAt =>
    obtain ⟨_, rfl⟩ := step
    obtain ⟨rewrite, built, each⟩ := settled_decision scene.room other status decidedBy decidedAt
    have kept (row : KnockRow) : (rewrite row).agentId = row.agentId := by
      rcases each row with same | ⟨_, _, own⟩
      · rw [same]
      · exact own
    have same : rewrite row = row := (each row).resolve_right fun open_ => by simp [final] at open_
    rw [built, KnockRoom.findKnock, List.find?_map]
    simp only [Function.comp_def, kept]
    rw [show scene.room.knocks.find? (·.agentId = agentId) = some row from declined, Option.map_some, same]
  | retired live =>
    obtain ⟨_, rfl⟩ := step
    exact declined

structure KnocksInOrder (maxWaiting : Nat) (scene : KnockScene) : Prop where
  bounded : ∀ now, scene.now.value ≤ now.value → (scene.room.waiting (fun _ => true) now).length ≤ maxWaiting
  final : ∀ agentId row, scene.room.findKnock agentId = some row → row.status = .declined →
    ∀ events after, Runs (KnockStep maxWaiting) scene events after → after.room.findKnock agentId = some row
  refused : ∀ attempt, (∀ record, (scene.room.recordKnock attempt).map (·.2) ≠ .ok (.waiting record)) →
    scene.room.settle (scene.room.recordKnock attempt) = scene.room
  retried : 0 < maxWaiting → ∀ agentId now expiresAt retryAt, scene.now.value ≤ now.value →
    (scene.room.recordKnock (knockAttempt maxWaiting agentId now expiresAt)).map (·.2) = .ok (.roomFull retryAt) →
    ∀ events after, (∀ event ∈ events, event.isKnock = false) → Runs (KnockStep maxWaiting) ⟨scene.room, now⟩ events after →
    ∀ expiresAt later, (after.room.recordKnock (knockAttempt maxWaiting agentId retryAt expiresAt)).map (·.2) ≠ .ok (.roomFull later)

theorem run_bounded (run : Runs (KnockStep maxWaiting) ⟨⟨stored, [], live⟩, start⟩ events scene) :
    (scene.room.waiting (fun _ => true) scene.now).length ≤ maxWaiting :=
  runs_invariant (fun scene => (scene.room.waiting (fun _ => true) scene.now).length ≤ maxWaiting)
    (fun _ _ _ bounded step => waiting_bounded step bounded) (Nat.zero_le _) run

theorem knocks_in_order (before : Runs (KnockStep maxWaiting) ⟨⟨stored, [], live⟩, start⟩ events scene) : KnocksInOrder maxWaiting scene where
  bounded := fun now later => Nat.le_trans (waiting_sooner _ _ later) (run_bounded before)
  final := by
    intro agentId row declined final events after run
    exact runs_invariant (·.room.findKnock agentId = some row) (fun _ _ _ held step => declined_stays step final held) declined run
  refused := by
    intro attempt refused
    rcases knock_cases scene.room attempt with ⟨same, _⟩ | ⟨record, _, _, _, records⟩
    · exact same
    · exact absurd (congrArg (·.map (·.2)) records) (refused record)
  retried := by
    intro some' agentId now expiresAt retryAt later full events after quiet run expiresAgain again refused
    obtain ⟨⟨next, outcome⟩, records, same⟩ := (map_ok _ _ _).mp full
    cases same
    have free := Nat.lt_of_le_of_lt (quiet_run run quiet (· ≠ agentId) retryAt)
      (full_until some' (Nat.le_trans (waiting_sooner _ _ later) (run_bounded before)) records)
    obtain ⟨⟨_, _⟩, records, same⟩ := (map_ok _ _ _).mp refused
    cases same
    rcases knock_cases after.room (knockAttempt maxWaiting agentId retryAt expiresAgain) with ⟨_, named⟩ | ⟨_, _, _, _, written⟩
    · exact Nat.not_lt.mpr (named _ _ records).1 free
    · cases written.symm.trans records

end

def knocks : List KnockEvent :=
  [.knock ⟨1⟩ 5 10, .knock ⟨2⟩ 5 11, .decide ⟨1⟩ .declined ⟨9⟩ 6, .knock ⟨1⟩ 6 12, .knock ⟨3⟩ 6 12, .knock ⟨4⟩ 6 12, .knock ⟨5⟩ 6 12,
    .knock ⟨6⟩ 6 12]

-- The first is declined and stays so, and the seventh finds the room full.
theorem first_knock_in_order : ∃ scene, KnocksInOrder maxWaitingAgentKnocks scene ∧
    (scene.room.findKnock ⟨1⟩).map (·.status) = some .declined ∧ (scene.room.waiting (fun _ => true) scene.now).length = 5 ∧
    (scene.room.recordKnock (knockAttempt maxWaitingAgentKnocks ⟨7⟩ 7 13)).map (·.2) = .ok (.roomFull 11) := by
  have run : Runs (KnockStep maxWaitingAgentKnocks) ⟨⟨true, [], fun _ => true⟩, 0⟩ knocks _ :=
    ⟨_, ⟨by decide, rfl⟩, _, ⟨by decide, rfl⟩, _, ⟨by decide, rfl⟩, _, ⟨by decide, rfl⟩, _, ⟨by decide, rfl⟩, _, ⟨by decide, rfl⟩,
      _, ⟨by decide, rfl⟩, _, ⟨by decide, rfl⟩, rfl⟩
  exact ⟨_, knocks_in_order run, rfl, rfl, rfl⟩

end AgentRoom.RoomAccess
