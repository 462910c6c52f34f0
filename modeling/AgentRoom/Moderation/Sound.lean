import AgentRoom.Library.Log
import AgentRoom.Moderation.World

namespace AgentRoom.Moderation

open Library Moderation.ModerationAction
open Lobby (RoomProvisioningLeaseId)

def EndedBy (action : ModerationAction) (time : UtcMillis) : Prop :=
  action.status = .reversed ∨ ∃ expiresAt, action.expiresAt = some expiresAt ∧ expiresAt ≤ time

variable {action marked second ended first : ModerationAction} {log longer : List ModerationEvent} {now : UtcMillis}
  {place : EffectPlace}

theorem effective_not_ended {time : UtcMillis} (effective : action.isEffectiveAt now = true)
    (past : time ≤ now) : ¬ EndedBy action time := by
  simp only [isEffectiveAt, Bool.and_eq_true, beq_iff_eq] at effective
  rintro (ended | ⟨expiresAt, expires, over'⟩)
  · rw [effective.1] at ended
    cases ended
  · have before : now < expiresAt := by simpa [expires] using effective.2
    exact (UtcMillis.not_lt_iff now expiresAt).mpr (UtcMillis.le_trans _ _ _ over' past) before

theorem ended_of_ineffective {time : UtcMillis}
    (recorded : action.status = .applied ∨ action.status = .reversed) (ineffective : action.isEffectiveAt time = false) :
    EndedBy action time := by
  rcases recorded with applied | reversed
  · cases expires : action.expiresAt with
    | none => simp [isEffectiveAt, applied, expires] at ineffective
    | some expiresAt =>
      refine .inr ⟨expiresAt, expires, ?_⟩
      have notBefore : ¬ time < expiresAt := by simpa [isEffectiveAt, applied, expires] using ineffective
      exact (UtcMillis.not_lt_iff time expiresAt).mp notBefore
  · exact .inl reversed

theorem same_identity_trans (early : SameIdentity first second) (late : SameIdentity second third) : SameIdentity first third where
  id := early.id.trans late.id
  caseId := early.caseId.trans late.caseId
  actor := early.actor.trans late.actor
  kind := early.kind.trans late.kind
  target := early.target.trans late.target
  reason := early.reason.trans late.reason
  startsAt := early.startsAt.trans late.startsAt
  expiresAt := early.expiresAt.trans late.expiresAt

theorem same_identity_symm (same : SameIdentity first second) : SameIdentity second first where
  id := same.id.symm
  caseId := same.caseId.symm
  actor := same.actor.symm
  kind := same.kind.symm
  target := same.target.symm
  reason := same.reason.symm
  startsAt := same.startsAt.symm
  expiresAt := same.expiresAt.symm

section

variable (action : ModerationAction)

theorem same_identity_refl : SameIdentity action action := ⟨rfl, rfl, rfl, rfl, rfl, rfl, rfl, rfl⟩

theorem mark_applied_same (ok : action.markApplied = .ok marked) : SameIdentity action marked := by
  unfold markApplied at ok
  split at ok <;> cases ok <;> exact ⟨rfl, rfl, rfl, rfl, rfl, rfl, rfl, rfl⟩

theorem mark_failed_status (ok : action.markFailed code = .ok marked) : marked.status = .failed := by
  unfold markFailed at ok
  split at ok
  · cases ok
    rfl
  · split at ok
    · cases ok
      assumption
    · cases ok
  · cases ok
  · cases ok

theorem reverse_status (ok : action.reverse now = .ok ended) : ended.status = .reversed := by
  unfold reverse at ok
  split at ok
  · split at ok
    · cases ok
      rfl
    · cases ok
  · cases ok
    assumption
  · cases ok
  · cases ok

theorem expire_status (ok : action.expire now = .ok ended) : ended.status = .reversed := by
  unfold expire at ok
  split at ok
  · split at ok
    · cases ok
      rfl
    · cases ok
  · cases ok
    assumption
  · cases ok
  · cases ok

end

theorem reserve_fields {id : ModerationActionId} {caseId : Option ModerationCaseId} {kind : ModerationActionKind}
    {target : ModerationTarget} {reason : ModerationReason} {startsAt : UtcMillis} {expiresAt : Option UtcMillis} (ok : reserve id caseId actor kind target reason startsAt expiresAt = .ok action) :
    action.id = id ∧ action.kind = kind ∧ action.target = target ∧ action.status = .pending := by
  unfold reserve at ok
  split at ok
  · cases ok
  · split at ok
    · cases ok
    · cases ok
      exact ⟨rfl, rfl, rfl, rfl⟩

structure RowLater (earlier later : ModerationAction) : Prop where
  same : SameIdentity earlier later
  ended : earlier.status = .reversed → later.status = .reversed
  failed : earlier.status = .failed → later.status = .failed

theorem row_later_refl : RowLater action action := ⟨same_identity_refl action, id, id⟩

theorem ended_later (earlier later : ModerationAction) (time : UtcMillis) (onward : RowLater earlier later)
    (ended : EndedBy earlier time) : EndedBy later time := by
  rcases ended with reversed | ⟨expiresAt, expires, past⟩
  · exact .inl (onward.ended reversed)
  · exact .inr ⟨expiresAt, onward.same.expiresAt ▸ expires, past⟩

section

variable (parseUuid : String → Option PrincipalId) (accounts : PrincipalId → Bool) (homes : String → Option MatrixRoomId)

def AppliesTo (roomKind : RoomCatalogKind) (shards : List MatrixRoomId) (action : ModerationAction) : EffectPlace → Prop
  | .members => roomKind = .privateRoom ∧ (action.kind = .kick ∨ action.kind = .ban)
  | .room room => ¬ (roomKind = .privateRoom ∧ (action.kind = .kick ∨ action.kind = .ban)) ∧ room ∈ shards ∧
      (action.kind = .hide → shards = [room] ∨ homes action.target.reference = some room)

def Landed (log : List ModerationEvent) (action : ModerationAction) (place : EffectPlace) : Prop :=
  ∃ made, .effect false place made ∈ log ∧ SameIdentity made action

-- The rooms are those its own inspection had read when the action was reserved; it
-- landed in all of them afterwards.
def LandedWhole (world : ModerationWorld) (action : ModerationAction) : Prop :=
  ∃ early rooms late, world.log = early ++ .reserved action.id rooms :: late ∧ .inspected action.id action.target rooms ∈ early ∧
    ∀ place, AppliesTo homes world.roomKind rooms action place → Landed late action place

def Asked (log : List ModerationEvent) (action : ModerationAction) : Prop := ∃ asked, .asked asked ∈ log ∧ asked.id = action.id

-- A ban or a hide is lifted because its reversal was asked for, or because it is
-- due and the ledger was looked at.
def Justified (log : List ModerationEvent) (action : ModerationAction) : Prop :=
  (action.kind = .ban ∨ action.kind = .hide) → Asked log action ∨ ∃ now, .looked action now ∈ log ∧ action.isDueAt now = true

variable (world : ModerationWorld)

def Known (action : ModerationAction) : Prop := ∃ row, world.find action.id = some row ∧ SameIdentity row.action action

-- What a look at the ledger has made sure of: no other action stood on the target.
def CalledOff (seen : List ModerationEvent) (action : ModerationAction) (now : UtcMillis) : Prop :=
  ∀ id, .recorded id ∈ seen → ∃ row, world.find id = some row ∧
    (id ≠ action.id → sameConcern parseUuid action row.action = true → EndedBy row.action now)

-- The mutes and bans on record when they were read do not stand any more, or are
-- accounted for.
def CarriedOver (met : ModerationAction → Prop) (seen : List ModerationEvent) (time : UtcMillis) : Prop :=
  ∀ id, .recorded id ∈ seen → ∃ row, world.find id = some row ∧ ((row.action.kind = .mute ∨ row.action.kind = .ban) →
    (parseUuid row.action.target.reference).any accounts = true → EndedBy row.action time ∨ met row.action)

-- What stood was read under the same lease.
def Carried (before : List ModerationEvent) (lease : RoomProvisioningLeaseId) (room : MatrixRoomId) : Prop :=
  ∃ seen time between, before = seen ++ .carriedRead lease room time :: between ∧ time ≤ world.now ∧
    CarriedOver parseUuid accounts world (Landed world.log · (.room room)) seen time

def inspectedRooms : ModerationEvent → Option (List MatrixRoomId)
  | .inspected _ _ rooms => some rooms
  | _ => none

def liftedAction : ModerationEvent → Option ModerationAction
  | .effect true _ action => some action
  | _ => none

def lookedAt : ModerationEvent → Option (ModerationAction × UtcMillis)
  | .looked action now => some (action, now)
  | _ => none

def publishedRoom : ModerationEvent → Option (RoomProvisioningLeaseId × MatrixRoomId)
  | .published lease room => some (lease, room)
  | _ => none

-- What holds of the ledger, the shards and what was done, at every moment.
structure Sound (opens : Prop) : Prop where
  listed : ∀ row ∈ world.ledger, world.find row.action.id = some row
  recorded : ∀ id, .recorded id ∈ world.log ↔ ∃ row, world.find id = some row ∧
    (row.action.status = .applied ∨ row.action.status = .reversed)
  reserved : ∀ id rooms, .reserved id rooms ∈ world.log → ∃ row, world.find id = some row
  landed : ∀ row ∈ world.ledger, .recorded row.action.id ∈ world.log → LandedWhole homes world row.action
  lifted : EachUpTo liftedAction Justified world.log
  looked : EachUpTo lookedAt (fun before look => Known world look.1 ∧ look.2 ≤ world.now ∧
    CalledOff parseUuid world before look.1 look.2) world.log
  shards : EachSince inspectedRooms (fun rooms after => ∃ more, world.shards.Perm (rooms ++ more) ∧
    ∀ room ∈ more, ∃ lease, .published lease room ∈ after) world.log
  published : EachUpTo publishedRoom (fun before opening => Carried parseUuid accounts world before opening.1 opening.2) world.log
  closed : ¬ opens → ∀ lease room, .published lease room ∉ world.log

end

structure Later (earlier later : ModerationWorld) : Prop where
  log : earlier.log <+: later.log
  now : earlier.now ≤ later.now
  rows : ∀ id row, earlier.find id = some row → ∃ row', later.find id = some row' ∧ RowLater row.action row'.action
  catalogId : later.catalogId = earlier.catalogId
  roomKind : later.roomKind = earlier.roomKind

theorem later_refl (world : ModerationWorld) : Later world world where
  log := List.prefix_refl world.log
  now := UtcMillis.le_refl world.now
  rows := fun _ row found => ⟨row, found, row_later_refl⟩
  catalogId := rfl
  roomKind := rfl

theorem later_trans (first second third : ModerationWorld) (early : Later first second) (late : Later second third) :
    Later first third where
  log := early.log.trans late.log
  now := UtcMillis.le_trans _ _ _ early.now late.now
  rows := by
    intro id row found
    obtain ⟨middle, there, onward⟩ := early.rows id row found
    obtain ⟨last, reached, onward'⟩ := late.rows id middle there
    exact ⟨last, reached, same_identity_trans onward.same onward'.same, fun ended => onward'.ended (onward.ended ended),
      fun failed => onward'.failed (onward.failed failed)⟩
  catalogId := late.catalogId.trans early.catalogId
  roomKind := late.roomKind.trans early.roomKind

theorem landed_later (onward : log <+: longer) (landed : Landed log action place) : Landed longer action place := by
  obtain ⟨made, done, same⟩ := landed
  exact ⟨made, onward.subset done, same⟩

theorem landed_same (same : SameIdentity action other) (landed : Landed log action place) : Landed log other place := by
  obtain ⟨made, done, same'⟩ := landed
  exact ⟨made, done, same_identity_trans same' same⟩

theorem asked_later (onward : log <+: longer) (asked : Asked log action) : Asked longer action := by
  obtain ⟨found, listed, same⟩ := asked
  exact ⟨found, onward.subset listed, same⟩

section

variable {parseUuid : String → Option PrincipalId} {accounts : PrincipalId → Bool} {homes : String → Option MatrixRoomId}
variable {opens : Prop} (world next : ModerationWorld)

variable {other : ModerationAction} {time : UtcMillis} {seen : List ModerationEvent} {row : LedgerRow}

theorem find_listed {id : ModerationActionId} (found : world.find id = some row) : row ∈ world.ledger ∧ row.action.id = id :=
  ⟨List.mem_of_find?_eq_some found, by simpa using List.find?_some found⟩

theorem applies_same (same : SameIdentity action other) (applies : AppliesTo homes roomKind rooms other place) :
    AppliesTo homes roomKind rooms action place := by
  cases place <;> simpa only [AppliesTo, same.kind, same.target] using applies

theorem landed_whole_later (later : Later world next) (same : SameIdentity action other)
    (landed : LandedWhole homes world action) : LandedWhole homes next other := by
  obtain ⟨early, rooms, late, split, read, everywhere⟩ := landed
  obtain ⟨more, grown⟩ := later.log
  refine ⟨early, rooms, late ++ more, ?_, same.target ▸ same.id ▸ read, ?_⟩
  · rw [← grown, split, ← same.id, List.append_assoc, List.cons_append]
  · intro place applies
    rw [later.roomKind] at applies
    exact landed_same same (landed_later (List.prefix_append late more) (everywhere place (applies_same same applies)))

theorem known_later (later : Later world next) (known : Known world action) : Known next action := by
  obtain ⟨row, found, same⟩ := known
  obtain ⟨row', found', onward⟩ := later.rows _ row found
  exact ⟨row', found', same_identity_trans (same_identity_symm onward.same) same⟩

theorem called_off_later (later : Later world next) (calledOff : CalledOff parseUuid world seen action time) :
    CalledOff parseUuid next seen action time := by
  intro id recorded
  obtain ⟨row, found, ended⟩ := calledOff id recorded
  obtain ⟨row', found', onward⟩ := later.rows id row found
  refine ⟨row', found', fun apart concern => ended_later _ _ time onward (ended apart ?_)⟩
  simpa only [sameConcern, onward.same.kind, onward.same.target] using concern

theorem carried_over_later (later : Later world next)
    (onward : ∀ action action', SameIdentity action action' → met action → met' action')
    (carried : CarriedOver parseUuid accounts world met seen time) : CarriedOver parseUuid accounts next met' seen time := by
  intro id recorded
  obtain ⟨row, found, covered⟩ := carried id recorded
  obtain ⟨row', found', changed⟩ := later.rows id row found
  refine ⟨row', found', fun kind account => ?_⟩
  rcases covered (changed.same.kind ▸ kind) (changed.same.target ▸ account) with ended | landed
  · exact .inl (ended_later _ _ time changed ended)
  · exact .inr (onward _ _ changed.same landed)

theorem carried_later (later : Later world next) (carried : Carried parseUuid accounts world before lease room) :
    Carried parseUuid accounts next before lease room := by
  obtain ⟨seen, time, between, split, past, over'⟩ := carried
  refine ⟨seen, time, between, split, UtcMillis.le_trans _ _ _ past later.now, ?_⟩
  exact carried_over_later world next later (fun _ _ same landed => landed_same same (landed_later later.log landed)) over'

end

end AgentRoom.Moderation
