import AgentRoom.Library.Sequential
import AgentRoom.Moderation.Requests

namespace AgentRoom.Moderation

open Library

section

variable (parseUuid : String → Option PrincipalId)

variable {action other : ModerationAction} {log : List ModerationEvent} {place : EffectPlace}

theorem same_concern_refl (same : ModerationAction.SameIdentity other action) : sameConcern parseUuid action other = true := by
  have target : sameTarget parseUuid action.target action.target.reference = true := by
    unfold sameTarget principalReference
    split
    · rename_i person found
      split at found
      · exact decide_eq_true found
      · cases found
    · exact decide_eq_true rfl
  simp [sameConcern, same.kind, same.target, target]

theorem same_target_symm {target other : ModerationTarget} (kind : target.kind = other.kind)
    (same : sameTarget parseUuid target other.reference = true) : sameTarget parseUuid other target.reference = true := by
  unfold sameTarget at same ⊢
  cases found : principalReference parseUuid target with
  | some person =>
    rw [found] at same
    have parsed : parseUuid other.reference = some person := of_decide_eq_true same
    unfold principalReference at found ⊢
    split at found
    · rename_i principal
      rw [if_pos (kind.symm.trans principal), parsed]
      exact decide_eq_true found
    · cases found
  | none =>
    rw [found] at same
    have text : target.reference = other.reference := of_decide_eq_true same
    have none' : principalReference parseUuid other = none := by
      unfold principalReference at found ⊢
      rw [← kind, ← text]
      exact found
    rw [none']
    exact decide_eq_true text.symm

theorem same_concern_symm (same : sameConcern parseUuid action other = true) : sameConcern parseUuid other action = true := by
  simp only [sameConcern, Bool.and_eq_true, decide_eq_true_eq] at same ⊢
  obtain ⟨⟨kind, targetKind⟩, target⟩ := same
  exact ⟨⟨kind.symm, targetKind.symm⟩, same_target_symm parseUuid targetKind target⟩

def LastEffect (log : List ModerationEvent) (place : EffectPlace) (action : ModerationAction) (before : List ModerationEvent)
    (lifts : Bool) (other : ModerationAction) : Prop :=
  ∃ after, log = before ++ .effect lifts place other :: after ∧ sameConcern parseUuid action other = true ∧
    ∀ lifts' other', .effect lifts' place other' ∈ after → sameConcern parseUuid action other' = false

def concernedThere (place : EffectPlace) (action : ModerationAction) : ModerationEvent → Bool
  | .effect _ place' other => decide (place' = place) && sameConcern parseUuid action other
  | _ => false

theorem landed_last_effect
    (landed : Landed log action place) : ∃ before lifts other, LastEffect parseUuid log place action before lifts other := by
  obtain ⟨made, done, same⟩ := landed
  have concerned : concernedThere parseUuid place action (.effect false place made) = true := by
    simp [concernedThere, same_concern_refl parseUuid same]
  obtain ⟨before, entry, after, split, mine, none'⟩ := last_split (concernedThere parseUuid place action) log ⟨_, done, concerned⟩
  cases entry with
  | effect lifts place' other =>
    obtain ⟨here, concern⟩ := (Bool.and_eq_true ..).mp mine
    cases of_decide_eq_true here
    refine ⟨before, lifts, other, after, split, concern, fun lifts' other' later => ?_⟩
    simpa [concernedThere] using none' _ later
  | inspected | reserved | asked | looked | recorded | carriedRead | published => cases mine

theorem last_effect_unique {before before' : List ModerationEvent} {other' : ModerationAction}
    (last : LastEffect parseUuid log place action before lifts other)
    (last' : LastEffect parseUuid log place action before' lifts' other') : lifts = lifts' := by
  obtain ⟨after, split, concern, none'⟩ := last
  obtain ⟨after', split', concern', none''⟩ := last'
  rcases List.append_eq_append_iff.mp (split.symm.trans split') with ⟨between, _, tail⟩ | ⟨between, _, tail⟩
  · rcases List.cons_eq_append_iff.mp tail with ⟨_, same⟩ | ⟨rest, _, later⟩
    · cases same
      rfl
    · have there : .effect lifts' place other' ∈ after := by
        rw [later]
        exact List.mem_append_cons_self
      exact absurd concern' (by simp [none' _ _ there])
  · rcases List.cons_eq_append_iff.mp tail with ⟨_, same⟩ | ⟨rest, _, later⟩
    · cases same
      rfl
    · have there : .effect lifts place other ∈ after' := by
        rw [later]
        exact List.mem_append_cons_self
      exact absurd concern (by simp [none'' _ _ there])

end

section

variable (parseUuid : String → Option PrincipalId) (accounts : PrincipalId → Bool) (homes : String → Option MatrixRoomId)

def Fresh (world : ModerationWorld) : Prop := world.ledger = [] ∧ world.log = []

variable {other : ModerationAction}

theorem fresh_sound {opens : Prop} (fresh : Fresh world) : Sound parseUuid accounts homes world opens := by
  obtain ⟨ledger, log⟩ := fresh
  constructor
  · simp [ledger]
  · intro id
    simp [log, ModerationWorld.find, ledger]
  · simp [log]
  · simp [ledger]
  · rw [log]
    exact each_up_to_nil _
  · rw [log]
    exact each_up_to_nil _
  · rw [log]
    exact each_since_nil _
  · rw [log]
    exact each_up_to_nil _
  · simp [log]

variable {parseUuid accounts homes}

theorem standing_landed (sound : Sound parseUuid accounts homes world opens)
    (there : row ∈ world.ledger) (effective : row.action.isEffectiveAt world.now = true) :
    .recorded row.action.id ∈ world.log ∧ LandedWhole homes world row.action := by
  simp only [ModerationAction.isEffectiveAt, Bool.and_eq_true, beq_iff_eq] at effective
  have recorded := (sound.recorded row.action.id).mpr ⟨row, sound.listed row there, .inl effective.1⟩
  exact ⟨recorded, sound.landed row there recorded⟩

theorem shards_read {id : ModerationActionId} {rooms : List MatrixRoomId} (sound : Sound parseUuid accounts homes world False)
    (inspected : .inspected id target rooms ∈ world.log) : world.shards.Perm rooms := by
  obtain ⟨early, late, split⟩ := List.append_of_mem inspected
  obtain ⟨more, shards, opened⟩ := sound.shards early _ late rooms split rfl
  cases more with
  | nil => rwa [List.append_nil] at shards
  | cons room rest =>
    obtain ⟨lease, published⟩ := opened room List.mem_cons_self
    refine absurd ?_ (sound.closed not_false lease room)
    rw [split]
    exact List.mem_append_right _ (List.mem_cons_of_mem _ published)

theorem applies_among {shards rooms : List MatrixRoomId} (same : shards.Perm rooms)
    (applies : AppliesTo homes roomKind shards action place) : AppliesTo homes roomKind rooms action place := by
  cases place with
  | members => exact applies
  | room room =>
    obtain ⟨apart, there, hides⟩ := applies
    refine ⟨apart, same.subset there, fun hide => (hides hide).imp_left ?_⟩
    rintro rfl
    exact List.singleton_perm.mp same |>.symm

-- The action was not on record when another one's expiry looked at the ledger.
def LookedTooEarly (before : List ModerationEvent) (action other : ModerationAction) : Prop :=
  other.id ≠ action.id ∧ ∃ earlier now between, before = earlier ++ .looked other now :: between ∧ other.isDueAt now = true ∧
    .recorded action.id ∉ earlier

theorem due_not_effective {action : ModerationAction} (same : ModerationAction.SameIdentity action other)
    (past : due ≤ now) (isDue : other.isDueAt due = true) : action.isEffectiveAt now = false := by
  simp only [ModerationAction.isDueAt, Bool.and_eq_true] at isDue
  obtain ⟨expiresAt, expires, over'⟩ := (Option.any_eq_true ..).mp isDue.2
  have late : ¬ now < expiresAt := (UtcMillis.not_lt_iff now expiresAt).mpr (UtcMillis.le_trans _ _ _ (of_decide_eq_true over') past)
  simp [ModerationAction.isEffectiveAt, same.expiresAt, expires, late]

theorem lift_explained (sound : Sound parseUuid accounts homes world opens)
    (there : row ∈ world.ledger) (kind : row.action.kind = .ban ∨ row.action.kind = .hide)
    (effective : row.action.isEffectiveAt world.now = true) {place : EffectPlace} (last : LastEffect parseUuid world.log place row.action before true other) :
    Asked before other ∨ LookedTooEarly before row.action other := by
  obtain ⟨after, split, concern, _⟩ := last
  have sameKind : row.action.kind = other.kind := by
    simp only [sameConcern, Bool.and_eq_true, decide_eq_true_eq] at concern
    exact concern.1.1
  rcases sound.lifted before _ after other split rfl (sameKind ▸ kind) with asked | ⟨now, looked, due⟩
  · exact .inl asked
  · obtain ⟨earlier, between, split'⟩ := List.append_of_mem looked
    have whole : world.log = earlier ++ .looked other now :: (between ++ .effect true place other :: after) := by
      rw [split, split', List.append_assoc, List.cons_append]
    obtain ⟨⟨known, held, same⟩, past, calledOff⟩ := sound.looked earlier _ _ (other, now) whole rfl
    have apart : other.id ≠ row.action.id := by
      intro equal
      have mine : known = row := by
        rw [equal, sound.listed row there] at held
        exact (Option.some.inj held).symm
      subst mine
      rw [due_not_effective same past due] at effective
      cases effective
    refine .inr ⟨apart, earlier, now, between, split', due, fun recorded => ?_⟩
    obtain ⟨row', found, ended⟩ := calledOff _ recorded
    cases found.symm.trans (sound.listed row there)
    exact effective_not_ended effective past (ended (Ne.symm apart) (same_concern_symm parseUuid concern))

end

section

variable (parseUuid : String → Option PrincipalId) (accounts : PrincipalId → Bool) (homes : String → Option MatrixRoomId)

def BansStand (world : ModerationWorld) : Prop :=
  ∀ row ∈ world.ledger, (row.action.kind = .ban ∨ row.action.kind = .hide) → row.action.isEffectiveAt world.now = true →
    ∀ place, AppliesTo homes world.roomKind world.shards row.action place →
      ∃ before other, LastEffect parseUuid world.log place row.action before false other

def bannedPerson (reference : String) : Option PrincipalId := if reference = "p-2" then some ⟨2⟩ else none

def banRequest (id : Nat) : ModerationRequest :=
  .apply {
    actor := ⟨⟨1⟩, 1000, true⟩, actionId := ⟨id⟩, caseId := none, kind := .ban, target := ⟨.principal, "p-2"⟩, reason := .spam
    expiresAt := none, impactAcknowledged := true }

def reverseFirst : ModerationRequest := .reverse ⟨⟨⟨1⟩, 1000, true⟩, ⟨1⟩, true⟩

def hallCatalog : Lobby.RoomCatalog := ⟨⟨1⟩, .publicLobby, some "hall", none, some "!space", .publicVisibility, .active⟩

theorem empty_fits : 0 ≤ Lobby.RoomCapacity.standard.hard := Nat.zero_le _

def hallRoom (id : Nat) (place : MatrixRoomId) : Lobby.RoomInstance := ⟨id, ⟨1⟩, place, none, .standard, 0, .active, empty_fits⟩

def hall (rooms : List Lobby.RoomInstance) : ModerationWorld :=
  ⟨10, ⟨1⟩, .publicLobby, ⟨⟨[hallCatalog], rooms, [], [], fun _ _ => true⟩, [], [], []⟩, [], [], []⟩

def oneAfterTheOther {κ : Type} (requests : List κ) : List (Turn κ) :=
  requests.flatMap fun request => .join request :: List.replicate 12 (.proceed 0)

def firstBan : ModerationAction := ⟨⟨1⟩, none, ⟨1⟩, .ban, ⟨.principal, "p-2"⟩, .spam, 10, none, .applied, none, none⟩

-- A homeserver that does not lift anything in the second room.
def stubborn (world : ModerationWorld) : (call : PortCall) → PortAnswer call × ModerationWorld
  | .effect true (.room "!second") _ => (.error .timeout, world)
  | call => oblige bannedPerson (fun _ => true) (fun _ => none) "!new" world call

theorem stubborn_answers (world : ModerationWorld) (call : PortCall) : PortAnswers bannedPerson (fun _ => true) (fun _ => none) world call
    (stubborn world call).1 (stubborn world call).2 := by
  unfold stubborn
  split
  · exact .inr ⟨rfl, _, rfl⟩
  · exact oblige_answers bannedPerson (fun _ => true) (fun _ => none) "!new" world call

def partWay : Scene ModerationWorld ModerationRequest PortCall PortAnswer Unit :=
  (oneAfterTheOther [banRequest 1, reverseFirst]).foldl (rehearse stubborn (moderate bannedPerson))
    (.opening (hall [hallRoom 7 "!lobby", hallRoom 8 "!second"]))

theorem part_way_run : ∃ taken, Runs (Turns (moderationEnvironment bannedPerson (fun _ => true) (fun _ => none)) (moderate bannedPerson))
    (.opening (hall [hallRoom 7 "!lobby", hallRoom 8 "!second"])) taken partWay :=
  rehearsed_run _ _ stubborn_answers _ _

theorem part_way_lifted : LastEffect bannedPerson partWay.world.log (.room "!lobby") firstBan
    (partWay.world.log.take 7) true firstBan :=
  ⟨[], by decide, by decide, fun _ _ => nofun⟩

def twiceBanned : Scene ModerationWorld ModerationRequest PortCall PortAnswer Unit :=
  (oneAfterTheOther [banRequest 1, banRequest 2, reverseFirst]).foldl
    (rehearse (oblige bannedPerson (fun _ => true) (fun _ => none) "!new") (moderate bannedPerson)) (.opening (hall [hallRoom 7 "!lobby"]))

def secondBan : ModerationAction := { firstBan with id := ⟨2⟩ }

theorem twice_banned_run : ∃ taken, Runs (Turns (moderationEnvironment bannedPerson (fun _ => true) (fun _ => none)) (moderate bannedPerson))
    (.opening (hall [hallRoom 7 "!lobby"])) taken twiceBanned :=
  rehearsed_run _ _ (oblige_answers bannedPerson (fun _ => true) (fun _ => none) "!new") _ _

end

end AgentRoom.Moderation
