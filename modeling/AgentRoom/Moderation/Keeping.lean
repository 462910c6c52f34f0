import AgentRoom.Moderation.SoundSteps

namespace AgentRoom.Moderation

open Library Moderation.ModerationAction
open Lobby (LobbyAnswer LobbyAnswers LobbyCall LobbyWorld RoomInstance RoomProvisioningJob)

-- A shard is put on the list only with what stood carried over to it. Opening one
-- takes no place in a room.
def MayCall (parseUuid : String → Option PrincipalId) (accounts : PrincipalId → Bool) (homes : String → Option MatrixRoomId)
    (opens : Prop) : PortCall → ModerationWorld → Prop
  | .reserveAction action _, _ => action.status = .pending
  | .effect true _ action, world => Justified world.log action
  | .finalizeAction action, world => action.status = .applied → LandedWhole homes world action
  | .hasOtherEffectiveAction action now, world => Known world action ∧ now ≤ world.now
  | .lobby (.completeInstance job room _), world => opens ∧
      (openIn world.catalogId room = true → Carried parseUuid accounts world world.log job.leaseId room.matrixRoomId)
  | .lobby (.reserve _), _ | .lobby (.transition ..), _ => False
  | _, _ => True

section

variable {lobby lobby' : LobbyWorld} {catalogId : RoomCatalogId}

theorem shards_perm : (shardsOf catalogId lobby).Perm ((lobby.store.rooms.filter (openIn catalogId)).map RoomInstance.matrixRoomId) :=
  (List.perm_insertionSort _ _).map _

theorem shards_same (same : lobby'.store.rooms = lobby.store.rooms) : shardsOf catalogId lobby' = shardsOf catalogId lobby := by
  rw [shardsOf, shardsOf, same]

theorem shards_opened (more : lobby'.store.rooms = lobby.store.rooms ++ [room]) : (shardsOf catalogId lobby').Perm
    (shardsOf catalogId lobby ++ if openIn catalogId room then [room.matrixRoomId] else []) := by
  refine shards_perm.trans (List.Perm.trans ?_ (shards_perm.symm.append_right _))
  rw [more, List.filter_append, List.map_append]
  cases here : openIn catalogId room <;> simp [here]

theorem transacts_rooms {result : Except RepositoryErrorKind (α × Lobby.LobbyStore)} (transacts : Lobby.Transacts lobby result events answer lobby')
    (kept : ∀ value store, result = .ok (value, store) → store.rooms = lobby.store.rooms) : lobby'.store.rooms = lobby.store.rooms := by
  rcases transacts with ⟨value, store, made, rfl, _⟩ | ⟨rfl, _⟩
  · exact kept value store made
  · rfl

theorem claimed_rooms (claimed : lobby.store.claimRoomProvisioning claim = .ok (outcome, store)) : store.rooms = lobby.store.rooms := by
  obtain ⟨catalog, _, _, _, claims⟩ := Lobby.claim_claims lobby.store store claim claimed
  cases claims <;> rfl

theorem serving_rooms {call : LobbyCall} {answer : LobbyAnswer call}
    (may : MayCall parseUuid accounts homes opens (.lobby call) world) (other : ∀ job room now, call ≠ .completeInstance job room now)
    (answers : LobbyAnswers lobby call answer lobby') : lobby'.store.rooms = lobby.store.rooms := by
  cases call with
  | clock | attachChild | applyEffect | joinRoom | leaveRoom | standingPersonActions =>
    cases answers
    rfl
  | newId | resolveRoomAlias =>
    obtain ⟨_, rfl⟩ := answers
    rfl
  | claimProvisioning claim => exact transacts_rooms answers.1 fun _ _ claimed => claimed_rooms claimed
  | checkpointMatrixRoom job room now =>
    refine transacts_rooms answers fun _ store made => ?_
    obtain ⟨row, _, _, rfl⟩ := Lobby.checkpoint_ok _ _ job now (Lobby.without_value_ok made)
    rfl
  | completeSpace job space now =>
    refine transacts_rooms answers fun _ store made => ?_
    obtain ⟨row, catalog, _, _, _, _, _, _, rfl⟩ := Lobby.complete_space_ok _ _ job now made
    rfl
  | releaseProvisioning job code now =>
    refine transacts_rooms answers fun _ store made => ?_
    obtain ⟨row, _, rfl⟩ := Lobby.release_ok _ _ job now (Lobby.without_value_ok made)
    rfl
  | completeInstance job room now => exact absurd rfl (other job room now)
  | createRoom kind aliasLocalpart =>
    rcases answers with ⟨room, _, _, _, rfl, _⟩ | ⟨rfl, _⟩
    · rfl
    · rfl
  | reserve | transition => exact may.elim

end

section

variable {parseUuid : String → Option PrincipalId} {accounts : PrincipalId → Bool} {homes : String → Option MatrixRoomId}
variable {opens : Prop} (world next : ModerationWorld)

section

variable (sound : Sound parseUuid accounts homes world opens)
include sound

theorem sound_quiet (log : next.log = world.log) (ledger : next.ledger = world.ledger) (catalogId : next.catalogId = world.catalogId)
    (roomKind : next.roomKind = world.roomKind) (shards : next.shards.Perm world.shards) (now : world.now ≤ next.now) :
    Sound parseUuid accounts homes next opens ∧ Later world next := by
  refine sound_noted world next none sound ?_ ledger catalogId roomKind now (fun _ => nofun) ?_ (fun _ => nofun)
  · rw [log, Option.toList_none, List.append_nil]
  · rwa [Option.bind_none, Option.toList_none, List.append_nil]

theorem sound_note (other : ∀ id, event ≠ .recorded id) (hidden : openedRoom event = none)
    (fits : Fits parseUuid accounts opens world (world.note event) event) :
    Sound parseUuid accounts homes (world.note event) opens ∧ Later world (world.note event) := by
  refine sound_noted world _ (some event) sound rfl rfl rfl rfl (UtcMillis.le_refl _) ?_ ?_ ?_
  · exact fun id same => other id (Option.some.inj same)
  · rw [Option.bind_some, hidden, Option.toList_none, List.append_nil]
    exact List.Perm.refl _
  · rintro _ ⟨⟩
    exact fits

theorem sound_same : Sound parseUuid accounts homes world opens ∧ Later world world := ⟨sound, later_refl world⟩

end

theorem reserve_answered {rooms : List MatrixRoomId} (sound : Sound parseUuid accounts homes world opens)
    (pending : action.status = .pending) (answers : Reserves world action rooms answer next) :
    Sound parseUuid accounts homes next opens ∧ Later world next := by
  unfold Reserves at answers
  cases found : world.find action.id with
  | none =>
    rw [found] at answers
    rcases answers with ⟨rfl, _⟩ | ⟨rfl, _⟩
    · exact sound_reserved world rooms sound found pending
    · exact sound_same next sound
  | some row =>
    rw [found] at answers
    obtain ⟨rfl, _⟩ := answers
    exact sound_same next sound

theorem effect_answered (lifts : Bool) (place : EffectPlace) (action : ModerationAction) (answer : Except MatrixFailureKind Unit)
    (sound : Sound parseUuid accounts homes world opens) (justified : lifts = true → Justified world.log action)
    (answers : Written world (fun _ => True) (world.note (.effect lifts place action)) answer next) :
    Sound parseUuid accounts homes next opens ∧ Later world next := by
  rcases answers with ⟨rfl, _⟩ | ⟨rfl, _⟩
  · refine sound_note world sound (fun _ => nofun) rfl ?_
    cases lifts with
    | true => exact justified rfl
    | false => trivial
  · exact sound_same next sound

theorem finalized_left (written : Finalized current action (some left)) :
    SameIdentity current action ∧ SameIdentity current left ∧ left.status = action.status ∧
      ((current.status = .pending ∧ (action.status = .applied ∨ action.status = .failed)) ∨
        (current.status = .applied ∧ action.status = .reversed)) := by
  cases written with
  | written same transition => exact ⟨same, ⟨rfl, rfl, rfl, rfl, rfl, rfl, rfl, rfl⟩, rfl, transition⟩

theorem finalize_answered
    (sound : Sound parseUuid accounts homes world opens) (landed : action.status = .applied → LandedWhole homes world action)
    (answers : Finalizes world action answer next) : Sound parseUuid accounts homes next opens ∧ Later world next := by
  rcases answers with ⟨row, left, found, written, built, _⟩ | ⟨_, _, _, rfl, _⟩ | ⟨rfl, _⟩
  · obtain ⟨same, kept, status, transition⟩ := finalized_left written
    have identity : SameIdentity action left := same_identity_trans (same_identity_symm same) kept
    refine sound_changed world next ({ · with action := left }) (decide (left.status = .applied)) sound found
      ?_ ?_ ?_ ?_ ?_
    · exact fun _ _ => identity.id.symm
    · refine ⟨kept, fun ended => ?_, fun failed => ?_⟩
      · rcases transition with ⟨pending, _⟩ | ⟨applied, _⟩
        · exact absurd (ended.symm.trans pending) (by decide)
        · exact absurd (ended.symm.trans applied) (by decide)
      · rcases transition with ⟨pending, _⟩ | ⟨applied, _⟩
        · exact absurd (failed.symm.trans pending) (by decide)
        · exact absurd (failed.symm.trans applied) (by decide)
    · simpa using built
    · rcases transition with ⟨pending, applied | failed⟩ | ⟨applied, reversed⟩
      · simp [status, applied]
      · simp [status, pending, failed]
      · simp [status, applied, reversed]
    · intro applied
      have applied' : action.status = .applied := status.symm.trans (of_decide_eq_true applied)
      exact landed_whole_later world world (later_refl world) identity (landed applied')
  · exact sound_same next sound
  · exact sound_same next sound

theorem change_unfound {id : ModerationActionId} (update : LedgerRow → LedgerRow) (unfound : world.find id = none) :
    world.change id update = world := by
  have same : world.ledger.map (fun row => if row.action.id = id then update row else row) = world.ledger := by
    refine (List.map_congr_left fun row there => ?_).trans (List.map_id _)
    have apart : row.action.id ≠ id := by simpa using List.find?_eq_none.mp unfound row there
    simp [apart]
  simp [ModerationWorld.change, same]

theorem sound_rescheduled {id : ModerationActionId} (sound : Sound parseUuid accounts homes world opens)
    (same : ∀ row, (update row).action = row.action) :
    Sound parseUuid accounts homes (world.change id update) opens ∧ Later world (world.change id update) := by
  cases found : world.find id with
  | none =>
    rw [change_unfound world update found]
    exact sound_same world sound
  | some row =>
    refine sound_changed world _ update false sound found ?_ ?_ rfl ?_ nofun
    · exact fun row named => (congrArg ModerationAction.id (same row)).trans named
    · rw [same row]
      exact row_later_refl
    · simp [same row]

theorem claim_answered {leaseUntil : UtcMillis}
    (sound : Sound parseUuid accounts homes world opens) (answers : Claims world now leaseUntil answer next) :
    Sound parseUuid accounts homes next opens ∧ Later world next := by
  rcases answers with ⟨row, _, _, rfl, _⟩ | ⟨rfl, _⟩
  · exact sound_rescheduled world sound fun _ => rfl
  · exact sound_same next sound

theorem rescheduled_action {reschedule : ModerationExpiryReschedule} (row : LedgerRow) :
    (rescheduled claim reschedule row).action = row.action := by
  unfold rescheduled
  split
  · cases reschedule <;> rfl
  · rfl

section

variable (sound : Sound parseUuid accounts homes world opens)
include sound

theorem look_calls_off
    (nothing : hasOtherEffective parseUuid world action now = false) : CalledOff parseUuid world world.log action now := by
  intro id recorded
  obtain ⟨row, found, status⟩ := (sound.recorded id).mp recorded
  obtain ⟨there, named⟩ := find_listed world found
  refine ⟨row, found, fun apart concern => ended_of_ineffective status ?_⟩
  have none' := List.any_eq_false.mp nothing row.action (List.mem_map_of_mem there)
  simpa [named, apart, concern] using none'

theorem look_answered (known : Known world action) (past : now ≤ world.now)
    (answers : Looks parseUuid world action now answer next) : Sound parseUuid accounts homes next opens ∧ Later world next := by
  obtain ⟨seen, rfl⟩ := answers
  by_cases nothing : answer = .ok false
  · rw [if_pos nothing]
    exact sound_note world sound (fun _ => nofun) rfl ⟨known, past, look_calls_off world sound (seen false nothing).symm⟩
  · rw [if_neg nothing]
    exact sound_same world sound

theorem opened_answered {job : RoomProvisioningJob} {room : RoomInstance} {at' : UtcMillis} {store : Lobby.LobbyStore}
    (may : MayCall parseUuid accounts homes opens (.lobby (.completeInstance job room at')) world)
    (done : world.lobby.store.completeInstance job room at' = .ok store) (events : List Lobby.LobbyEvent) :
    Sound parseUuid accounts homes (world.opened job room (world.lobby.wrote store events)) opens ∧
      Later world (world.opened job room (world.lobby.wrote store events)) := by
  obtain ⟨row, _, _, _, _, _, written⟩ := Lobby.complete_instance_ok _ _ job at' done
  have grown : (shardsOf world.catalogId (world.lobby.wrote store events)).Perm
      (world.shards ++ if openIn world.catalogId room then [room.matrixRoomId] else []) := by
    refine shards_opened ?_
    rw [written]
    rfl
  unfold ModerationWorld.opened
  cases here : openIn world.catalogId room with
  | true =>
    rw [here] at grown
    refine sound_noted world _ (some (.published job.leaseId room.matrixRoomId)) sound rfl rfl rfl rfl (UtcMillis.le_refl _)
      (fun _ => nofun) grown ?_
    rintro _ ⟨⟩
    exact ⟨may.1, may.2 here⟩
  | false =>
    rw [here, if_neg Bool.false_ne_true, List.append_nil] at grown
    exact sound_quiet world _ sound rfl rfl rfl rfl grown (UtcMillis.le_refl _)

theorem lobby_answered {call : LobbyCall} {answer : LobbyAnswer call} (may : MayCall parseUuid accounts homes opens (.lobby call) world)
    (answers : LobbyServes parseUuid accounts world call answer next) : Sound parseUuid accounts homes next opens ∧ Later world next := by
  cases call with
  | clock =>
    obtain ⟨_, rfl⟩ := answers
    exact sound_same next sound
  | standingPersonActions job room now =>
    by_cases ours : job.catalog.id = world.catalogId
    · simp only [LobbyServes, if_pos ours] at answers
      obtain ⟨_, rfl⟩ := answers
      exact sound_note world sound (by simp) rfl trivial
    · simp only [LobbyServes, if_neg ours] at answers
      exact answers ▸ sound_same world sound
  | applyEffect action room => exact effect_answered world next false (.room room) action answer sound (by simp) answers
  | completeInstance job room now =>
    rcases answers with ⟨store, done, rfl⟩ | ⟨rfl, _⟩
    · exact opened_answered world sound may done _
    · exact sound_same next sound
  | _ =>
    obtain ⟨lobby, served, rfl⟩ := answers
    have rooms := serving_rooms may (by simp) served
    exact sound_quiet world _ sound rfl rfl rfl rfl (List.Perm.of_eq (shards_same rooms)) (UtcMillis.le_refl _)

theorem port_answered {op : PortCall} {answer : PortAnswer op}
    (may : MayCall parseUuid accounts homes opens op world) (answers : PortAnswers parseUuid accounts homes world op answer next) :
    Sound parseUuid accounts homes next opens ∧ Later world next := by
  cases op with
  | clock =>
    obtain ⟨_, rfl⟩ := answers
    exact sound_same next sound
  | inspectRoom id actor target =>
    obtain ⟨rfl, _⟩ := answers
    exact sound_note world sound (fun _ => nofun) rfl rfl
  | findCase | checkMembers | appendAudit =>
    obtain rfl := answers
    exact sound_same _ sound
  | containsEvent | personMutes =>
    obtain ⟨_, rfl⟩ := answers
    exact sound_same next sound
  | reserveAction action rooms => exact reserve_answered world next sound may answers
  | effect lifts place action =>
    refine effect_answered world next lifts place action answer sound (fun lifting => ?_) answers
    subst lifting
    exact may
  | findAction id =>
    obtain ⟨_, built⟩ := answers
    cases found : world.find id with
    | none =>
      rw [found] at built
      cases built
      exact sound_same world sound
    | some row =>
      rw [found] at built
      cases built
      exact sound_note world sound (fun _ => nofun) rfl trivial
  | finalizeAction action => exact finalize_answered world next sound may answers
  | claimDueAction now leaseUntil => exact claim_answered world next sound answers
  | rescheduleExpiry claim reschedule =>
    rcases answers with rfl | rfl
    · exact sound_same next sound
    · exact sound_rescheduled world sound (rescheduled_action)
  | hasOtherEffectiveAction action now => exact look_answered world next sound may.1 may.2 answers
  | expiryRoom | muteRoom =>
    obtain ⟨rfl, _⟩ := answers
    exact sound_same next sound
  | tryLockMutes target =>
    rcases answers with ⟨rfl, _⟩ | ⟨rfl, _⟩
    · exact sound_quiet world _ sound rfl rfl rfl rfl (List.Perm.refl _) (UtcMillis.le_refl _)
    · exact sound_same next sound
  | releaseMutes target =>
    cases answers
    exact sound_quiet world _ sound rfl rfl rfl rfl (List.Perm.refl _) (UtcMillis.le_refl _)
  | lobby call => exact lobby_answered world next sound may answers

theorem moves_sound (moves : WorldMoves world next) : Sound parseUuid accounts homes next opens ∧ Later world next := by
  cases moves with
  | ticks now onward => exact sound_quiet world _ sound rfl rfl rfl rfl (List.Perm.refl _) onward
  | drops key => exact sound_quiet world _ sound rfl rfl rfl rfl (List.Perm.refl _) (UtcMillis.le_refl _)
  | elsewhere lobby moved open' => exact sound_quiet world _ sound rfl rfl rfl rfl open' (UtcMillis.le_refl _)

end

end

def moderationRely (parseUuid : String → Option PrincipalId) (accounts : PrincipalId → Bool) (homes : String → Option MatrixRoomId)
    (opens : Prop) : Rely (moderationEnvironment parseUuid accounts homes) where
  invariant := fun world => Sound parseUuid accounts homes world opens
  later := Later
  same := later_refl
  trans := later_trans
  moved := moves_sound

def keeping (parseUuid : String → Option PrincipalId) (accounts : PrincipalId → Bool) (homes : String → Option MatrixRoomId)
    (opens : Prop) (κ : Type) : Discipline (moderationEnvironment parseUuid accounts homes) κ Unit where
  toRely := moderationRely parseUuid accounts homes opens
  may := fun _ _ => MayCall parseUuid accounts homes opens
  promise := fun _ _ _ _ => True
  answered := fun _ _ world _ _ next sound _ may answers => port_answered world next sound may answers

end AgentRoom.Moderation
