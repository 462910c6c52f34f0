import AgentRoom.Library.Telling
import AgentRoom.Moderation.Keeping

namespace AgentRoom.Moderation

open Library

section

variable (parseUuid : String → Option PrincipalId) (accounts : PrincipalId → Bool) (homes : String → Option MatrixRoomId)
variable (opens : Prop)

abbrev Keeps {ε α : Type} (told : α → ModerationWorld → Prop) (program : ExceptT ε (Program PortCall PortAnswer) α)
    (world : ModerationWorld) : Prop :=
  Tells (moderationRely parseUuid accounts homes opens) (MayCall parseUuid accounts homes opens) told program world

abbrev Quiet {ε α : Type} (program : ExceptT ε (Program PortCall PortAnswer) α) (world : ModerationWorld) : Prop :=
  Keeps parseUuid accounts homes opens (fun _ _ => True) program world

abbrev Lasting (holds : ModerationWorld → Prop) : Prop := (moderationRely parseUuid accounts homes opens).Lasting holds

variable {parseUuid accounts homes opens} {world : ModerationWorld}

theorem quiet_call {read : PortAnswer op → Except ε α} (free : ∀ now, MayCall parseUuid accounts homes opens op now) :
    Quiet parseUuid accounts homes opens (consult op read) world :=
  tells_nothing fun now _ _ => free now

theorem quiet_attempted {program : ExceptT δ (Program PortCall PortAnswer) α}
    (quiet : Quiet parseUuid accounts homes opens program world) :
    Quiet parseUuid accounts homes opens (attempted program : ExceptT ε (Program PortCall PortAnswer) (Except δ α)) world :=
  tells_quiet (tells_attempted quiet)

variable {start : Nat}

-- The event happened at or after this place of the log.
theorem logged_lasting {event : ModerationEvent} :
    Lasting parseUuid accounts homes opens fun world => event ∈ world.log.drop start :=
  fun _ _ _ later there => (later.log.drop start).subset there

variable (lifts : Bool) (action : ModerationAction)

theorem justified_later {later : ModerationWorld} (onward : Later world later)
    (justified : Justified world.log action) : Justified later.log action := by
  intro kind
  rcases justified kind with asked | ⟨now, looked, due⟩
  · exact .inl (asked_later onward.log asked)
  · exact .inr ⟨now, onward.log.subset looked, due⟩

variable {context : ModerationRoomContext} {rooms : List MatrixRoomId}

theorem may_effect {action : ModerationAction} (justified : lifts = true → Justified world.log action) :
    MayCall parseUuid accounts homes opens (.effect lifts place action) world := by
  cases lifts with
  | true => exact justified rfl
  | false => trivial

variable (within : start ≤ world.log.length)
include within

theorem effect_told {action : ModerationAction} (justified : lifts = true → Justified world.log action) :
    Keeps parseUuid accounts homes opens (fun _ now => .effect lifts place action ∈ now.log.drop start)
      (consult (.effect lifts place action) id : EffectProgram) world := by
  refine tells_call ?_ (fun _ => logged_lasting) ?_
  · exact fun now _ since => may_effect lifts fun lifting => justified_later action since (justified lifting)
  · intro now answer after value _ since answers _ reads
    rcases answers with ⟨rfl, _⟩ | ⟨_, error, failed⟩
    · have length : start ≤ now.log.length := Nat.le_trans within since.log.length_le
      rw [ModerationWorld.note, List.drop_append_of_le_length length]
      exact List.mem_concat_self
    · cases failed
      cases reads

theorem in_each_room_told (rooms : List MatrixRoomId) (justified : lifts = true → Justified world.log action) :
    Keeps parseUuid accounts homes opens (fun _ now => ∀ room ∈ rooms, .effect lifts (.room room) action ∈ now.log.drop start)
      (inEachRoom lifts action rooms) world := by
  induction rooms generalizing world with
  | nil => exact tells_pure fun _ _ _ room listed => by cases listed
  | cons room rest ih =>
    refine tells_then _ (effect_told lifts within justified) fun _ now sound since done => ?_
    have within' : start ≤ now.log.length := Nat.le_trans within since.log.length_le
    refine tells_weaker ?_ (tells_frame logged_lasting done
      (ih within' fun lifting => justified_later action since (justified lifting)))
    rintro _ after _ ⟨others, first⟩ other listed
    rcases List.mem_cons.mp listed with rfl | later
    · exact first
    · exact others other later

omit within

def Performed (lifts : Bool) (action : ModerationAction) (context : ModerationRoomContext) (rooms : List MatrixRoomId)
    (log : List ModerationEvent) : Prop :=
  if throughMembers context action.kind then .effect lifts .members action ∈ log
  else ∀ room ∈ rooms, .effect lifts (.room room) action ∈ log

include within

theorem carry_effects_told (justified : lifts = true → Justified world.log action) :
    Keeps parseUuid accounts homes opens (fun _ now => Performed lifts action context rooms (now.log.drop start))
      (carryEffects parseUuid lifts action context rooms) world := by
  unfold carryEffects Performed
  by_cases members : throughMembers context action.kind = true
  · simp only [members, if_true]
    cases principalReference parseUuid action.target with
    | none => exact tells_settled nofun
    | some person => exact effect_told lifts within justified
  · simp only [members]
    exact in_each_room_told lifts action within rooms justified

omit within

theorem quiet_apply_effects : Quiet parseUuid accounts homes opens (applyEffects parseUuid action context rooms) world :=
  tells_quiet (carry_effects_told false action (Nat.zero_le _) nofun)

theorem quiet_reverse_effects (justified : Justified world.log action) :
    Quiet parseUuid accounts homes opens (reverseEffects parseUuid action context rooms) world :=
  tells_quiet (carry_effects_told true action (Nat.zero_le _) fun _ => justified)

end

section

variable {homes : String → Option MatrixRoomId}
variable (world : ModerationWorld) {operation : String}

def ReadFor (id : ModerationActionId) (target : ModerationTarget) (context : ModerationRoomContext) (world : ModerationWorld) : Prop :=
  .inspected id target context.matrixRoomIds ∈ world.log ∧ context.roomKind = world.roomKind

theorem read_for_lasting (id : ModerationActionId) (target : ModerationTarget) (context : ModerationRoomContext) :
    Lasting parseUuid accounts homes opens (ReadFor id target context) :=
  fun _ _ _ later ⟨noted, kind⟩ => ⟨later.log.subset noted, kind.trans later.roomKind.symm⟩

theorem quiet_clock : Quiet parseUuid accounts homes opens clock world := quiet_call fun _ => trivial

variable {id : ModerationActionId} {target : ModerationTarget} {kind : ModerationActionKind}

theorem authorized_told : Keeps parseUuid accounts homes opens (fun context => ReadFor id target context)
      (authorizedRoomContext operation id actor target kind) world := by
  refine tells_then (fun found now => ∀ context, found = some context → ReadFor id target context now) ?_ ?_
  · refine tells_call (fun _ _ _ => trivial) ?_ ?_
    · exact fun found before after sound later read context known =>
        read_for_lasting id target context before after sound later (read context known)
    · rintro now answer after found _ _ ⟨rfl, answers⟩ _ reads context rfl
      cases answer with
      | error error => cases reads
      | ok found =>
        cases reads
        have inspected := answers context rfl
        unfold inspection at inspected
        split at inspected
        · cases inspected
        · split at inspected
          · cases inspected
          · simp only [Option.some.injEq, Prod.mk.injEq] at inspected
            exact ⟨inspected.2.1 ▸ List.mem_concat_self, inspected.1.symm⟩
  · intro found now _ _ read
    refine tells_then (fun context later => ReadFor id target context later) (tells_settled ?_) ?_
    · intro context later sound onward known
      cases found with
      | none => cases known
      | some context' =>
        cases known
        exact read_for_lasting id target context now later sound onward (read context rfl)
    · intro context later _ _ read'
      refine tells_settled fun answered last sound onward known => ?_
      split at known
      · cases known
        exact read_for_lasting id target context later last sound onward read'
      · cases known

theorem quiet_matching_case : Quiet parseUuid accounts homes opens (requireMatchingCase operation caseId target) world := by
  cases caseId with
  | none => exact tells_done
  | some id =>
    refine tells_past (quiet_call fun _ => trivial) fun found now _ _ => ?_
    exact tells_past tells_result fun _ later _ _ => tells_result

theorem search_event_told (reference : String) (rooms : List MatrixRoomId) (unavailable : Bool) :
    Keeps parseUuid accounts homes opens (fun room _ => homes reference = some room)
      (searchEvent operation reference rooms unavailable) world := by
  induction rooms generalizing world unavailable with
  | nil => exact tells_settled nofun
  | cons room rest ih =>
    refine tells_then (fun answer _ => answer = .ok true → homes reference = some room) ?_ ?_
    · refine tells_call (fun _ _ _ => trivial) (fun _ _ _ _ _ holds => holds) ?_
      rintro now answer after value _ _ ⟨seen, _⟩ _ reads found
      cases reads
      exact of_decide_eq_true (seen true found).symm
    · intro answer now _ _ known
      rcases answer with error | (_ | _)
      · exact ih now true
      · exact ih now unavailable
      · exact tells_pure fun _ _ _ => known rfl

def Reaches (homes : String → Option MatrixRoomId) (shards : List MatrixRoomId) (kind : ModerationActionKind)
    (target : ModerationTarget) (rooms : List MatrixRoomId) : Prop :=
  if kind = .hide then
    ∃ room, rooms = [room] ∧ (shards = [room] ∨ ((∀ only, shards ≠ [only]) ∧ homes target.reference = some room))
  else rooms = shards

theorem event_room_told (shards : List MatrixRoomId) (target : ModerationTarget) :
    Keeps parseUuid accounts homes opens (fun room _ => shards = [room] ∨
        ((∀ only, shards ≠ [only]) ∧ homes target.reference = some room)) (eventRoom operation shards target) world := by
  unfold eventRoom
  split
  · exact tells_pure fun _ _ _ => .inl rfl
  · rename_i several
    split
    · refine tells_weaker ?_ (search_event_told world target.reference shards false)
      exact fun room _ _ home => .inr ⟨several, home⟩
    · exact tells_settled nofun

variable {context : ModerationRoomContext}

theorem effect_rooms_told :
    Keeps parseUuid accounts homes opens (fun rooms _ => Reaches homes context.matrixRoomIds kind target rooms)
      (effectRooms operation context kind target) world := by
  unfold effectRooms
  split
  · exact tells_settled nofun
  · cases kind with
    | hide =>
      refine tells_then _ (event_room_told world context.matrixRoomIds target) fun room now _ _ reached => ?_
      exact tells_pure fun _ _ _ => ⟨room, rfl, reached⟩
    | mute | kick | ban => exact tells_pure fun _ _ _ => rfl

theorem performed_landed {context : ModerationRoomContext}
    {place : EffectPlace} (reaches : Reaches homes context.matrixRoomIds action.kind action.target rooms)
    (performed : Performed false action context rooms log)
    (applies : AppliesTo homes context.roomKind context.matrixRoomIds action place) : Landed log action place := by
  cases place with
  | members =>
    have through : throughMembers context action.kind = true := by simpa [throughMembers, AppliesTo] using applies
    exact ⟨action, by simpa [Performed, through] using performed, same_identity_refl action⟩
  | room room =>
    obtain ⟨notThrough, active, hidden⟩ := applies
    have through : throughMembers context action.kind = false := by simpa [throughMembers] using notThrough
    simp only [Performed, through] at performed
    refine ⟨action, performed room ?_, same_identity_refl action⟩
    unfold Reaches at reaches
    split at reaches
    · rename_i hides
      obtain ⟨taken, rfl, only | ⟨several, home⟩⟩ := reaches
      · rw [only] at active
        exact active
      · rcases hidden hides with only | home'
        · exact absurd only (several room)
        · rw [home] at home'
          cases home'
          exact List.mem_singleton.mpr rfl
    · exact reaches ▸ active

theorem quiet_check_members :
    Quiet parseUuid accounts homes opens (checkMembers parseUuid operation context kind target) world := by
  unfold checkMembers
  split
  · cases principalReference parseUuid target with
    | none => exact tells_result
    | some person => exact tells_past (quiet_call fun _ => trivial) fun _ now _ _ => tells_result
  · exact tells_done

theorem quiet_finalize {read : Except RepositoryErrorKind ModerationAction → Except ModerationFailure α}
    (landed : action.status = .applied → LandedWhole homes world action) :
    Quiet parseUuid accounts homes opens (consult (.finalizeAction action) read) world := by
  refine tells_nothing fun now _ since applied => ?_
  exact landed_whole_later world now since (same_identity_refl action) (landed applied)

theorem quiet_finish_applied (landed : applied = .ok () → LandedWhole homes world action) :
    Quiet parseUuid accounts homes opens (finishApplied operation action applied) world := by
  unfold finishApplied
  cases applied with
  | ok done =>
    refine tells_then (fun marked _ => ModerationAction.SameIdentity action marked) (tells_settled ?_) ?_
    · exact fun marked _ _ _ known => mark_applied_same action (map_error_read known)
    · exact fun marked now _ since same => quiet_finalize now fun _ => landed_whole_later world now since same (landed rfl)
  | error kind =>
    refine tells_then (fun marked _ => marked.status = .failed) (tells_settled ?_) fun marked now _ _ failed => ?_
    · exact fun marked _ _ _ known => mark_failed_status action (map_error_read known)
    · refine tells_past (quiet_finalize now fun applied => ?_) fun _ later _ _ => tells_result
      rw [failed] at applied
      cases applied

-- The action is on record, reserved by the rooms its inspection had read.
def ReservedBy (action : ModerationAction) (context : ModerationRoomContext) (world : ModerationWorld) : Prop :=
  (∃ early late, world.log = early ++ .reserved action.id context.matrixRoomIds :: late ∧
    .inspected action.id action.target context.matrixRoomIds ∈ early) ∧ context.roomKind = world.roomKind

theorem reserved_by_lasting : Lasting parseUuid accounts homes opens (ReservedBy action context) := by
  rintro before after _ later ⟨⟨early, late, split, noted⟩, kind⟩
  obtain ⟨more, grown⟩ := later.log
  refine ⟨⟨early, late ++ more, ?_, noted⟩, kind.trans later.roomKind.symm⟩
  rw [← grown, split, List.append_assoc, List.cons_append]

theorem quiet_land_reserved (read : ∀ action, outcome = .reserved action → ReservedBy action context world ∧
      Reaches homes context.matrixRoomIds action.kind action.target rooms) :
    Quiet parseUuid accounts homes opens (landReserved parseUuid operation context rooms outcome) world := by
  cases outcome with
  | existing action => exact tells_done
  | reserved action =>
    obtain ⟨⟨⟨early, late, split, inspected⟩, kind⟩, reaches⟩ := read action rfl
    have within : early.length + 1 ≤ world.log.length := by
      rw [split, List.length_append, List.length_cons]
      omega
    refine tells_then _ (tells_attempted (carry_effects_told false action within nofun)) fun applied now _ since performed => ?_
    refine quiet_finish_applied now fun done => ?_
    obtain ⟨more, grown⟩ := since.log
    have whole : now.log = early ++ .reserved action.id context.matrixRoomIds :: (late ++ more) := by
      rw [← grown, split, List.append_assoc, List.cons_append]
    refine ⟨early, context.matrixRoomIds, late ++ more, whole, inspected, fun place applies => ?_⟩
    have landed := performed () done
    rw [whole, List.drop_append, List.drop_eq_nil_of_le (Nat.le_succ _), Nat.add_sub_cancel_left] at landed
    rw [since.roomKind, ← kind] at applies
    exact performed_landed reaches landed applies

end

end AgentRoom.Moderation
