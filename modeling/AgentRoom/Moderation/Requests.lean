import AgentRoom.Moderation.Following

namespace AgentRoom.Moderation

open Library

section

variable {parseUuid : String → Option PrincipalId} {accounts : PrincipalId → Bool} {homes : String → Option MatrixRoomId}
variable {opens : Prop} (world : ModerationWorld) {operation : String}

variable {id : ModerationActionId}

theorem from_repository_ok (ok : fromRepository operation answer = .ok value) : answer = .ok value :=
  map_error_read ok

theorem reserve_told {context : ModerationRoomContext} (action : ModerationAction) (pending : action.status = .pending)
    (inspected : ReadFor action.id action.target context world) :
    Keeps parseUuid accounts homes opens (fun outcome now => ∀ landing, outcome = .reserved landing →
        landing = action ∧ ReservedBy action context now)
      (consult (.reserveAction action context.matrixRoomIds) (fromRepository operation) :
        ModerationProgram ModerationActionReservationOutcome) world := by
  refine tells_call (fun _ _ _ => pending) ?_ ?_
  · intro outcome before after sound later told landing reserved
    obtain ⟨same, kept⟩ := told landing reserved
    exact ⟨same, reserved_by_lasting before after sound later kept⟩
  intro now answer after outcome sound since answers _ reads landing reserved
  have answered := from_repository_ok reads
  subst reserved
  change Reserves now action context.matrixRoomIds answer after at answers
  unfold Reserves at answers
  split at answers
  · rcases answers with ⟨rfl, possible⟩ | ⟨_, error, failed⟩
    · cases possible _ answered
      obtain ⟨there, kind⟩ := read_for_lasting action.id action.target context world now sound since inspected
      exact ⟨rfl, ⟨now.log, [], rfl, there⟩, kind⟩
    · rw [failed] at answered
      cases answered
  · cases (answers.2 _ answered).1

theorem quiet_apply_action {request : ApplyModerationAction} : Quiet parseUuid accounts homes opens (applyAction parseUuid request) world := by
  refine tells_past (quiet_clock world) fun now first _ _ => ?_
  refine tells_past tells_result fun _ second _ _ => ?_
  refine tells_then _ (authorized_told second) fun context third _ _ inspected => ?_
  have lasting : Lasting parseUuid accounts homes opens (ReadFor request.actionId request.target context) := read_for_lasting _ _ _
  refine tells_holding lasting inspected (quiet_matching_case third) fun _ fourth inspected _ => ?_
  refine tells_holding lasting inspected (effect_rooms_told fourth) fun rooms fifth inspected reaches => ?_
  refine tells_holding lasting inspected (quiet_check_members fifth) fun _ sixth inspected _ => ?_
  refine tells_holding lasting inspected (tells_settled fun action _ _ _ known => reserve_fields (map_error_read known))
    fun action seventh inspected fields => ?_
  obtain ⟨id, kind, target, pending⟩ := fields
  refine tells_then _ (reserve_told seventh action pending (id ▸ target ▸ inspected)) fun outcome last _ _ reserved => ?_
  refine quiet_land_reserved last ?_
  rintro landing rfl
  obtain ⟨rfl, kept⟩ := reserved landing rfl
  rw [kind, target]
  exact ⟨kept, reaches⟩

theorem quiet_reverse_failed {action : ModerationAction} :
    Quiet parseUuid accounts homes opens (reverseFailed operation action : ModerationProgram α) world :=
  tells_past (quiet_call fun _ => trivial) fun _ _ _ _ => tells_result

theorem quiet_ended_meanwhile : Quiet parseUuid accounts homes opens (endedMeanwhile operation id error) world := by
  unfold endedMeanwhile
  split
  · exact tells_past (quiet_call fun _ => trivial) fun _ _ _ _ => tells_result
  · exact tells_result

theorem quiet_record_reversed {action : ModerationAction} :
    Quiet parseUuid accounts homes opens (recordReversed operation action) world := by
  refine tells_past (quiet_clock world) fun now first _ _ => ?_
  refine tells_then (fun ended _ => ended.status = .reversed) (tells_settled ?_) fun ended second _ _ reversed => ?_
  · exact fun ended _ _ _ known => reverse_status action (map_error_read known)
  · refine tells_past (quiet_finalize second fun applied => ?_) fun answer third _ _ => ?_
    · rw [reversed] at applied
      cases applied
    · cases answer with
      | ok recorded => exact tells_done
      | error error => exact quiet_ended_meanwhile third

theorem mute_justified {action : ModerationAction} (mute : action.kind = .mute) : Justified log action := by
  rintro (ban | hide)
  · rw [mute] at ban
    cases ban
  · rw [mute] at hide
    cases hide

section

variable {action : ModerationAction} (mute : action.kind = .mute)

theorem quiet_mute_standing : Quiet parseUuid accounts homes opens (muteStanding operation action) world := by
  refine tells_past (quiet_call fun _ => trivial) fun found _ _ _ => ?_
  cases found with
  | none => exact tells_done
  | some room => exact tells_past (quiet_call fun _ => trivial) fun _ _ _ _ => tells_done

include mute

theorem quiet_follow_mute_course :
    Quiet parseUuid accounts homes opens (followMuteCourse parseUuid course action standing) world := by
  cases course with
  | keepMuted effective => exact quiet_apply_effects effective
  | lift => exact quiet_reverse_effects action (mute_justified mute)
  | unsettled | leaveAlone => exact tells_done

theorem quiet_follow_when_reversing :
    Quiet parseUuid accounts homes opens (followWhenReversing parseUuid operation course action standing) world := by
  refine tells_past (quiet_attempted (quiet_follow_mute_course world mute)) ?_
  intro followed now _ _
  cases followed with
  | ok done => exact tells_done
  | error kind => exact quiet_reverse_failed now

theorem quiet_follow_again {found : Option ModerationMuteStanding}
    {now : UtcMillis} : Quiet parseUuid accounts homes opens (followAgain parseUuid operation before course found action now) world := by
  unfold followAgain
  split
  · exact tells_done
  · cases found with
    | none => exact tells_done
    | some standing => exact quiet_follow_when_reversing world mute

theorem quiet_reverse_mute_locked : Quiet parseUuid accounts homes opens (reverseMuteLocked parseUuid operation action) world := by
  refine tells_past (quiet_clock world) fun now first _ _ => ?_
  refine tells_past (quiet_mute_standing first) fun found second _ _ => ?_
  refine tells_past tells_result fun standing third _ _ => ?_
  refine tells_past tells_result fun _ fourth _ _ => ?_
  refine tells_past (quiet_follow_when_reversing fourth mute) fun _ fifth _ _ => ?_
  refine tells_past (quiet_mute_standing fifth) fun again sixth _ _ => ?_
  refine tells_past (quiet_follow_again sixth mute) fun _ seventh _ _ => ?_
  exact quiet_record_reversed seventh

omit mute

theorem quiet_with_mute_lock (quiet : Quiet parseUuid accounts homes opens program world) :
    Quiet parseUuid accounts homes opens (withMuteLock action program) world := by
  refine tells_past (quiet_attempted quiet) fun outcome now _ _ => ?_
  exact tells_past (quiet_call fun _ => trivial) fun _ later _ _ => tells_result

include mute

theorem quiet_reverse_mute : Quiet parseUuid accounts homes opens (reverseMute parseUuid operation action) world := by
  refine tells_past (quiet_call fun _ => trivial) fun locked now _ _ => ?_
  cases locked with
  | true => exact quiet_with_mute_lock now (quiet_reverse_mute_locked now mute)
  | false => exact tells_result

end

theorem quiet_reverse_standing {action : ModerationAction} (justified : Justified world.log action) :
    Quiet parseUuid accounts homes opens (reverseStanding parseUuid operation action context) world := by
  refine tells_past (tells_quiet (effect_rooms_told world)) fun rooms first _ since => ?_
  refine tells_past (quiet_attempted (quiet_reverse_effects action
    (justified_later action since justified))) fun reversed second _ _ => ?_
  cases reversed with
  | ok done => exact quiet_record_reversed second
  | error kind => exact quiet_reverse_failed second

theorem quiet_reverse_found {action : ModerationAction} (asked : Asked world.log action) :
    Quiet parseUuid accounts homes opens (reverseFound parseUuid operation actor action) world := by
  unfold reverseFound
  split
  · exact tells_done
  · refine tells_past (tells_quiet (authorized_told world)) fun context now _ since => ?_
    split
    · rename_i mute
      exact quiet_reverse_mute now mute
    · exact quiet_reverse_standing now fun _ => .inl (asked_later since.log asked)

theorem find_action_told :
    Keeps parseUuid accounts homes opens (fun found now => ∀ action, found = some action → Asked now.log action)
      (consult (.findAction id) (fromRepository operation) : ModerationProgram (Option ModerationAction)) world := by
  refine tells_call (fun _ _ _ => trivial) ?_ ?_
  · exact fun found before after _ later asked action known => asked_later later.log (asked action known)
  · rintro now answer after found _ _ ⟨seen, built⟩ _ reads action rfl
    have there := seen _ (from_repository_ok reads)
    cases row : now.find id with
    | none =>
      rw [row] at there
      cases there
    | some row' =>
      rw [row] at there built
      cases there
      cases built
      exact ⟨row'.action, List.mem_concat_self, rfl⟩

theorem quiet_reverse_action {request : ReverseModerationAction} :
    Quiet parseUuid accounts homes opens (reverseAction parseUuid request) world := by
  refine tells_past (quiet_clock world) fun now first _ _ => ?_
  refine tells_past tells_result fun _ second _ _ => ?_
  refine tells_then _ (find_action_told second) fun found third _ _ asked => ?_
  refine tells_then (fun action now => Asked now.log action) (tells_settled ?_) fun action fourth _ _ asked' => ?_
  · intro action later _ onward known
    cases found with
    | none => cases known
    | some action' =>
      cases known
      exact asked_later onward.log (asked action rfl)
  · exact quiet_reverse_found fourth asked'

theorem quiet_record_expired {action : ModerationAction} :
    Quiet parseUuid accounts homes opens (recordExpired operation action dueAt) world := by
  refine tells_past (quiet_clock world) fun now first _ _ => ?_
  refine tells_then (fun ended _ => ended.status = .reversed) (tells_settled ?_) fun ended second _ _ reversed => ?_
  · exact fun ended _ _ _ known => expire_status action (map_error_read known)
  · refine tells_past (quiet_finalize second fun applied => ?_) fun answer third _ _ => tells_result
    rw [reversed] at applied
    cases applied

theorem quiet_room_scope {action : ModerationAction} :
    Quiet parseUuid accounts homes opens (roomScope operation action room) world := by
  unfold roomScope
  split
  · exact tells_done
  · rename_i context _
    refine tells_past (quiet_attempted (tells_quiet (effect_rooms_told world))) ?_
    exact fun rooms now _ _ => tells_done

-- There is something to lift only when the ledger was looked at.
def LookedFirst (action : ModerationAction) (now : UtcMillis) (scope : Scope) (world : ModerationWorld) : Prop :=
  ∀ context rooms, scope = .rooms context rooms → .looked action now ∈ world.log

theorem look_told {action : ModerationAction} {now : UtcMillis}
    (may : ∀ later, Sound parseUuid accounts homes later opens → Later world later → Known later action ∧ now ≤ later.now) :
    Keeps parseUuid accounts homes opens (fun other later => other = false → .looked action now ∈ later.log)
      (consult (.hasOtherEffectiveAction action now) (fromRepository operation) : ModerationProgram Bool) world := by
  refine tells_call may ?_ ?_
  · exact fun other before after _ later looked nothing => later.log.subset (looked nothing)
  · rintro before answer after other _ _ ⟨_, built⟩ _ reads rfl
    rw [built, if_pos (from_repository_ok reads)]
    exact List.mem_concat_self

theorem expiry_scope_told {action : ModerationAction} {now : UtcMillis}
    (may : ∀ later, Sound parseUuid accounts homes later opens → Later world later → Known later action ∧ now ≤ later.now) :
    Keeps parseUuid accounts homes opens (LookedFirst action now) (expiryScope operation action now) world := by
  unfold expiryScope
  split
  · exact tells_pure fun _ _ _ _ _ => nofun
  · refine tells_then _ (look_told world may) fun other first _ _ looked => ?_
    cases other with
    | true => exact tells_pure fun _ _ _ _ _ => nofun
    | false =>
      have lasting : Lasting parseUuid accounts homes opens (.looked action now ∈ ·.log) :=
        fun _ _ _ onward there => onward.log.subset there
      refine tells_holding lasting (looked rfl) (quiet_call fun _ => trivial) fun room second there _ => ?_
      refine tells_weaker ?_ (tells_frame lasting there (quiet_room_scope second))
      exact fun _ _ _ told _ _ _ => told.2

theorem quiet_expire_scoped {action : ModerationAction} {now : UtcMillis} (due : action.isDueAt now = true)
    (looked : LookedFirst action now scope world) :
    Quiet parseUuid accounts homes opens (expireScoped parseUuid operation action now scope) world := by
  cases scope with
  | rooms context rooms =>
    have justified : Justified world.log action := fun _ => .inr ⟨now, looked context rooms rfl, due⟩
    refine tells_past (quiet_attempted (quiet_reverse_effects action justified)) ?_
    intro reversed first _ _
    cases reversed with
    | ok done => exact quiet_record_expired first
    | error kind => exact tells_done
  | nothing => exact quiet_record_expired world
  | unreadable => exact tells_done

section

variable (action : ModerationAction) (mute : action.kind = .mute) (now : UtcMillis)

include mute

theorem quiet_expire_mute_course :
    Quiet parseUuid accounts homes opens (expireMuteCourse parseUuid operation action now standing course) world := by
  refine tells_past (quiet_attempted (quiet_follow_mute_course world mute)) ?_
  intro followed first _ _
  cases followed with
  | error kind => exact tells_done
  | ok done =>
    refine tells_past (quiet_mute_standing first) fun again second _ _ => ?_
    split
    · exact quiet_record_expired second
    · exact tells_done

theorem quiet_expire_mute_locked : Quiet parseUuid accounts homes opens (expireMuteLocked parseUuid operation action now) world := by
  refine tells_past (quiet_mute_standing world) fun found first _ _ => ?_
  cases found with
  | none => exact quiet_record_expired first
  | some standing =>
    dsimp only
    split
    · exact tells_done
    · exact quiet_record_expired first
    · exact quiet_expire_mute_course first action mute now

theorem quiet_expire_mute : Quiet parseUuid accounts homes opens (expireMute parseUuid operation action now) world := by
  refine tells_past (quiet_call fun _ => trivial) fun locked first _ _ => ?_
  cases locked with
  | true => exact quiet_with_mute_lock first (quiet_expire_mute_locked first action mute now)
  | false => exact tells_done

end

theorem quiet_expire_action (action : ModerationAction) (now : UtcMillis)
    (may : ∀ later, Sound parseUuid accounts homes later opens → Later world later → Known later action ∧ now ≤ later.now) :
    Quiet parseUuid accounts homes opens (expireAction parseUuid action now) world := by
  unfold expireAction
  split
  · rename_i due
    split
    · rename_i mute
      exact quiet_expire_mute world action mute now
    · refine tells_then _ (expiry_scope_told world may) fun scope first _ _ looked => ?_
      exact quiet_expire_scoped first due looked
  · exact tells_done

theorem quiet_settle_claim (claim : ModerationExpiryClaim) (now : UtcMillis) (outcome : ModerationExpiryOutcome) (step : Step) :
    Quiet parseUuid accounts homes opens (settleClaim claim now outcome step) world := by
  cases step with
  | expired | alreadyEnded => exact tells_done
  | unsettled =>
    exact tells_past (quiet_call fun _ => trivial) fun _ first _ _ => tells_done
  | failed code down =>
    refine tells_past (quiet_call fun _ => trivial) fun rescheduled first _ _ => ?_
    refine tells_past ?_ fun _ second _ _ => tells_done
    unfold auditFirstFailure
    split
    · exact quiet_call fun _ => trivial
    · exact tells_done

theorem clock_told : Keeps parseUuid accounts homes opens (fun time now => time ≤ now.now) clock world := by
  refine tells_call (fun _ _ _ => trivial) ?_ ?_
  · exact fun time before after _ later past => UtcMillis.le_trans _ _ _ past later.now
  · rintro now answer after time _ _ ⟨rfl, rfl⟩ _ reads
    cases reads
    exact UtcMillis.le_refl _

theorem claim_told (now : UtcMillis) :
    Keeps parseUuid accounts homes opens (fun claimed later => ∀ claim, claimed = some claim → Known later claim.action)
      (consult (.claimDueAction now leaseUntil) (fromRepository operation) : ModerationProgram (Option ModerationExpiryClaim)) world := by
  refine tells_call (fun _ _ _ => trivial) ?_ ?_
  · exact fun claimed before after _ later known claim same => known_later before after later (known claim same)
  · rintro before answer after claimed sound _ answers _ reads claim rfl
    have later : Later before after := (claim_answered before after sound answers).2
    have answered := from_repository_ok reads
    rcases answers with ⟨row, there, _, _, tells⟩ | ⟨_, tells⟩
    · cases tells _ answered
      exact known_later before after later ⟨row, sound.listed row there, same_identity_refl row.action⟩
    · cases tells _ answered

theorem quiet_expire_claims (rounds : Nat) (outcome : ModerationExpiryOutcome) :
    Quiet parseUuid accounts homes opens (expireClaims parseUuid rounds outcome) world := by
  induction rounds generalizing outcome world with
  | zero => exact tells_done
  | succ rounds ih =>
    refine tells_then _ (clock_told world) fun now first _ _ past => ?_
    refine tells_then _ (claim_told first now) fun claimed second _ since known => ?_
    cases claimed with
    | none => exact tells_done
    | some claim =>
      refine tells_past (quiet_expire_action second claim.action now fun later _ onward => ?_) fun step third _ _ => ?_
      · exact ⟨known_later second later onward (known claim rfl),
          UtcMillis.le_trans _ _ _ past (later_trans _ _ _ since onward).now⟩
      · refine tells_past (quiet_settle_claim third claim now outcome step) fun settled fourth _ _ => ?_
        obtain ⟨outcome', down⟩ := settled
        dsimp only
        split
        · exact tells_done
        · exact ih fourth outcome'

end

inductive ModerationRequest where
  | apply (request : ApplyModerationAction)
  | reverse (request : ReverseModerationAction)
  | expireDueActions

def answered {ε α : Type} (program : ExceptT ε (Program PortCall PortAnswer) α) : Program PortCall PortAnswer Unit :=
  program.run.bind fun _ => .done ()

def moderate (parseUuid : String → Option PrincipalId) : ModerationRequest → Program PortCall PortAnswer Unit
  | .apply request => answered (applyAction parseUuid request)
  | .reverse request => answered (reverseAction parseUuid request)
  | .expireDueActions => answered (expireDueActions parseUuid)

section

variable {parseUuid : String → Option PrincipalId} {accounts : PrincipalId → Bool} {homes : String → Option MatrixRoomId}
variable {opens : Prop} {κ : Type} {request : κ} {origin world : ModerationWorld}

theorem answered_safe (quiet : Quiet parseUuid accounts homes opens program world) :
    (keeping parseUuid accounts homes opens κ).SafeCall request origin (answered program) world :=
  safe_bind _ _ program.run _ world quiet fun _ _ _ _ _ _ _ _ => trivial

theorem moderate_safe (asked : ModerationRequest) :
    (keeping parseUuid accounts homes opens κ).SafeCall request origin (moderate parseUuid asked) world := by
  cases asked with
  | apply applying => exact answered_safe (quiet_apply_action world)
  | reverse reversing => exact answered_safe (quiet_reverse_action world)
  | expireDueActions => exact answered_safe (quiet_expire_claims world claimsPerRound ⟨0, []⟩)

end

end AgentRoom.Moderation
