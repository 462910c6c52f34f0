import AgentRoom.Inbox.Settling

namespace AgentRoom.Inbox

section

variable (pending : List Arrival) (options : WaitOptions) (wakes : IpcMessagePreviewSummary → Bool) (index : Nat)

def Heard (pending : List Arrival) (options : WaitOptions) (index : Nat) (what : IpcMessagePreviewSummary → Prop) : Prop :=
  ∃ arrival, pending[index]? = some arrival ∧ hears options arrival = true ∧ what arrival.preview

theorem heard_mem : index ∈ (Scope.new pending options wakes).heard ↔ Heard pending options index fun _ => True := by
  simp only [Scope.new, List.mem_filter, List.mem_range, Option.any_eq_true, Heard]
  constructor
  · rintro ⟨_, arrival, there, hears⟩
    exact ⟨arrival, there, hears, trivial⟩
  · rintro ⟨arrival, there, hears, _⟩
    exact ⟨(List.getElem?_eq_some_iff.mp there).1, arrival, there, hears⟩

theorem waking_mem : index ∈ (Scope.new pending options wakes).waking ↔ Heard pending options index (wakes · = true) := by
  refine List.mem_filter.trans ((and_congr_left' (heard_mem pending options wakes index)).trans ?_)
  rw [Option.any_eq_true]
  constructor
  · rintro ⟨⟨arrival, there, hears, _⟩, other, here, woke⟩
    exact ⟨arrival, there, hears, Option.some.inj (here.symm.trans there) ▸ woke⟩
  · rintro ⟨arrival, there, hears, woke⟩
    exact ⟨⟨arrival, there, hears, trivial⟩, arrival, there, woke⟩

theorem speaker_at (there : pending[index]? = some arrival) :
    speaker pending index = some (actorMatrixId arrival.preview.actor) := congrArg (Option.map _) there

theorem waited_mem : index ∈ (Scope.new pending options wakes).waited ↔
    Heard pending options index fun preview => actorMatrixId preview.actor ∈ options.waitFor := by
  refine List.mem_filter.trans ((and_congr_left' (heard_mem pending options wakes index)).trans ?_)
  rw [List.any_eq_true]
  constructor
  · rintro ⟨⟨arrival, there, hears, _⟩, person, named, said⟩
    obtain rfl := Option.some.inj ((speaker_at _ _ there).symm.trans (of_decide_eq_true said))
    exact ⟨arrival, there, hears, named⟩
  · rintro ⟨arrival, there, hears, named⟩
    exact ⟨⟨arrival, there, hears, trivial⟩, _, named, decide_eq_true (speaker_at _ _ there)⟩

theorem arrived_mem (scope : Scope) :
    time ∈ scope.arrivedAt indices ↔ ∃ index ∈ indices, ∃ arrival, scope.pending[index]? = some arrival ∧ arrival.arrivedAtMs = time := by
  simp [Scope.arrivedAt, List.mem_filterMap, Option.map_eq_some_iff]

end

def Delivers (decision : WaitDecision) : Prop := ∃ delivery, decision = .deliver delivery

def Trigger.cap (trigger : Trigger) : Millis := saturatingAdd trigger.atMs (millis maxSettle)

section

variable {pending : List Arrival} {options : WaitOptions} {wakes : IpcMessagePreviewSummary → Bool} {typing : List Typist}
  {limit : Nat} {nowMs : Millis} {deadlineMs : Option Millis} {trigger : Trigger}

theorem settle_at_le_cap (scope : Scope) (trigger : Trigger) (stopped : Option Millis) :
    scope.settleAt trigger.atMs stopped ≤ trigger.cap := Int.min_le_right ..

theorem capped_delivers (woken : (Scope.new pending options wakes).trigger nowMs = some trigger) (capped : trigger.cap ≤ nowMs) :
    Delivers (decideWith pending options wakes typing limit nowMs deadlineMs) := by
  have settled (stopped : Option Millis) := Int.le_trans (settle_at_le_cap (Scope.new pending options wakes) trigger stopped) capped
  have past : ¬ nowMs < saturatingAdd trigger.atMs (millis maxSettle) := Int.not_lt.mpr capped
  simp only [decideWith, woken]
  split
  · exact ⟨_, rfl⟩
  · simp only [past, settled, decide_false, Bool.and_false, Bool.not_false, Bool.and_true, decide_true, if_true]
    exact ⟨_, rfl⟩

def Pends (scope : Scope) (typing : List Typist) (trigger : Trigger) (nowMs due : Millis) : Prop :=
  nowMs < due ∧ (due = trigger.cap ∨ (due = scope.settleAt trigger.atMs (scope.typing trigger.priority typing).2 ∧
      ((scope.typing trigger.priority typing).1 = false ∨ trigger.cap ≤ nowMs)))

theorem wait_cases (waits : decideWith pending options wakes typing limit nowMs deadlineMs = .wait recheck) :
    (∀ deadline ∈ deadlineMs, nowMs < deadline) ∧
      (((Scope.new pending options wakes).trigger nowMs = none ∧ recheck = (Scope.new pending options wakes).digestDue) ∨
        ∃ trigger due, (Scope.new pending options wakes).trigger nowMs = some trigger ∧
          Pends (Scope.new pending options wakes) typing trigger nowMs due ∧
            recheck = some ((deadlineMs.map (min · due)).getD due)) := by
  have open' (waiting : ¬ (deadlineMs.any fun deadline => deadline ≤ nowMs) = true) :
      ∀ deadline ∈ deadlineMs, nowMs < deadline := by
    intro deadline given
    simpa [Option.mem_def.mp given] using waiting
  cases woken : (Scope.new pending options wakes).trigger nowMs with
  | none =>
    simp only [decideWith, woken] at waits
    split at waits
    · cases waits
    · rename_i waiting
      cases waits
      exact ⟨open' waiting, .inl ⟨rfl, rfl⟩⟩
  | some trigger =>
    simp only [decideWith, woken] at waits
    split at waits
    · cases waits
    · rename_i waiting
      simp only [Bool.or_eq_true, not_or] at waiting
      split at waits
      · cases waits
      · rename_i unsettled
        cases waits
        refine ⟨open' waiting.2, .inr ⟨trigger, _, rfl, ?_, rfl⟩⟩
        split
        · rename_i typed
          exact ⟨by simpa using (Bool.and_eq_true_iff.mp typed).2, .inl rfl⟩
        · rename_i quiet
          rw [Bool.not_eq_true] at quiet
          refine ⟨by simpa [quiet] using unsettled, .inr ⟨rfl, ?_⟩⟩
          rw [Bool.and_eq_false_iff] at quiet
          exact quiet.imp id fun late => Int.not_lt.mp (of_decide_eq_false late)

theorem due_delivers (pends : Pends (Scope.new pending options wakes) typing trigger nowMs due)
    (woken : (Scope.new pending options wakes).trigger later = some trigger) (reached : due ≤ later) :
    Delivers (decideWith pending options wakes typing limit later deadlineMs) := by
  obtain ⟨early, rfl | ⟨rfl, quiet⟩⟩ := pends
  · exact capped_delivers woken reached
  · rcases quiet with quiet | late
    · simp only [decideWith, woken, quiet, Bool.false_and, Bool.not_false, Bool.and_true, decide_eq_true reached, if_true]
      split
      · exact ⟨_, rfl⟩
      · exact ⟨_, rfl⟩
    · exact capped_delivers woken (Int.le_trans late (Int.le_trans (Int.le_of_lt early) reached))

theorem overdue_delivers (given : deadlineMs = some deadline) (passed : deadline ≤ nowMs) :
    Delivers (decideWith pending options wakes typing limit nowMs deadlineMs) := by
  cases woken : (Scope.new pending options wakes).trigger nowMs with
  | none =>
    simp only [decideWith, woken, given, Option.any_some, passed, decide_true, if_true]
    exact ⟨_, rfl⟩
  | some trigger =>
    simp only [decideWith, woken, given, Option.any_some, passed, decide_true, Bool.or_true, if_true]
    exact ⟨_, rfl⟩

end

section

variable (pending : List Arrival) (options : WaitOptions) (wakes : IpcMessagePreviewSummary → Bool) (typing : List Typist)
  (limit : Nat) (nowMs : Millis) (deadlineMs : Option Millis)

def Spoke (pending : List Arrival) (waited : List Nat) (person : String) : Prop :=
  ∃ index ∈ waited, speaker pending index = some person

theorem missing_fold {people : List String} (missing : List String) : people.foldl (fun missing person =>
        if !missing.contains person && !waited.any (fun index => speaker pending index = some person)
        then missing ++ [person] else missing) missing = [] ↔
      missing = [] ∧ ∀ person ∈ people, Spoke pending waited person := by
  induction people generalizing missing with
  | nil => simp
  | cons person rest ih =>
    rw [List.foldl_cons, ih, List.forall_mem_cons]
    cases missing with
    | nil =>
      by_cases spoke : Spoke pending waited person
      · have heard : waited.any (fun index => speaker pending index = some person) = true := by
          obtain ⟨index, listed, said⟩ := spoke
          exact List.any_eq_true.mpr ⟨index, listed, by simpa using said⟩
        simp [heard, spoke]
      · have silent : waited.any (fun index => speaker pending index = some person) = false := by
          refine List.any_eq_false.mpr fun index listed => ?_
          simpa using fun said => spoke ⟨index, listed, said⟩
        simp [silent, spoke]
    | cons first others =>
      split <;> simp

theorem missing_empty : (Scope.new pending options wakes).missing = [] ↔
    ∀ person ∈ options.waitFor, Spoke pending (Scope.new pending options wakes).waited person :=
  (missing_fold pending []).trans (and_iff_right rfl)

theorem spoke_first (scope : Scope) (person : String) (spoke : Spoke scope.pending scope.waited person) : ∃ first,
    (scope.arrivedAt (scope.waited.filter fun index => speaker scope.pending index = some person)).min? = some first := by
  obtain ⟨index, waited, said⟩ := spoke
  obtain ⟨arrival, there, _⟩ := Option.map_eq_some_iff.mp said
  have arrived : arrival.arrivedAtMs ∈ scope.arrivedAt (scope.waited.filter fun index => speaker scope.pending index = some person) :=
    List.mem_filterMap.mpr ⟨index, List.mem_filter.mpr ⟨waited, by simpa using said⟩, by rw [there]; rfl⟩
  exact Option.isSome_iff_exists.mp (List.isSome_min?_of_mem arrived)

theorem replied_at_some {scope : Scope} (named : person ∈ scope.options.waitFor)
    (spoke : Spoke scope.pending scope.waited person) : ∃ replied, scope.repliedAt = some replied := by
  obtain ⟨first, least⟩ := spoke_first scope person spoke
  exact Option.isSome_iff_exists.mp (List.isSome_max?_of_mem (List.mem_filterMap.mpr ⟨person, named, least⟩))

theorem trigger_cases : 
    (∃ replied, options.waitFor ≠ [] ∧ (Scope.new pending options wakes).missing = [] ∧
      (Scope.new pending options wakes).repliedAt = some replied ∧ ∀ now, (Scope.new pending options wakes).trigger now =
        some ⟨.allReplied, replied, indexSet ((Scope.new pending options wakes).waited ++ (Scope.new pending options wakes).waking)⟩) ∨
    ((options.waitFor = [] ∨ (Scope.new pending options wakes).missing ≠ []) ∧
      ((∃ first, ((Scope.new pending options wakes).arrivedAt (Scope.new pending options wakes).waking).min? = some first ∧
        ∀ now, (Scope.new pending options wakes).trigger now = some ⟨.messages, first, (Scope.new pending options wakes).waking⟩) ∨
      ((Scope.new pending options wakes).waking = [] ∧ ∀ now, (Scope.new pending options wakes).trigger now =
        (Scope.new pending options wakes).digestDue.bind fun due => if due ≤ now then some ⟨.digest, due, []⟩ else none))) := by
  by_cases replied : options.waitFor ≠ [] ∧ (Scope.new pending options wakes).missing = []
  · obtain ⟨person, rest, shape⟩ := List.exists_cons_of_ne_nil replied.1
    have named : person ∈ (Scope.new pending options wakes).options.waitFor := by
      rw [Scope.new, shape]
      exact List.mem_cons_self
    have spoke := (missing_empty pending options wakes).mp replied.2 person named
    obtain ⟨last, found⟩ := replied_at_some named spoke
    refine .inl ⟨last, replied.1, replied.2, found, fun now => ?_⟩
    have waits : (Scope.new pending options wakes).options.waitFor ≠ [] := replied.1
    simp [Scope.trigger, waits, replied.2, found]
  · refine .inr ⟨by tauto, ?_⟩
    have unreplied : (!(Scope.new pending options wakes).options.waitFor.isEmpty &&
        (Scope.new pending options wakes).missing.isEmpty) = false := by
      rw [Bool.eq_false_iff]
      intro both
      exact replied (by simpa [Scope.new] using both)
    cases first : ((Scope.new pending options wakes).arrivedAt (Scope.new pending options wakes).waking).min? with
    | some atMs => exact Or.inl ⟨atMs, rfl, fun now => by simp only [Scope.trigger, unreplied, first]; rfl⟩
    | none =>
      refine .inr ⟨?_, fun now => ?_⟩
      · refine List.eq_nil_iff_forall_not_mem.mpr fun index woke => ?_
        obtain ⟨arrival, there, _⟩ := (waking_mem pending options wakes index).mp woke
        have arrived := (arrived_mem (Scope.new pending options wakes)).mpr ⟨index, woke, arrival, there, rfl⟩
        rw [List.min?_eq_none_iff.mp first] at arrived
        cases arrived
      · simp only [Scope.trigger, unreplied, first]
        cases (Scope.new pending options wakes).digestDue <;> rfl

theorem trigger_lasting (onward : nowMs ≤ later) (woken : (Scope.new pending options wakes).trigger nowMs = some trigger) :
    (Scope.new pending options wakes).trigger later = some trigger := by
  rcases trigger_cases pending options wakes with ⟨_, _, _, _, always⟩ | ⟨_, ⟨_, _, always⟩ | ⟨_, always⟩⟩
  · exact (always later).trans ((always nowMs).symm.trans woken)
  · exact (always later).trans ((always nowMs).symm.trans woken)
  · rw [always] at woken ⊢
    cases due : (Scope.new pending options wakes).digestDue with
    | none =>
      rw [due] at woken
      cases woken
    | some time =>
      rw [due, Option.bind_some] at woken
      split at woken
      · rename_i reached
        rw [Option.bind_some, if_pos (Int.le_trans reached onward)]
        exact woken
      · cases woken

theorem untriggered_later (later : Millis) (none' : (Scope.new pending options wakes).trigger nowMs = none) :
    (Scope.new pending options wakes).trigger later =
        (Scope.new pending options wakes).digestDue.bind (fun due => if due ≤ later then some ⟨.digest, due, []⟩ else none) ∧
      ∀ due ∈ (Scope.new pending options wakes).digestDue, nowMs < due := by
  rcases trigger_cases pending options wakes with ⟨_, _, _, _, always⟩ | ⟨_, ⟨_, _, always⟩ | ⟨_, always⟩⟩
  · rw [always] at none'
    cases none'
  · rw [always] at none'
    cases none'
  · refine ⟨always later, fun due given => ?_⟩
    rw [always, Option.mem_def.mp given, Option.bind_some] at none'
    by_contra reached
    rw [if_pos (Int.not_lt.mp reached)] at none'
    cases none'

def lookAgain (look : Millis → WaitDecision) : Nat → WaitDecision → WaitDecision
  | looks + 1, .wait (some recheckAtMs) => lookAgain look looks (look recheckAtMs)
  | _, decision => decision

theorem look_again_delivered (looks : Nat) {decision : WaitDecision} (delivers : Delivers decision) :
    Delivers (lookAgain look looks decision) := by
  obtain ⟨delivery, rfl⟩ := delivers
  cases looks with
  | zero => exact ⟨delivery, rfl⟩
  | succ looks => exact ⟨delivery, rfl⟩

theorem woken_rechecks (woken : (Scope.new pending options wakes).trigger nowMs = some trigger)
    (waits : decideWith pending options wakes typing limit nowMs deadlineMs = .wait recheck) :
    ∃ later, recheck = some later ∧ nowMs < later ∧ Delivers (decideWith pending options wakes typing limit later deadlineMs) := by
  obtain ⟨before, ⟨none', _⟩ | ⟨other, due, woken', pends, rfl⟩⟩ := wait_cases waits
  · exact absurd (none'.symm.trans woken) nofun
  · have early := pends.1
    cases deadlineMs with
    | none => exact ⟨due, rfl, early, due_delivers pends (trigger_lasting _ _ _ _ (Int.le_of_lt early) woken') (Int.le_refl _)⟩
    | some deadline =>
      have ahead := before deadline rfl
      refine ⟨min deadline due, rfl, Int.lt_min.mpr ⟨ahead, early⟩, ?_⟩
      rcases Int.le_total deadline due with sooner | later
      · exact overdue_delivers rfl (Int.le_min.mpr ⟨Int.le_refl _, sooner⟩)
      · rw [Int.min_eq_right later]
        exact due_delivers pends (trigger_lasting _ _ _ _ (Int.le_of_lt early) woken') (Int.le_refl _)

theorem waits_neither_spin_nor_stick :
    (∀ recheckAtMs, decideWith pending options wakes typing limit nowMs deadlineMs = .wait (some recheckAtMs) →
      nowMs < recheckAtMs ∧ Delivers (lookAgain (decideWith pending options wakes typing limit · deadlineMs) 2
        (.wait (some recheckAtMs)))) ∧
      (decideWith pending options wakes typing limit nowMs deadlineMs = .wait none → ∀ later, nowMs ≤ later →
        (∀ deadline ∈ deadlineMs, later < deadline) → ¬ Delivers (decideWith pending options wakes typing limit later deadlineMs)) := by
  refine ⟨fun recheckAtMs waits => ?_, fun waits later onward before => ?_⟩
  · cases woken : (Scope.new pending options wakes).trigger nowMs with
    | some trigger =>
      obtain ⟨later, same, early, delivers⟩ := woken_rechecks pending options wakes typing limit nowMs deadlineMs woken waits
      cases same
      exact ⟨early, look_again_delivered 1 delivers⟩
    | none =>
      obtain ⟨_, ⟨_, same⟩ | ⟨_, _, other, _⟩⟩ := wait_cases waits
      · obtain ⟨digested, ahead⟩ := untriggered_later pending options wakes nowMs recheckAtMs woken
        refine ⟨ahead recheckAtMs same.symm, ?_⟩
        rw [← same, Option.bind_some, if_pos (Int.le_refl _)] at digested
        cases again : decideWith pending options wakes typing limit recheckAtMs deadlineMs with
        | deliver delivery => exact ⟨delivery, by simp [lookAgain, again]⟩
        | wait recheck =>
          obtain ⟨later, rfl, _, delivers⟩ :=
            woken_rechecks pending options wakes typing limit recheckAtMs deadlineMs digested again
          obtain ⟨delivery, delivered⟩ := delivers
          exact ⟨delivery, by simp [lookAgain, again, delivered]⟩
      · exact absurd (woken.symm.trans other) nofun
  · obtain ⟨_, ⟨none', same⟩ | ⟨_, _, _, _, other⟩⟩ := wait_cases waits
    · have still := (untriggered_later pending options wakes nowMs later none').1
      rw [← same, Option.bind_none] at still
      have early : (deadlineMs.any fun deadline => deadline ≤ later) = false := by
        cases deadlineMs with
        | none => rfl
        | some deadline => simpa using before deadline rfl
      rintro ⟨delivery, delivered⟩
      simp [decideWith, still, early] at delivered
    · cases other

end

section

variable {options : WaitOptions} {wakes : IpcMessagePreviewSummary → Bool}

def Grows (earlier pending : List Arrival) : Prop :=
  ∃ fresh, pending = earlier ++ fresh ∧ ∀ old ∈ earlier, ∀ new ∈ fresh, old.arrivedAtMs ≤ new.arrivedAtMs

def Debounced (options : WaitOptions) (wakes : IpcMessagePreviewSummary → Bool) : Prop :=
  ∀ (earlier pending : List Arrival) (typing : List Typist) (limit : Nat) (nowMs : Millis) (deadlineMs : Option Millis),
    Grows earlier pending → i64Min ≤ nowMs → ∀ arrival ∈ earlier, hears options arrival = true → wakes arrival.preview = true →
      arrival.arrivedAtMs + millis maxSettle ≤ nowMs → Delivers (decideWith pending options wakes typing limit nowMs deadlineMs)

def Undelayed (options : WaitOptions) (wakes : IpcMessagePreviewSummary → Bool) : Prop :=
  options.settle = 0 ∨ ∀ arrival, hears options arrival = true → wakes arrival.preview = true →
    ∀ person ∈ options.waitFor, person = actorMatrixId arrival.preview.actor

theorem cap_reached {trigger : Trigger} {time nowMs : Millis} (within : i64Min ≤ nowMs) (triggered : trigger.atMs ≤ time)
    (late : time + millis maxSettle ≤ nowMs) : trigger.cap ≤ nowMs :=
  Int.max_le.mpr ⟨within, Int.le_trans (Int.min_le_right ..) (Int.le_trans (Int.add_le_add_right triggered _) late)⟩

theorem undelayed_debounced (undelayed : Undelayed options wakes) : Debounced options wakes := by
  rintro earlier pending typing limit nowMs deadlineMs ⟨fresh, rfl, _⟩ within arrival listed heard woke late
  obtain ⟨index, there⟩ := List.mem_iff_getElem?.mp (List.mem_append_left fresh listed)
  have waking := (waking_mem (earlier ++ fresh) options wakes index).mpr ⟨arrival, there, heard, woke⟩
  rcases trigger_cases (earlier ++ fresh) options wakes with
    ⟨replied, waits, complete, last, always⟩ | ⟨_, ⟨first, least, always⟩ | ⟨nothing, _⟩⟩
  · rcases undelayed with off | alone
    · simp only [decideWith, always, off, decide_true, Bool.true_or, if_true]
      exact ⟨_, rfl⟩
    · refine capped_delivers (always nowMs) (cap_reached within ?_ late)
      obtain ⟨person, named, least⟩ := List.mem_filterMap.mp (List.max?_mem last)
      refine (List.min?_eq_some_iff.mp least).2 _ ((arrived_mem _).mpr ⟨index, List.mem_filter.mpr ⟨?_, ?_⟩, arrival, there, rfl⟩)
      · refine (waited_mem (earlier ++ fresh) options wakes index).mpr ⟨arrival, there, heard, ?_⟩
        exact (alone arrival heard woke person named).subst (motive := (· ∈ options.waitFor)) named
      · exact decide_eq_true ((speaker_at _ _ there).trans (congrArg some (alone arrival heard woke person named).symm))
  · refine capped_delivers (always nowMs) (cap_reached within ?_ late)
    exact (List.min?_eq_some_iff.mp least).2 _ ((arrived_mem _).mpr ⟨index, waking, arrival, there, rfl⟩)
  · rw [nothing] at waking
    cases waking

theorem typed_waits {pending : List Arrival} (typing : List Typist) (nowMs : Millis) (trigger : Trigger)
    (woken : (Scope.new pending options wakes).trigger nowMs = some trigger) (settles : options.settle ≠ 0)
    (typed : ((Scope.new pending options wakes).typing trigger.priority typing).1 = true) (early : nowMs < trigger.cap) :
    ¬ Delivers (decideWith pending options wakes typing (pending.length + 1) nowMs none) := by
  have few : ¬ pending.length + 1 ≤ (Scope.new pending options wakes).heard.length := by
    have short : (Scope.new pending options wakes).heard.length ≤ (List.range pending.length).length := List.length_filter_le ..
    rw [List.length_range] at short
    omega
  have early' : nowMs < saturatingAdd trigger.atMs (millis maxSettle) := early
  rintro ⟨delivery, delivered⟩
  simp [decideWith, woken, settles, few, typed, early'] at delivered

def said (room person : String) (arrivedAtMs : Millis) : Arrival :=
  ⟨{ messageId := "", eventId := "", roomId := room, actor := .human person "" person, createdAtUnixMs := arrivedAtMs,
     title := "", summary := "" }, arrivedAtMs⟩

theorem late_replies_delay (settles : options.settle ≠ 0) (heard : hears options arrival = true)
    (woke : wakes arrival.preview = true) {person : String} (named : person ∈ options.waitFor)
    (other : person ≠ actorMatrixId arrival.preview.actor) : ¬ Debounced options wakes := by
  intro debounced
  let room := arrival.preview.roomId
  let first : Arrival := ⟨arrival.preview, 0⟩
  let replies := options.waitFor.map (said room · (millis maxSettle))
  have hearsReply (who : String) : hears options (said room who (millis maxSettle)) = true := by
    have both := Bool.and_eq_true_iff.mp heard
    exact Bool.and_eq_true_iff.mpr ⟨rfl, both.2⟩
  have reply (who : String) (asked : who ∈ options.waitFor) :
      ∃ index, ([first] ++ replies)[index]? = some (said room who (millis maxSettle)) :=
    List.mem_iff_getElem?.mp (List.mem_append_right _ (List.mem_map_of_mem asked))
  have spoken (who : String) (asked : who ∈ options.waitFor) : ∃ index ∈ (Scope.new ([first] ++ replies) options wakes).waited,
      ([first] ++ replies)[index]? = some (said room who (millis maxSettle)) := by
    obtain ⟨index, there⟩ := reply who asked
    exact ⟨index, (waited_mem _ options wakes index).mpr ⟨_, there, hearsReply who, asked⟩, there⟩
  obtain ⟨index, waited, there⟩ := spoken person named
  rcases trigger_cases ([first] ++ replies) options wakes with ⟨replied, _, _, last, always⟩ | ⟨never | missing, _⟩
  · refine typed_waits [⟨room, person, true, 0⟩] (millis maxSettle) _ (always _) settles ?_ ?_
      (debounced [first] _ _ _ _ none ⟨replies, rfl, ?_⟩ (by decide) first List.mem_cons_self heard woke (Int.le_of_eq (Int.zero_add _)))
    · refine List.any_eq_true.mpr ⟨⟨room, person, true, 0⟩, List.mem_filter.mpr ⟨List.mem_cons_self, ?_⟩, rfl⟩
      refine List.any_eq_true.mpr ⟨index, (index_set_mem _ _).mpr (List.mem_append_left _ waited), ?_⟩
      exact (Option.any_eq_true ..).mpr ⟨_, there, Bool.and_eq_true_iff.mpr ⟨decide_eq_true rfl, decide_eq_true rfl⟩⟩
    · obtain ⟨first', least⟩ := spoke_first (Scope.new ([first] ++ replies) options wakes) person ⟨index, waited, speaker_at _ _ there⟩
      have late : first' = millis maxSettle := by
        obtain ⟨position, among, arrival', here, rfl⟩ := (arrived_mem _).mp (List.min?_mem least)
        obtain ⟨_, said'⟩ := List.mem_filter.mp among
        have speaks := Option.some.inj ((speaker_at _ _ here).symm.trans (of_decide_eq_true said'))
        rcases List.mem_append.mp (List.mem_of_getElem? here) with before | after
        · obtain rfl := List.mem_singleton.mp before
          exact absurd speaks.symm other
        · obtain ⟨who, _, rfl⟩ := List.mem_map.mp after
          rfl
      have replied' := (List.max?_eq_some_iff.mp last).2 _ (List.mem_filterMap.mpr ⟨person, named, late ▸ least⟩)
      have after : (30000 : Int) ≤ replied := replied'
      change (30000 : Int) < max (-9223372036854775808) (min 9223372036854775807 (replied + 30000))
      omega
    · intro old listed new later
      obtain rfl := List.mem_singleton.mp listed
      obtain ⟨who, _, rfl⟩ := List.mem_map.mp later
      exact (by decide : (0 : Int) ≤ millis maxSettle)
  · rw [never] at named
    cases named
  · refine absurd ((missing_empty ..).mpr fun who asked => ?_) missing
    obtain ⟨index, waited, there⟩ := spoken who asked
    exact ⟨index, waited, speaker_at _ _ there⟩

theorem delivery_is_debounced_iff (options : WaitOptions) (wakes : IpcMessagePreviewSummary → Bool) :
    Debounced options wakes ↔ Undelayed options wakes := by
  refine ⟨fun debounced => ?_, undelayed_debounced⟩
  by_contra delayed
  simp only [Undelayed, not_or, not_forall] at delayed
  obtain ⟨settles, arrival, heard, woke, person, named, other⟩ := delayed
  exact late_replies_delay settles heard woke named other debounced

end

theorem a_late_reply_postpones : let options : WaitOptions := { «from» := ["@ada"], waitFor := ["@bob"] }
    let first := said "!room" "@ada" 0
    let pending := [first, said "!room" "@bob" 29000]
    options.validate = .ok () ∧ Grows [first] pending ∧ wakes first.preview options {} = true ∧
      first.arrivedAtMs + millis maxSettle ≤ 30000 ∧ decide pending options {} 20 30000 none = .wait (some 34000) := by
  refine ⟨by decide +kernel, ⟨[said "!room" "@bob" 29000], rfl, ?_⟩, by decide +kernel, by decide +kernel, by decide +kernel⟩
  intro old listed new later
  obtain rfl := List.mem_singleton.mp listed
  obtain rfl := List.mem_singleton.mp later
  exact (by decide : (0 : Int) ≤ 29000)

end AgentRoom.Inbox
