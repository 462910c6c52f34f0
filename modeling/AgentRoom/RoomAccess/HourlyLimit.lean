import AgentRoom.Domain.Basics
import Mathlib.Logic.Function.Basic

namespace AgentRoom.RoomAccess

def hourMillis : Nat := 3600000

structure HourlyLimit where
  limit : Nat
  taken : PrincipalId → List UtcMillis

structure HourlyLimitReached where
  retryAt : UtcMillis
deriving DecidableEq

structure TakeCall where
  principal : PrincipalId
  now : UtcMillis

namespace HourlyLimit

def new (limit : Nat) : HourlyLimit := ⟨limit, fun _ => []⟩

def recent (now : UtcMillis) (taken : List UtcMillis) : List UtcMillis :=
  taken.filter fun moment => now.value - moment.value < hourMillis

def take (limiter : HourlyLimit) (call : TakeCall) : HourlyLimit × Except HourlyLimitReached Unit :=
  let recent := recent call.now (limiter.taken call.principal)
  let kept (moments : List UtcMillis) := { limiter with taken := Function.update limiter.taken call.principal moments }
  if limiter.limit ≤ recent.length then
    -- The sum saturates at the last time there is.
    (kept recent, .error ⟨.ofNat ((recent.map (·.value)).min?.getD call.now.value + hourMillis)⟩)
  else (kept (recent ++ [call.now]), .ok ())

def after (limiter : HourlyLimit) (calls : List TakeCall) : HourlyLimit :=
  calls.foldl (fun limiter call => (limiter.take call).1) limiter

def answered (limiter : HourlyLimit) : List TakeCall → List (TakeCall × Except HourlyLimitReached Unit)
  | [] => []
  | call :: rest => (call, (limiter.take call).2) :: answered (limiter.take call).1 rest

end HourlyLimit

def hourFrom (start : Nat) (moment : UtcMillis) : Bool := start ≤ moment.value ∧ moment.value < start + hourMillis

def takenBy (principal : PrincipalId) (start : Nat) (entry : TakeCall × Except HourlyLimitReached Unit) : Bool :=
  entry.1.principal = principal ∧ entry.2 = .ok () ∧ hourFrom start entry.1.now

namespace HourlyLimit

variable {limiter : HourlyLimit} {call : TakeCall} {calls : List TakeCall} {now later : UtcMillis}

@[simp] theorem take_limit : (limiter.take call).1.limit = limiter.limit := by
  simp only [take]
  split <;> rfl

theorem take_others {principal : PrincipalId} (other : call.principal ≠ principal) :
    (limiter.take call).1.taken principal = limiter.taken principal := by
  simp only [take]
  split <;> exact Function.update_of_ne other.symm ..

theorem take_refused (full : limiter.limit ≤ (recent call.now (limiter.taken call.principal)).length) :
    (limiter.take call).1.taken call.principal = recent call.now (limiter.taken call.principal) ∧
      (limiter.take call).2 ≠ .ok () := by
  simp [take, if_pos full]

theorem take_granted (left : (recent call.now (limiter.taken call.principal)).length < limiter.limit) :
    (limiter.take call).1.taken call.principal = recent call.now (limiter.taken call.principal) ++ [call.now] ∧
      (limiter.take call).2 = .ok () := by
  simp [take, if_neg (Nat.not_le.mpr left)]

theorem take_ok_iff : (limiter.take call).2 = .ok () ↔ (recent call.now (limiter.taken call.principal)).length < limiter.limit :=
  ⟨fun granted => Nat.not_le.mp fun full => (take_refused full).2 granted, fun left => (take_granted left).2⟩

theorem refused_full (refused : (limiter.take call).2 ≠ .ok ()) :
    limiter.limit ≤ (recent call.now (limiter.taken call.principal)).length :=
  Nat.not_lt.mp fun left => refused (take_granted left).2

theorem recent_later (ordered : now ≤ later) (taken : List UtcMillis) : recent later (recent now taken) = recent later taken := by
  rw [recent, recent, recent, List.filter_filter]
  refine List.filter_congr fun moment _ => ?_
  have ordered : now.value ≤ later.value := ordered
  simp only [Bool.and_eq_left_iff_imp, decide_eq_true_eq]
  omega

def Alike (now : UtcMillis) (first second : HourlyLimit) : Prop :=
  first.limit = second.limit ∧ ∀ principal, recent now (first.taken principal) = recent now (second.taken principal)

theorem take_alike {first second : HourlyLimit} (alike : Alike now first second) (ordered : now ≤ call.now) :
    (first.take call).2 = (second.take call).2 ∧ Alike call.now (first.take call).1 (second.take call).1 := by
  have same (principal : PrincipalId) :
      recent call.now (first.taken principal) = recent call.now (second.taken principal) := by
    rw [← recent_later ordered, alike.2, recent_later ordered]
  refine ⟨?_, ?_, fun principal => ?_⟩
  · simp only [take, same, alike.1]
    split <;> rfl
  · simpa using alike.1
  · by_cases own : call.principal = principal
    · subst own
      simp only [take, same, alike.1]
      split <;> simp
    · rw [take_others own, take_others own, same]

theorem answered_alike {first second : HourlyLimit} (alike : Alike now first second) (ordered : ∀ call ∈ calls, now ≤ call.now)
    (sorted : calls.Pairwise (·.now ≤ ·.now)) : first.answered calls = second.answered calls := by
  induction calls generalizing now first second with
  | nil => rfl
  | cons call rest ih =>
    obtain ⟨answer, next⟩ := take_alike alike (ordered call List.mem_cons_self)
    obtain ⟨first, sorted⟩ := List.pairwise_cons.mp sorted
    rw [answered, answered, answer, ih next first sorted]

theorem refused_alike (full : (limiter.take call).2 ≠ .ok ()) : Alike call.now (limiter.take call).1 limiter := by
  refine ⟨take_limit, fun principal => ?_⟩
  by_cases own : call.principal = principal
  · subst own
    rw [(take_refused (refused_full full)).1, recent_later (UtcMillis.le_refl _)]
  · rw [take_others own]

theorem none_later {principal : PrincipalId} {start : Nat} (late : ∀ call ∈ calls, start + hourMillis ≤ call.now.value) :
    (limiter.answered calls).countP (takenBy principal start) = 0 := by
  induction calls generalizing limiter with
  | nil => rfl
  | cons call rest ih =>
    have outside := late call List.mem_cons_self
    rw [answered, List.countP_cons_of_neg, ih fun other listed => late other (List.mem_cons_of_mem _ listed)]
    simp only [takenBy, hourFrom, decide_eq_true_eq]
    omega

theorem window_bound (principal : PrincipalId) (start : Nat) (sorted : calls.Pairwise (·.now ≤ ·.now))
    (bounded : ∀ principal start, (limiter.taken principal).countP (hourFrom start) ≤ limiter.limit) :
    (limiter.taken principal).countP (hourFrom start) + (limiter.answered calls).countP (takenBy principal start) ≤
      limiter.limit := by
  induction calls generalizing limiter with
  | nil => exact bounded principal start
  | cons call rest ih =>
    obtain ⟨ordered, sorted⟩ := List.pairwise_cons.mp sorted
    have shorter (start : Nat) : (recent call.now (limiter.taken call.principal)).countP (hourFrom start) ≤ limiter.limit :=
      Nat.le_trans (List.filter_sublist.countP_le) (bounded ..)
    have next := @ih (limiter.take call).1 sorted fun principal start => by
      rw [take_limit]
      by_cases own : call.principal = principal
      · subst own
        rcases Nat.lt_or_ge (recent call.now (limiter.taken call.principal)).length limiter.limit with left | full
        · rw [(take_granted left).1]
          exact Nat.le_trans List.countP_le_length (by rw [List.length_append]; exact left)
        · rw [(take_refused full).1]
          exact shorter start
      · rw [take_others own]
        exact bounded principal start
    rw [take_limit] at next
    rw [answered, List.countP_cons]
    by_cases own : call.principal = principal
    · subst own
      by_cases late : start + hourMillis ≤ call.now.value
      · have all : ∀ other ∈ call :: rest, start + hourMillis ≤ other.now.value := by
          rintro other (_ | ⟨_, listed⟩)
          · exact late
          · exact Nat.le_trans late (ordered other listed)
        have none := @none_later limiter _ call.principal _ all
        rw [answered, List.countP_cons] at none
        rw [none]
        exact bounded call.principal start
      · have same : (limiter.taken call.principal).countP (hourFrom start) =
            (recent call.now (limiter.taken call.principal)).countP (hourFrom start) := by
          rw [recent, List.countP_filter]
          refine List.countP_congr fun moment _ => ?_
          simp only [hourFrom, Bool.and_eq_true, decide_eq_true_eq]
          omega
        rcases Nat.lt_or_ge (recent call.now (limiter.taken call.principal)).length limiter.limit with left | full
        · rw [(take_granted left).1, List.countP_append, List.countP_singleton] at next
          simp only [takenBy, (take_granted left).2, true_and, decide_eq_true_eq]
          omega
        · rw [(take_refused full).1] at next
          simp only [takenBy, (take_refused full).2, false_and, and_false, decide_false, Bool.false_eq_true, if_false]
          omega
    · rw [take_others own] at next
      simp only [takenBy, own, false_and, decide_false, Bool.false_eq_true, if_false]
      omega

@[simp] theorem after_limit : (limiter.after calls).limit = limiter.limit := by
  induction calls generalizing limiter with
  | nil => rfl
  | cons call rest ih => exact ih.trans take_limit

theorem after_bounded (calls : List TakeCall) (within : ∀ principal, (limiter.taken principal).length ≤ limiter.limit)
    (principal : PrincipalId) : ((limiter.after calls).taken principal).length ≤ limiter.limit := by
  induction calls generalizing limiter with
  | nil => exact within principal
  | cons call rest ih =>
    have next := @ih (limiter.take call).1 fun principal => by
      rw [take_limit]
      by_cases own : call.principal = principal
      · subst own
        rcases Nat.lt_or_ge (recent call.now (limiter.taken call.principal)).length limiter.limit with left | full
        · rw [(take_granted left).1, List.length_append]
          exact left
        · rw [(take_refused full).1]
          exact Nat.le_trans (List.length_filter_le ..) (within call.principal)
      · rw [take_others own]
        exact within principal
    rw [take_limit] at next
    exact next

theorem after_others {principal : PrincipalId} (others : ∀ call ∈ calls, call.principal ≠ principal) :
    (limiter.after calls).taken principal = limiter.taken principal := by
  induction calls generalizing limiter with
  | nil => rfl
  | cons call rest ih =>
    exact (ih fun other listed => others other (List.mem_cons_of_mem _ listed)).trans
      (take_others (others call List.mem_cons_self))

theorem full_until (some : 1 ≤ limiter.limit) (within : (limiter.taken call.principal).length ≤ limiter.limit)
    {reached : HourlyLimitReached} (refused : (limiter.take call).2 = .error reached) :
    ∃ oldest, reached.retryAt = .ofNat (oldest + hourMillis) ∧ ∀ later, call.now ≤ later →
      ((recent later (recent call.now (limiter.taken call.principal))).length < limiter.limit ↔
        oldest + hourMillis ≤ later.value) := by
  generalize given : recent call.now (limiter.taken call.principal) = moments at *
  have full : limiter.limit ≤ moments.length := by
    refine Nat.not_lt.mp fun left => ?_
    rw [← given] at left
    cases (take_granted left).2.symm.trans refused
  have exact_ : moments.length = limiter.limit :=
    Nat.le_antisymm (Nat.le_trans (given ▸ List.length_filter_le ..) within) full
  simp only [take, given, if_pos full, Except.error.injEq] at refused
  cases least : (moments.map (·.value)).min? with
  | none =>
    rw [List.min?_eq_none_iff, List.map_eq_nil_iff] at least
    rw [least] at full
    exact absurd (Nat.le_trans some full) (by decide)
  | some oldest =>
    rw [least] at refused
    obtain ⟨listed, first⟩ := List.min?_eq_some_iff.mp least
    obtain ⟨moment, member, rfl⟩ := List.mem_map.mp listed
    refine ⟨moment.value, by rw [← refused]; rfl, fun later ordered => ?_⟩
    rw [← exact_, recent, List.length_filter_lt_length_iff_exists]
    constructor
    · rintro ⟨other, held, old⟩
      have since := first other.value (List.mem_map_of_mem held)
      have old : ¬ later.value - other.value < hourMillis := fun fresh => old (decide_eq_true fresh)
      have since : moment.value ≤ other.value := since
      unfold hourMillis at old ⊢
      omega
    · intro old
      have gone : ¬ later.value - moment.value < hourMillis := by
        unfold hourMillis at old ⊢
        omega
      exact ⟨moment, member, fun fresh => gone (of_decide_eq_true fresh)⟩

-- A limiter from its start: the bound of every hour, a refusal without a trace, and
-- the moment a refusal names.
theorem hourly_limit_is_a_sliding_window (limit : Nat) (some : 1 ≤ limit) (calls : List TakeCall)
    (sorted : calls.Pairwise (·.now ≤ ·.now)) :
    (∀ principal start, ((new limit).answered calls).countP (takenBy principal start) ≤ limit) ∧
    ∀ earlier call later, calls = earlier ++ call :: later →
      ∀ reached, (((new limit).after earlier).take call).2 = .error reached →
      (((new limit).after earlier).take call).1.answered later = ((new limit).after earlier).answered later ∧
      ∀ between, (∀ other ∈ between, other.principal ≠ call.principal) →
        let answer (now : UtcMillis) := (((new limit).after (earlier ++ call :: between)).take ⟨call.principal, now⟩).2
        (∀ now, call.now ≤ now → (answer now = .ok () ↔ reached.retryAt ≤ now)) ∨
          reached.retryAt.value = i64Max ∧ ∀ now, call.now ≤ now → answer now ≠ .ok () := by
  refine ⟨fun principal start => ?_, ?_⟩
  · simpa [new] using @window_bound (new limit) _ principal start sorted fun _ _ => Nat.zero_le _
  · rintro earlier call later rfl reached refused
    obtain ⟨ordered, sorted⟩ := List.pairwise_cons.mp (List.pairwise_append.mp sorted).2.1
    have within := @after_bounded (new limit) earlier fun _ => Nat.zero_le _
    have capacity : ((new limit).after earlier).limit = limit := after_limit
    have split (between : List TakeCall) : (new limit).after (earlier ++ call :: between) =
        (((new limit).after earlier).take call).1.after between := by simp [after]
    simp only [split]
    clear split
    generalize (new limit).after earlier = limiter at *
    have full : (limiter.take call).2 ≠ .ok () := by simp [refused]
    refine ⟨answered_alike (refused_alike full) ordered sorted, fun between others => ?_⟩
    obtain ⟨oldest, names, opens⟩ := full_until (by rw [capacity]; exact some)
      (Nat.le_trans (within call.principal) (Nat.le_of_eq capacity.symm)) refused
    have succeeds (now : UtcMillis) (ordered : call.now ≤ now) :
        (((limiter.take call).1.after between).take ⟨call.principal, now⟩).2 = .ok () ↔ oldest + hourMillis ≤ now.value := by
      rw [take_ok_iff, after_limit, take_limit, after_others others, (take_refused (refused_full full)).1]
      exact opens now ordered
    rcases Nat.lt_or_ge i64Max (oldest + hourMillis) with beyond | fits
    · refine .inr ⟨by rw [names]; exact Nat.min_eq_right (Nat.le_of_lt beyond), fun now ordered granted => ?_⟩
      exact absurd (Nat.le_trans ((succeeds now ordered).mp granted) now.fits) (Nat.not_le.mpr beyond)
    · refine .inl fun now ordered => (succeeds now ordered).trans ?_
      rw [names, UtcMillis.le_iff, show (UtcMillis.ofNat (oldest + hourMillis)).value = oldest + hourMillis from
        Nat.min_eq_left fits]

theorem second_take_waits : ((new 1).answered [⟨⟨7⟩, 10⟩, ⟨⟨7⟩, 20⟩]).map (·.2) = [.ok (), .error ⟨3600010⟩] ∧
    (∀ principal start, ((new 1).answered [⟨⟨7⟩, 10⟩, ⟨⟨7⟩, 20⟩]).countP (takenBy principal start) ≤ 1) ∧
    ∀ now, 20 ≤ now → ((((new 1).after [⟨⟨7⟩, 10⟩, ⟨⟨7⟩, 20⟩]).take ⟨⟨7⟩, now⟩).2 = .ok () ↔ 3600010 ≤ now) := by
  obtain ⟨bound, named⟩ := hourly_limit_is_a_sliding_window 1 (by decide) [⟨⟨7⟩, 10⟩, ⟨⟨7⟩, 20⟩] (by decide)
  have retry := (named [⟨⟨7⟩, 10⟩] ⟨⟨7⟩, 20⟩ [] rfl ⟨3600010⟩ rfl).2 [] nofun
  exact ⟨rfl, bound, retry.resolve_right fun last => absurd last.1 (by decide)⟩

-- In the last hour there is, the named moment still refuses.
theorem last_hour_stays_full : let full := ((new 1).take ⟨⟨7⟩, .ofNat i64Max⟩).1
    (full.take ⟨⟨7⟩, .ofNat i64Max⟩).2 = .error ⟨.ofNat i64Max⟩ ∧
      ((full.take ⟨⟨7⟩, .ofNat i64Max⟩).1.take ⟨⟨7⟩, .ofNat i64Max⟩).2 = .error ⟨.ofNat i64Max⟩ := by
  decide +kernel

end HourlyLimit

end AgentRoom.RoomAccess
