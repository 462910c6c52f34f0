import AgentRoom.Presence.Roster

namespace AgentRoom

def AgentConnection.rank : AgentConnection → Nat
  | .online => 0
  | .reconnecting => 1
  | .offline => 2

namespace AgentPresenceEvidence

def fitsI64 (value : Int) : Bool := i64Min ≤ value && decide (value ≤ i64Max)

-- The plain subtraction of two i64: a build that checks for overflow stops there, any other wraps round.
def subtract (checked : Bool) (first second : Int) : Option Int :=
  if fitsI64 (first - second) then some (first - second)
  else if checked then none
  else some ((first - second).bmod (2 ^ 64))

def stateAt (evidence : AgentPresenceEvidence) (now : Int) : AgentConnection × AgentReception × Option Int :=
  match evidence.liveness with
  | .lease => evidence.leaseState now
  | .presence observation => evidence.presenceState observation now

def lifecycleBuilt (checked : Bool) (evidence : AgentPresenceEvidence) (now : Int) (archiveAfterDays : Nat) : Option AgentLifecycle :=
  let (connection, reception, offlineSince) := evidence.stateAt now
  match offlineSince with
  | none => some { connection, reception, offlineSince, archiveReason := none }
  | some since => (subtract checked now since).map fun away =>
    { connection, reception, offlineSince, archiveReason := if (archiveAfterDays : Int) * 86400000 ≤ away then some .expired else none }

-- The time for which it has been away, where that is asked for, can be counted in an i64.
def AwayFits (evidence : AgentPresenceEvidence) (now : Int) : Prop :=
  match evidence.liveness with
  | .lease =>
    if evidence.reportedStatus = .offline then fitsI64 (now - evidence.lastActiveAt) = true
    else now < evidence.leaseExpiresAt ∨ now - saturatingAdd evidence.leaseExpiresAt reconnectGraceMs ≤ i64Max
  | .presence observation =>
    observation.any (fun observed => observed.state ≠ .offline) = true ∨
      now - (observation.bind (·.offlineSeenAt)).getD (evidence.unseenSince observation) ≤ i64Max

variable (evidence : AgentPresenceEvidence) {now : Int} (archiveAfterDays : Nat)

theorem away_fits_iff : evidence.AwayFits now ↔ ∀ since ∈ (evidence.stateAt now).2.2, fitsI64 (now - since) = true := by
  unfold AwayFits stateAt
  cases evidence.liveness with
  | lease =>
    simp only [leaseState, leaseConnection]
    by_cases reported : evidence.reportedStatus = .offline
    · simp [reported]
    · by_cases leased : now < evidence.leaseExpiresAt
      · simp [reported, leased]
      · by_cases grace : now < saturatingAdd evidence.leaseExpiresAt reconnectGraceMs
        · have early : now - saturatingAdd evidence.leaseExpiresAt reconnectGraceMs ≤ i64Max := by omega
          simp [reported, leased, grace, early]
        · have gone : i64Min ≤ now - saturatingAdd evidence.leaseExpiresAt reconnectGraceMs := by
            rw [i64Min]
            omega
          simp [reported, leased, grace, fitsI64, gone]
  | presence observation =>
    have past (since : Int) : fitsI64 (now - min since now) = true ↔ now - since ≤ i64Max := by
      have least : i64Min ≤ 0 := by decide
      have most : (0 : Int) ≤ i64Max := by decide
      simp only [fitsI64, Bool.and_eq_true, decide_eq_true_eq]
      omega
    cases observation with
    | none => simp [presenceState, past]
    | some observed => cases state : observed.state <;> simp [presenceState, state, past]

theorem lifecycle_of_state : evidence.lifecycle now archiveAfterDays =
    { connection := (evidence.stateAt now).1
      reception := (evidence.stateAt now).2.1
      offlineSince := (evidence.stateAt now).2.2
      archiveReason := ((evidence.stateAt now).2.2.filter fun since => archiveAfterDays * 86400000 ≤ now - since).map fun _ =>
        .expired } := rfl

theorem built_fits (checked : Bool) (fits : evidence.AwayFits now) :
    lifecycleBuilt checked evidence now archiveAfterDays = some (evidence.lifecycle now archiveAfterDays) := by
  rw [away_fits_iff] at fits
  rw [lifecycle_of_state, lifecycleBuilt]
  generalize evidence.stateAt now = state at fits ⊢
  obtain ⟨connection, reception, _ | since⟩ := state
  · rfl
  · by_cases long : (archiveAfterDays : Int) * 86400000 ≤ now - since <;> simp [subtract, fits since rfl, Option.filter, long]

theorem built_overflows (long : ¬ evidence.AwayFits now) : lifecycleBuilt true evidence now archiveAfterDays = none := by
  rw [away_fits_iff] at long
  rw [lifecycleBuilt]
  generalize evidence.stateAt now = state at long ⊢
  obtain ⟨connection, reception, _ | since⟩ := state
  · simp at long
  · simp_all [subtract]

theorem state_fades (ordered : early ≤ late) : (evidence.stateAt early).1.rank ≤ (evidence.stateAt late).1.rank ∧
      ∀ since ∈ (evidence.stateAt early).2.2, ∃ later ∈ (evidence.stateAt late).2.2, early - since ≤ late - later := by
  unfold stateAt
  cases evidence.liveness with
  | lease =>
    simp only [leaseState, leaseConnection]
    split_ifs <;> simp_all [AgentConnection.rank] <;> omega
  | presence observation =>
    simp only [presenceState]
    cases observation.map MatrixPresenceObservation.state with
    | none =>
      simp [AgentConnection.rank]
      omega
    | some state =>
      cases state <;> simp [AgentConnection.rank]
      omega

theorem lifecycle_fades (ordered : early ≤ late) :
    (evidence.lifecycle early archiveAfterDays).connection.rank ≤ (evidence.lifecycle late archiveAfterDays).connection.rank ∧
      ((evidence.lifecycle early archiveAfterDays).archiveReason ≠ none →
        (evidence.lifecycle late archiveAfterDays).archiveReason ≠ none) := by
  obtain ⟨alive, away⟩ := state_fades evidence ordered
  refine ⟨alive, fun archived => ?_⟩
  obtain ⟨_, given⟩ := Option.ne_none_iff_exists'.mp archived
  obtain ⟨since, kept, _⟩ := Option.map_eq_some_iff.mp given
  obtain ⟨left, long⟩ := Option.filter_eq_some_iff.mp kept
  obtain ⟨later, stands, longer⟩ := away since left
  have past : (archiveAfterDays : Int) * 86400000 ≤ late - later := le_trans (of_decide_eq_true long) longer
  rw [lifecycle_of_state, Option.mem_def.mp stands]
  simp [Option.filter, past]

def Fades (checked : Bool) (early late : Int) : Prop :=
  ∃ before after, lifecycleBuilt checked evidence early archiveAfterDays = some before ∧
    lifecycleBuilt checked evidence late archiveAfterDays = some after ∧
    before.connection.rank ≤ after.connection.rank ∧ (before.archiveReason ≠ none → after.archiveReason ≠ none) ∧
    (before.archiveReason ≠ none → before.connection = .offline) ∧ (after.archiveReason ≠ none → after.connection = .offline)

theorem fades_unless_overflow (ordered : early ≤ late) :
    (∀ checked, evidence.Fades archiveAfterDays checked early late) ↔ evidence.AwayFits early ∧ evidence.AwayFits late := by
  constructor
  · intro fades
    obtain ⟨before, after, answered, answeredLate, _⟩ := fades true
    constructor <;> by_contra long
    · rw [built_overflows evidence archiveAfterDays long] at answered
      cases answered
    · rw [built_overflows evidence archiveAfterDays long] at answeredLate
      cases answeredLate
  · intro ⟨fits, fitsLate⟩ checked
    obtain ⟨alive, archived⟩ := lifecycle_fades evidence archiveAfterDays ordered
    exact ⟨_, _, built_fits evidence archiveAfterDays checked fits, built_fits evidence archiveAfterDays checked fitsLate,
      alive, archived, fun reason => (Presence.archived_offline reason).2, fun reason => (Presence.archived_offline reason).2⟩

-- Times that UtcMillis can hold; the last activity that Matrix tells is any number.
structure InUtc : Prop where
  lease : 0 ≤ evidence.leaseExpiresAt
  active : 0 ≤ evidence.lastActiveAt ∧ evidence.lastActiveAt ≤ i64Max
  seen : ∀ observed, evidence.liveness = .presence (some observed) → ∀ moment ∈ observed.offlineSeenAt, 0 ≤ moment

theorem away_fits_in_utc (utc : evidence.InUtc) (now : UtcMillis) : evidence.AwayFits now.toInt := by
  have late : now.toInt ≤ i64Max := Int.ofNat_le.mpr now.fits
  have early : 0 ≤ now.toInt := Int.natCast_nonneg _
  unfold AwayFits
  cases lives : evidence.liveness with
  | lease =>
    have grace : 0 ≤ saturatingAdd evidence.leaseExpiresAt reconnectGraceMs := by
      have lease := utc.lease
      simp only [saturatingAdd, saturate, reconnectGraceMs, i64Min, i64Max]
      omega
    obtain ⟨began, ended⟩ := utc.active
    dsimp only
    split
    · have least : i64Min ≤ 0 - (i64Max : Int) := by decide
      simp only [fitsI64, Bool.and_eq_true, decide_eq_true_eq]
      omega
    · exact .inr (by omega)
  | presence observation =>
    refine .inr ?_
    have since : 0 ≤ (observation.bind (·.offlineSeenAt)).getD (evidence.unseenSince observation) := by
      cases seen : observation.bind (·.offlineSeenAt) with
      | some moment =>
        obtain ⟨observed, rfl, told⟩ := Option.bind_eq_some_iff.mp seen
        exact utc.seen observed lives moment told
      | none =>
        have active := utc.active.1
        simp only [Option.getD_none, unseenSince]
        split
        · exact active
        · exact le_max_of_le_right active
    omega

theorem evidence_with_in_utc {presence : Presence.ProjectedAgentPresence} {observation : Option MatrixPresenceObservation}
    (seen : ∀ observed ∈ observation, ∀ moment ∈ observed.offlineSeenAt, 0 ≤ moment) : (presence.evidenceWith observation).InUtc where
  lease := Int.natCast_nonneg _
  active := ⟨Int.natCast_nonneg _, Int.ofNat_le.mpr presence.publishedAt.fits⟩
  seen := by
    intro observed lives
    cases card : presence.card with
    | true =>
      simp only [Presence.ProjectedAgentPresence.evidenceWith, card, if_true, AgentLiveness.presence.injEq] at lives
      exact seen observed lives
    | false => simp [Presence.ProjectedAgentPresence.evidenceWith, card] at lives

theorem lifecycle_fades_with_time (utc : evidence.InUtc) (checked : Bool) (early late : UtcMillis) (ordered : early ≤ late) :
    evidence.Fades archiveAfterDays checked early.toInt late.toInt :=
  (fades_unless_overflow evidence archiveAfterDays (Int.ofNat_le.mpr ordered)).mpr
    ⟨away_fits_in_utc evidence utc early, away_fits_in_utc evidence utc late⟩ checked

def stoppedAtOnce : AgentPresenceEvidence := ⟨.offline, 0, 1000, none, none, false, .lease⟩

theorem stopped_at_once_fades : stoppedAtOnce.Fades 7 true 604801000 i64Max :=
  lifecycle_fades_with_time stoppedAtOnce 7 ⟨by decide, by decide, by rintro observed ⟨⟩⟩ true ⟨604801000, by decide⟩ ⟨i64Max, Nat.le_refl _⟩
    (by decide)

end AgentPresenceEvidence

end AgentRoom
