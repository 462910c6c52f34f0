import AgentRoom.Device.Honest

namespace AgentRoom

open Library

namespace Bridge

variable {Secret : Type}

def RefreshCall.outstanding (call : RefreshCall Secret) : List (RefreshBridgeDevice Secret) :=
  match call.phase with
  | .sent => [call.request]
  | .lost | .answered _ => []

def World.outstanding (world : World Secret) : List (RefreshBridgeDevice Secret) :=
  match world.call with
  | none => world.abandoned
  | some call => world.abandoned ++ call.outstanding

-- The running call persisted its attempt before it sent it.
structure Running (world : World Secret) (call : RefreshCall Secret) : Prop where
  marked : world.vault = some call.pending
  state : call.pending.state = .refreshPending (some call.request.attemptId)
  token : call.request.refreshToken = call.pending.refreshToken

structure Honest (secrets : DeviceSecrets Secret) (familyId : DeviceTokenFamilyId) (world : World Secret) : Prop where
  sound : world.tables.Sound
  safe : world.tables.NotCompromised familyId
  quiet : ∀ outcome ∈ world.outcomes, ∀ deviceId principalId, outcome ≠ .reuseDetected deviceId principalId
  standing : Standing secrets familyId world.tables world.vault world.outstanding
  running : ∀ call, world.call = some call → Running world call
  fresh : ∀ call given, world.call = some call → call.phase = .answered (.ok given) →
    world.tables.Successor familyId (secrets.digest call.request.refreshToken) (secrets.digest given.refreshToken)

theorem drop_outstanding {world : World Secret} (running : world.call = some call) :
    (world.drop call).outstanding = world.outstanding := by
  simp only [World.outstanding, World.drop, running, RefreshCall.outstanding]
  cases call.phase <;> simp

section

variable {secrets : DeviceSecrets Secret} {familyId : DeviceTokenFamilyId} {world : World Secret}

theorem idle_honest (honest : Honest secrets familyId world) (standing : Standing secrets familyId world.tables vault abandoned) :
    Honest secrets familyId { world with vault, abandoned, call := none } where
  sound := honest.sound
  safe := honest.safe
  quiet := honest.quiet
  standing := standing
  running := fun _ running => nomatch running
  fresh := fun _ _ running => nomatch running

theorem cleared_honest (honest : Honest secrets familyId world) (idle : world.call = none) {write : VaultWrite} :
    Honest secrets familyId { world with vault := write.leaves world.vault none } := by
  have standing := honest.standing
  rw [World.outstanding, idle] at standing
  have either : Standing secrets familyId world.tables (write.leaves world.vault none) world.abandoned := by
    cases write with
    | done => exact standing_cleared standing
    | doneButFailed => exact standing_cleared standing
    | failed => exact standing
  have kept := idle_honest honest either
  rwa [← idle] at kept

section

variable (honest : Honest secrets familyId world)
include honest

theorem marked_honest (idle : world.call = none)
    (opening : openSession refreshLeadTime now fresh world.vault = .refresh pending attemptId) (write : VaultWrite) :
    Honest secrets familyId { world with vault := write.leaves world.vault (some pending) } := by
  have standing := honest.standing
  rw [World.outstanding, idle] at standing
  obtain ⟨state, awaits, same⟩ := standing_marked standing opening
  have marked := Standing.pending pending attemptId state awaits world.abandoned same
  have either : Standing secrets familyId world.tables (write.leaves world.vault (some pending)) world.abandoned := by
    cases write with
    | done => exact marked
    | doneButFailed => exact marked
    | failed => exact standing
  have kept := idle_honest honest either
  rwa [← idle] at kept

theorem sent_honest (idle : world.call = none)
    (opening : openSession refreshLeadTime now fresh world.vault = .refresh pending attemptId) :
    Honest secrets familyId { world with
      vault := some pending
      call := some { pending, request := { refreshToken := pending.refreshToken, attemptId }, phase := .sent } } := by
  have standing := honest.standing
  rw [World.outstanding, idle] at standing
  obtain ⟨state, awaits, same⟩ := standing_marked standing opening
  exact {
    sound := honest.sound
    safe := honest.safe
    quiet := honest.quiet
    standing := by
      refine .pending pending attemptId state awaits _ ?_
      intro request listed
      rcases List.mem_append.mp listed with earlier | last
      · exact same request earlier
      · exact List.mem_singleton.mp last
    running := by
      intro call running
      cases running
      exact ⟨rfl, state, rfl⟩
    fresh := by
      intro call given running answered
      cases running
      cases answered }

theorem lost_honest (running : world.call = some call) :
    Honest secrets familyId { world with call := some { call with phase := .lost } } where
  sound := honest.sound
  safe := honest.safe
  quiet := honest.quiet
  standing := by
    apply standing_fewer honest.standing
    intro request listed
    simp only [World.outstanding, RefreshCall.outstanding, running, List.append_nil] at listed ⊢
    exact List.mem_append_left _ listed
  running := by
    intro other same
    cases same
    obtain ⟨marked, state, token⟩ := honest.running call running
    exact ⟨marked, state, token⟩
  fresh := by
    intro other given same answered
    cases same
    cases answered

theorem fewer_honest (abandoned : List (RefreshBridgeDevice Secret))
    (within : abandoned ⊆ world.abandoned) : Honest secrets familyId { world with abandoned } where
  sound := honest.sound
  safe := honest.safe
  quiet := honest.quiet
  standing := by
    apply standing_fewer honest.standing
    simp only [World.outstanding]
    cases world.call with
    | none => exact within
    | some call =>
      apply List.append_subset.mpr
      exact ⟨fun _ listed => List.mem_append_left _ (within listed), List.subset_append_right _ _⟩
  running := by
    intro call running
    obtain ⟨marked, state, token⟩ := honest.running call running
    exact ⟨marked, state, token⟩
  fresh := honest.fresh

end

section

variable (honest : Honest secrets familyId world)
include honest

theorem executed_honest (policy : DeviceRefreshPolicy) (read : DeviceTables) (listed : request ∈ world.outstanding) (draw : RefreshDraw Secret) :
    Served secrets familyId world.tables request
        (refreshDeviceSession secrets policy read world.tables (serving request) draw) ∧
      Standing secrets familyId (world.execute secrets policy read request draw).1.tables world.vault world.outstanding ∧
      ∀ outcome ∈ (world.execute secrets policy read request draw).1.outcomes, ∀ deviceId principalId,
        outcome ≠ .reuseDetected deviceId principalId := by
  have awaits := standing_awaits honest.standing request listed
  have served := awaited_served secrets policy familyId read honest.sound honest.safe draw awaits
  refine ⟨served, standing_served honest.standing listed served.awaits, ?_⟩
  intro outcome member
  rcases List.mem_append.mp member with earlier | last
  · exact honest.quiet outcome earlier
  · exact served.quiet outcome last

theorem served_honest (policy : DeviceRefreshPolicy) (call : RefreshCall Secret) (running : world.call = some call)
    (sent : call.phase = .sent) (read : DeviceTables) (draw : RefreshDraw Secret) : Honest secrets familyId
      { (world.execute secrets policy read call.request draw).1 with
        call := some { call with phase := .answered (world.execute secrets policy read call.request draw).2 } } := by
  have listed : call.request ∈ world.outstanding := by
    simp [World.outstanding, running, RefreshCall.outstanding, sent]
  obtain ⟨served, standing, quiet⟩ := executed_honest honest policy read listed draw
  obtain ⟨marked, state, token⟩ := honest.running call running
  exact {
    sound := served.sound
    safe := served.safe
    quiet
    standing := by
      apply standing_fewer standing
      intro request member
      simp only [World.outstanding, RefreshCall.outstanding, running, List.append_nil] at member ⊢
      exact List.mem_append_left _ member
    running := by
      intro other same
      cases same
      exact ⟨marked, state, token⟩
    fresh := by
      intro other given same answered
      cases same
      exact served.fresh given (CallPhase.answered.inj answered) }

theorem served_abandoned_honest (listed : world.abandoned = first ++ request :: second) {read : DeviceTables} :
    Honest secrets familyId { (world.execute secrets policy read request draw).1 with abandoned := first ++ second } := by
  have member : request ∈ world.abandoned := by simp [listed]
  have arriving : request ∈ world.outstanding := by
    rw [World.outstanding]
    cases world.call with
    | none => exact member
    | some call => exact List.mem_append_left _ member
  obtain ⟨served, standing, quiet⟩ := executed_honest honest policy read arriving draw
  -- A request left over from before is the one the running call sent: answering it again changes nothing.
  have executed : Honest secrets familyId (world.execute secrets policy read request draw).1 := {
    sound := served.sound
    safe := served.safe
    quiet
    standing
    running := by
      intro call running
      obtain ⟨marked, state, token⟩ := honest.running call running
      exact ⟨marked, state, token⟩
    fresh := by
      intro call given running answered
      obtain ⟨marked, state, token⟩ := honest.running call running
      have same : request = call.request := by
        rw [standing_request honest.standing arriving marked state, ← token]
      subst same
      exact served.keeps _ (honest.fresh call given running answered) }
  apply fewer_honest executed
  intro other earlier
  have kept : other ∈ first ++ request :: second := by
    rcases List.mem_append.mp earlier with early | late
    · exact List.mem_append_left _ early
    · exact List.mem_append_right _ (List.mem_cons_of_mem _ late)
  exact listed ▸ kept

theorem dropped_honest (running : world.call = some call) : Honest secrets familyId (world.drop call) := by
  have standing := honest.standing
  rw [← drop_outstanding running] at standing
  exact idle_honest honest standing

theorem settled_honest (running : world.call = some call) {write : VaultWrite}
    (result : Except ControlPlaneDeviceFailureKind (DeviceCredentials Secret))
    (answered : ∀ given, result = .ok given → call.phase = .answered (.ok given) ∧ world.abandoned = []) :
    Honest secrets familyId (world.settle call write result) := by
  have standing := honest.standing
  rw [← drop_outstanding running] at standing
  apply idle_honest honest
  cases resolution : resolveRefresh call.pending result with
  | keep kind => exact standing
  | clear kind =>
    cases write with
    | done => exact standing_cleared standing
    | doneButFailed => exact standing_cleared standing
    | failed => exact standing
  | persist replacement =>
    have persisted : ∃ given, result = .ok given ∧ replacement.state = .ready ∧
        replacement.refreshToken = given.refreshToken := by
      cases result with
      | error kind => cases kind <;> cases resolution
      | ok given =>
        rw [resolveRefresh] at resolution
        split at resolution
        · cases resolution
        · cases resolution
          exact ⟨given, rfl, rfl, rfl⟩
    obtain ⟨given, ok, state, token⟩ := persisted
    obtain ⟨phase, settled⟩ := answered given ok
    have successor := honest.fresh call given running phase
    have ready : Standing secrets familyId world.tables (some replacement) (world.drop call).abandoned := by
      have empty : (world.drop call).abandoned = [] := by simp [World.drop, phase, settled]
      rw [empty]
      exact .ready replacement state (by rw [token]; exact successor.1)
    cases write with
    | done => exact ready
    | doneButFailed => exact ready
    | failed => exact standing

theorem others_honest {call : SessionCall} (foreign : world.tables.Foreign familyId call) :
    Honest secrets familyId { world with tables := world.tables.perform call } := by
  have step := DeviceTables.perform_step world.tables honest.sound call
  have untouched := DeviceTables.foreign_untouched honest.sound call foreign step
  exact {
    sound := DeviceTables.perform_sound world.tables honest.sound call
    safe := untouched.families honest.safe
    quiet := honest.quiet
    standing := standing_untouched honest.standing untouched
    running := by
      intro running same
      obtain ⟨marked, state, token⟩ := honest.running running same
      exact ⟨marked, state, token⟩
    fresh := by
      intro running given same answered
      obtain ⟨unused, different⟩ := honest.fresh running given same answered
      exact ⟨DeviceTables.unused_untouched untouched unused, different⟩ }

theorem step_honest {next : World Secret} (step : Step secrets policy refreshLeadTime familyId world next) :
    Honest secrets familyId next := by
  cases step with
  | expires idle now fresh opening write => exact cleared_honest honest idle
  | marks idle now fresh pending attemptId opening write =>
    exact marked_honest honest idle opening write
  | sends idle now fresh pending attemptId opening =>
    exact sent_honest honest idle opening
  | loses call running => exact lost_honest honest running
  | losesAbandoned first second request listed =>
    apply fewer_honest honest
    intro other earlier
    rw [listed]
    rcases List.mem_append.mp earlier with early | late
    · exact List.mem_append_left _ early
    · exact List.mem_append_right _ (List.mem_cons_of_mem _ late)
  | serves call running sent read draw => exact served_honest honest policy call running sent read draw
  | servesAbandoned first second request listed read draw =>
    exact served_abandoned_honest honest listed
  | receives call running result answered settled write =>
    apply settled_honest honest running
    intro given ok
    cases result with
    | error kind => cases ok
    | ok other =>
      cases ok
      exact ⟨answered, settled⟩
  | fails call running kind write =>
    apply settled_honest honest running
    intro given ok
    cases ok
  | restarts call running => exact dropped_honest honest running
  | forgets idle write => exact cleared_honest honest idle
  | others call foreign => exact others_honest honest foreign

end

end

structure Starts (secrets : DeviceSecrets Secret) (familyId : DeviceTokenFamilyId) (world : World Secret) : Prop where
  reached : ∃ calls, world.tables = DeviceTables.empty.runSessions calls
  safe : world.tables.NotCompromised familyId
  holds : ∃ stored, world.vault = some stored ∧ stored.state = .ready ∧
    world.tables.Unused familyId (secrets.digest stored.refreshToken)
  idle : world.call = none
  settled : world.abandoned = []
  silent : world.outcomes = []

theorem starts_honest (starts : Starts secrets familyId world) : Honest secrets familyId world where
  sound := by
    obtain ⟨calls, reached⟩ := starts.reached
    rw [reached]
    exact DeviceTables.run_empty_sound calls
  safe := starts.safe
  quiet := by simp [starts.silent]
  standing := by
    obtain ⟨stored, held, state, unused⟩ := starts.holds
    rw [World.outstanding, starts.idle, starts.settled, held]
    exact .ready stored state unused
  running := by simp [starts.idle]
  fresh := by simp [starts.idle]

theorem registered_starts (secrets : DeviceSecrets Secret) (calls : List SessionCall) (registration : PrincipalRegistration)
    (requested : Device) (session : DeviceSessionRegistration) (tables : DeviceTables)
    (stored : StoredBridgeDeviceCredentials Secret)
    (registers : (DeviceTables.empty.runSessions calls).registerDevice registration requested session = .ok (tables, answer))
    (ready : stored.state = .ready) (issued : secrets.digest stored.refreshToken = session.refreshTokenDigest) :
    Starts secrets session.family.id { tables, vault := some stored, call := none, abandoned := [], outcomes := [] } := by
  obtain ⟨known, inserts, later⟩ := unbind registers
  obtain ⟨account, _, stores⟩ := unbind later
  obtain ⟨closed, family, access, refresh, registered⟩ :=
    DeviceTables.store_session_ok known stores
  obtain ⟨_, ofFamily, digest, unused, _⟩ := registered.refreshToken
  exact {
    reached := by
      refine ⟨calls ++ [.register registration requested session], ?_⟩
      rw [DeviceTables.run_snoc, DeviceTables.perform, DeviceTables.answer, registers]
      rfl
    safe := by
      intro row listed named
      rw [registered.families] at listed
      rcases List.mem_append.mp listed with earlier | last
      · exact (registered.freshFamily row earlier (named.trans registered.familyId.symm)).elim
      · rw [List.mem_singleton.mp last, registered.active]
        simp
    holds := by
      refine ⟨stored, rfl, ready, refresh, ?_, digest.trans issued.symm, ofFamily.trans registered.familyId, unused⟩
      rw [registered.refreshTokens]
      exact List.mem_concat_self
    idle := rfl
    settled := rfl
    silent := rfl }

theorem honest_bridge_never_trips_reuse (secrets : DeviceSecrets Secret) (policy : DeviceRefreshPolicy)
    (refreshLeadTime : DurationMillis) (familyId : DeviceTokenFamilyId) (start world : World Secret)
    (starts : Starts secrets familyId start)
    (run : Relation.ReflTransGen (Step secrets policy refreshLeadTime familyId) start world) :
    (∀ outcome ∈ world.outcomes, ∀ deviceId principalId, outcome ≠ .reuseDetected deviceId principalId) ∧
      ∀ row ∈ world.tables.families, row.family.id = familyId → row.family.state ≠ .compromised := by
  have honest : Honest secrets familyId world := by
    induction run with
    | refl => exact starts_honest starts
    | tail _ step ih => exact step_honest ih step
  exact ⟨honest.quiet, honest.safe⟩

def sampleSecrets : DeviceSecrets Nat where
  digest := fun secret => ⟨BitVec.ofNat 256 secret⟩
  derive := fun token replay => some {
    accessToken := token + 100 + replay.salt.bytes.toNat
    refreshToken := token + 200 + replay.salt.bytes.toNat }

def samplePolicy : DeviceRefreshPolicy where
  accessTokenTtl := 50
  refreshLifetime := DeviceTables.sampleLifetime

def sampleVault : StoredBridgeDeviceCredentials Nat where
  state := .ready
  deviceId := ⟨2⟩
  accessToken := 10
  accessTokenExpiresAt := 50
  refreshToken := 20
  refreshTokenExpiresAt := 100

def sampleStart : World Nat where
  tables := DeviceTables.empty.runSessions
    [.register DeviceTables.sampleAccount DeviceTables.sampleDevice DeviceTables.sampleSession]
  vault := some sampleVault
  call := none
  abandoned := []
  outcomes := []

def sampleDraw (salt : BitVec 256) (index : Nat) : RefreshDraw Nat where
  now := 90
  signature := .ok ()
  replaySalt := some ⟨salt⟩
  randomTokens := none
  accessTokenId := ⟨10 + index⟩
  refreshTokenId := ⟨20 + index⟩

-- The answer to the first request is lost with the process; after the restart the
-- same attempt is answered with the same pair.
theorem lost_answer_is_replayed :
    ∃ world, Relation.ReflTransGen (Step sampleSecrets samplePolicy ⟨60, by decide⟩ ⟨3⟩) sampleStart world ∧
      (∃ session session' expiresAt expiresAt' salt access refresh,
        world.outcomes = [.rotated session expiresAt, .replayed session' expiresAt' salt access refresh]) ∧
      (∃ stored, world.vault = some stored ∧ stored.state = .ready ∧ stored.refreshToken = 225) ∧
      (∀ outcome ∈ world.outcomes, ∀ deviceId principalId, outcome ≠ .reuseDetected deviceId principalId) ∧
      ∀ row ∈ world.tables.families, row.family.id = ⟨3⟩ → row.family.state ≠ .compromised := by
  have starts : Starts sampleSecrets ⟨3⟩ sampleStart :=
    registered_starts sampleSecrets [] DeviceTables.sampleAccount DeviceTables.sampleDevice DeviceTables.sampleSession
      sampleStart.tables sampleVault rfl rfl rfl
  have run : ∃ world, Relation.ReflTransGen (Step sampleSecrets samplePolicy ⟨60, by decide⟩ ⟨3⟩) sampleStart world ∧
      (∃ session session' expiresAt expiresAt' salt access refresh,
        world.outcomes = [.rotated session expiresAt, .replayed session' expiresAt' salt access refresh]) ∧
      ∃ stored, world.vault = some stored ∧ stored.state = .ready ∧ stored.refreshToken = 225 := by
    refine ⟨_, .head (.sends _ rfl ⟨90, by decide⟩ ⟨1⟩ _ _ rfl) <|
      .head (.serves _ _ rfl rfl sampleStart.tables (sampleDraw 5 1)) <|
      .head (.restarts _ _ rfl) <|
      .head (.sends _ rfl ⟨90, by decide⟩ ⟨2⟩ _ _ rfl) <|
      .head (.serves _ _ rfl rfl sampleStart.tables (sampleDraw 6 2)) <|
      .head (.receives _ _ rfl _ rfl rfl .done) .refl, ?_, ?_⟩
    · exact ⟨_, _, _, _, _, _, _, rfl⟩
    · exact ⟨_, rfl, rfl, rfl⟩
  obtain ⟨world, steps, outcomes, vault⟩ := run
  exact ⟨world, steps, outcomes, vault,
    honest_bridge_never_trips_reuse sampleSecrets samplePolicy ⟨60, by decide⟩ ⟨3⟩ sampleStart world starts steps⟩

end Bridge

end AgentRoom
