import AgentRoom.Device.Awaited
import AgentRoom.Device.Refresh
import Mathlib.Logic.Relation

namespace AgentRoom

open Library

namespace Bridge

variable {Secret : Type}

inductive CallPhase (Secret : Type) where
  | sent
  | lost
  | answered (result : DeviceAuthorizationResult (DeviceCredentials Secret))

structure RefreshCall (Secret : Type) where
  pending : StoredBridgeDeviceCredentials Secret
  request : RefreshBridgeDevice Secret
  phase : CallPhase Secret

-- The device session tables, the vault of one Bridge, the refresh it is waiting
-- for, the requests it no longer waits for but that may still arrive, and every
-- answer the tables gave to its requests.
structure World (Secret : Type) where
  tables : DeviceTables
  vault : Option (StoredBridgeDeviceCredentials Secret)
  call : Option (RefreshCall Secret)
  abandoned : List (RefreshBridgeDevice Secret)
  outcomes : List DeviceRefreshOutcome

def World.drop (world : World Secret) (call : RefreshCall Secret) : World Secret :=
  { world with
    call := none
    abandoned :=
      match call.phase with
      | .sent => world.abandoned ++ [call.request]
      | .lost | .answered _ => world.abandoned }

def World.settle (world : World Secret) (call : RefreshCall Secret) (write : VaultWrite)
    (result : Except ControlPlaneDeviceFailureKind (DeviceCredentials Secret)) : World Secret :=
  { world.drop call with
    vault :=
      match resolveRefresh call.pending result with
      | .keep _ => world.vault
      | .clear _ => write.leaves world.vault none
      | .persist replacement => write.leaves world.vault (some replacement) }

def received (result : DeviceAuthorizationResult (DeviceCredentials Secret)) :
    Except ControlPlaneDeviceFailureKind (DeviceCredentials Secret) :=
  result.mapError fun kind => statusFailure kind.status

def serving (request : RefreshBridgeDevice Secret) : RefreshDeviceSession Secret where
  refreshToken := request.refreshToken
  attemptId := some request.attemptId

def World.execute (world : World Secret) (secrets : DeviceSecrets Secret) (policy : DeviceRefreshPolicy)
    (read : DeviceTables) (request : RefreshBridgeDevice Secret) (draw : RefreshDraw Secret) :
    World Secret × DeviceAuthorizationResult (DeviceCredentials Secret) :=
  let execution := refreshDeviceSession secrets policy read world.tables (serving request) draw
  ({ world with tables := execution.tables, outcomes := world.outcomes ++ execution.outcome.toList }, execution.result)

-- One event. The calls of the Bridge hold its session lock, so one refresh runs at a
-- time; `read` is whatever state the server read the context from before its transaction.
inductive Step (secrets : DeviceSecrets Secret) (policy : DeviceRefreshPolicy) (refreshLeadTime : DurationMillis)
    (familyId : DeviceTokenFamilyId) : World Secret → World Secret → Prop where
  | expires (world : World Secret) (idle : world.call = none) (now : UtcMillis) (fresh : DeviceRefreshAttemptId)
      (opening : openSession refreshLeadTime now fresh world.vault = .expired) (write : VaultWrite) :
      Step secrets policy refreshLeadTime familyId world { world with vault := write.leaves world.vault none }
  | marks (world : World Secret) (idle : world.call = none) (now : UtcMillis) (fresh : DeviceRefreshAttemptId)
      (pending : StoredBridgeDeviceCredentials Secret) (attemptId : DeviceRefreshAttemptId)
      (opening : openSession refreshLeadTime now fresh world.vault = .refresh pending attemptId) (write : VaultWrite) :
      Step secrets policy refreshLeadTime familyId world { world with vault := write.leaves world.vault (some pending) }
  | sends (world : World Secret) (idle : world.call = none) (now : UtcMillis) (fresh : DeviceRefreshAttemptId)
      (pending : StoredBridgeDeviceCredentials Secret) (attemptId : DeviceRefreshAttemptId)
      (opening : openSession refreshLeadTime now fresh world.vault = .refresh pending attemptId) :
      Step secrets policy refreshLeadTime familyId world
        { world with
          vault := some pending
          call := some { pending, request := { refreshToken := pending.refreshToken, attemptId }, phase := .sent } }
  | loses (world : World Secret) (call : RefreshCall Secret) (running : world.call = some call) :
      Step secrets policy refreshLeadTime familyId world { world with call := some { call with phase := .lost } }
  | losesAbandoned (world : World Secret) (first second : List (RefreshBridgeDevice Secret))
      (request : RefreshBridgeDevice Secret) (listed : world.abandoned = first ++ request :: second) :
      Step secrets policy refreshLeadTime familyId world { world with abandoned := first ++ second }
  | serves (world : World Secret) (call : RefreshCall Secret) (running : world.call = some call)
      (sent : call.phase = .sent) (read : DeviceTables) (draw : RefreshDraw Secret) :
      Step secrets policy refreshLeadTime familyId world
        { (world.execute secrets policy read call.request draw).1 with
          call := some { call with phase := .answered (world.execute secrets policy read call.request draw).2 } }
  | servesAbandoned (world : World Secret) (first second : List (RefreshBridgeDevice Secret))
      (request : RefreshBridgeDevice Secret) (listed : world.abandoned = first ++ request :: second)
      (read : DeviceTables) (draw : RefreshDraw Secret) :
      Step secrets policy refreshLeadTime familyId world
        { (world.execute secrets policy read request draw).1 with abandoned := first ++ second }
  -- An answer overtakes no request sent before its own.
  | receives (world : World Secret) (call : RefreshCall Secret) (running : world.call = some call)
      (result : DeviceAuthorizationResult (DeviceCredentials Secret)) (answered : call.phase = .answered result)
      (settled : world.abandoned = []) (write : VaultWrite) :
      Step secrets policy refreshLeadTime familyId world (world.settle call write (received result))
  | fails (world : World Secret) (call : RefreshCall Secret) (running : world.call = some call)
      (kind : ControlPlaneDeviceFailureKind) (write : VaultWrite) :
      Step secrets policy refreshLeadTime familyId world (world.settle call write (.error kind))
  | restarts (world : World Secret) (call : RefreshCall Secret) (running : world.call = some call) :
      Step secrets policy refreshLeadTime familyId world (world.drop call)
  | forgets (world : World Secret) (idle : world.call = none) (write : VaultWrite) :
      Step secrets policy refreshLeadTime familyId world { world with vault := write.leaves world.vault none }
  | others (world : World Secret) (call : SessionCall) (foreign : DeviceTables.Foreign familyId world.tables call) :
      Step secrets policy refreshLeadTime familyId world { world with tables := world.tables.perform call }

section

variable (secrets : DeviceSecrets Secret) (policy : DeviceRefreshPolicy) (familyId : DeviceTokenFamilyId)

variable {request : RefreshBridgeDevice Secret}

theorem prepared_replacement {read : DeviceTables} {replacement : DeviceTokenReplacement}
    (run : prepareRefresh secrets policy read (serving request) draw = .ok (replacement, tokens)) :
    (∃ requested, replacement.replay = some requested ∧ requested.attemptId = request.attemptId) ∧
      replacement.refreshTokenDigest = secrets.digest tokens.refreshToken := by
  obtain ⟨_, _, later⟩ := unbind run
  obtain ⟨⟨replay, drawn⟩, draws, later⟩ := unbind later
  obtain ⟨expiry, _, built⟩ := unbind later
  cases built
  obtain ⟨salt, _, later⟩ := unbind draws
  obtain ⟨derived, _, made⟩ := unbind later
  cases made
  exact ⟨⟨_, rfl, rfl⟩, rfl⟩

theorem replayed_digest {request : RefreshDeviceSession Secret} {accessDigest refreshDigest : SecretDigest}
    (run : replayedRefreshTokens secrets request salt accessDigest refreshDigest = .ok tokens) :
    secrets.digest tokens.refreshToken = refreshDigest := by
  obtain ⟨attemptId, _, later⟩ := unbind run
  obtain ⟨replayed, _, checked⟩ := unbind later
  split at checked
  · cases checked
  · rename_i matching
    cases checked
    by_contra different
    exact matching (.inr different)

structure Served (tables : DeviceTables) (request : RefreshBridgeDevice Secret) (execution : RefreshExecution Secret) : Prop where
  sound : execution.tables.Sound
  safe : execution.tables.NotCompromised familyId
  awaits : execution.tables.Awaits familyId (secrets.digest request.refreshToken) request.attemptId
  quiet : ∀ outcome ∈ execution.outcome.toList, ∀ deviceId principalId, outcome ≠ .reuseDetected deviceId principalId
  keeps : ∀ other, tables.Successor familyId (secrets.digest request.refreshToken) other →
    execution.tables.Successor familyId (secrets.digest request.refreshToken) other
  fresh : ∀ given, execution.result = .ok given →
    execution.tables.Successor familyId (secrets.digest request.refreshToken) (secrets.digest given.refreshToken)

theorem awaited_served (read : DeviceTables) {tables : DeviceTables} (sound : tables.Sound) (safe : tables.NotCompromised familyId) (draw : RefreshDraw Secret)
    (awaits : tables.Awaits familyId (secrets.digest request.refreshToken) request.attemptId) :
    Served secrets familyId tables request (refreshDeviceSession secrets policy read tables (serving request) draw) := by
  have untouched (kind : DeviceAuthorizationFailureKind) :
      Served secrets familyId tables request { tables, outcome := none, result := .error kind } :=
    ⟨sound, safe, awaits, by simp, fun _ => id, by simp⟩
  rw [refreshDeviceSession]
  split
  · exact untouched _
  · rename_i replacement tokens prepared
    split
    · exact untouched _
    · rename_i next outcome rotates
      obtain ⟨⟨requested, asked, mine⟩, issued⟩ :=
        prepared_replacement secrets policy prepared
      have harmless := DeviceTables.awaited_presentation sound safe awaits asked mine rotates
      have answered : tables.answer (.refresh (secrets.digest request.refreshToken) replacement) = .ok next :=
        (map_ok _ _ _).mpr ⟨(next, outcome), rotates, rfl⟩
      have step := DeviceTables.session_step tables next sound answered
      refine ⟨DeviceTables.step_sound tables next sound step, harmless.safe, harmless.awaits, ?_, harmless.keeps, ?_⟩
      · intro answer listed
        rw [Option.toList_some, List.mem_singleton] at listed
        exact listed ▸ harmless.quiet
      · intro given result
        cases outcome with
        | rotated session expiresAt =>
          cases result
          exact issued ▸ harmless.rotated session expiresAt rfl
        | replayed session expiresAt salt accessDigest refreshDigest =>
          obtain ⟨replayed, derives, made⟩ := unbind result
          cases made
          have same := replayed_digest secrets derives
          exact same ▸ harmless.replayed session expiresAt salt accessDigest refreshDigest rfl
        | reuseDetected _ _ => cases result
        | rejected => cases result

end

section

variable (secrets : DeviceSecrets Secret) (familyId : DeviceTokenFamilyId)

-- How the vault and the requests still on their way stand with the server: a ready
-- token was not exchanged and nothing is on its way, a pending one and all that is on
-- its way carry the one attempt the server awaits.
inductive Standing (tables : DeviceTables) :
    Option (StoredBridgeDeviceCredentials Secret) → List (RefreshBridgeDevice Secret) → Prop where
  | ready (stored : StoredBridgeDeviceCredentials Secret) (state : stored.state = .ready)
      (unused : tables.Unused familyId (secrets.digest stored.refreshToken)) : Standing tables (some stored) []
  | pending (stored : StoredBridgeDeviceCredentials Secret) (attemptId : DeviceRefreshAttemptId)
      (state : stored.state = .refreshPending (some attemptId))
      (awaits : tables.Awaits familyId (secrets.digest stored.refreshToken) attemptId)
      (requests : List (RefreshBridgeDevice Secret))
      (same : ∀ request ∈ requests, request = { refreshToken := stored.refreshToken, attemptId }) :
      Standing tables (some stored) requests
  | cleared (requests : List (RefreshBridgeDevice Secret))
      (same : ∀ first ∈ requests, ∀ second ∈ requests, first = second)
      (awaits : ∀ request ∈ requests,
        tables.Awaits familyId (secrets.digest request.refreshToken) request.attemptId) : Standing tables none requests

variable {secrets familyId} {tables next : DeviceTables} {vault : Option (StoredBridgeDeviceCredentials Secret)}
  {requests fewer : List (RefreshBridgeDevice Secret)}

theorem standing_fewer (standing : Standing secrets familyId tables vault requests) (within : fewer ⊆ requests) :
    Standing secrets familyId tables vault fewer := by
  cases standing with
  | ready stored state unused =>
    rw [List.subset_nil.mp within]
    exact .ready stored state unused
  | pending stored attemptId state awaits _ same =>
    exact .pending stored attemptId state awaits fewer fun request listed => same request (within listed)
  | cleared _ same awaits =>
    exact .cleared fewer (fun first listed second listed' => same first (within listed) second (within listed'))
      fun request listed => awaits request (within listed)

theorem standing_awaits (standing : Standing secrets familyId tables vault requests)
    (request : RefreshBridgeDevice Secret) (listed : request ∈ requests) :
    tables.Awaits familyId (secrets.digest request.refreshToken) request.attemptId := by
  cases standing with
  | ready _ _ _ => cases listed
  | pending stored attemptId _ awaits _ same =>
    rw [same request listed]
    exact awaits
  | cleared _ _ awaits => exact awaits request listed

section

variable (standing : Standing secrets familyId tables vault requests)
include standing

theorem standing_request (listed : request ∈ requests)
    (held : vault = some stored) (state : stored.state = .refreshPending (some attemptId)) :
    request = { refreshToken := stored.refreshToken, attemptId } := by
  cases standing with
  | ready _ _ _ => cases listed
  | pending _ earlier waiting _ _ same =>
    cases held
    rw [state] at waiting
    cases waiting
    exact same request listed
  | cleared _ _ _ => cases held

-- The request served is the only one there is, however often it was sent.
theorem standing_served (listed : request ∈ requests)
    (awaits : next.Awaits familyId (secrets.digest request.refreshToken) request.attemptId) :
    Standing secrets familyId next vault requests := by
  cases standing with
  | ready _ _ _ => cases listed
  | pending stored attemptId state _ _ same =>
    rw [same request listed] at awaits
    exact .pending stored attemptId state awaits requests same
  | cleared _ same _ =>
    refine .cleared requests same ?_
    intro other listed'
    rw [same other listed' request listed]
    exact awaits

theorem standing_untouched (untouched : tables.Untouched next familyId) : Standing secrets familyId next vault requests := by
  cases standing with
  | ready stored state unused => exact .ready stored state (DeviceTables.unused_untouched untouched unused)
  | pending stored attemptId state awaits _ same =>
    exact .pending stored attemptId state (DeviceTables.awaits_untouched untouched awaits) requests same
  | cleared _ same awaits =>
    exact .cleared requests same fun request listed =>
      DeviceTables.awaits_untouched untouched (awaits request listed)

theorem standing_cleared : Standing secrets familyId tables none requests := by
  have awaits := standing_awaits standing
  cases standing with
  | ready _ _ _ => exact .cleared [] (by simp) (by simp)
  | pending stored attemptId _ _ _ same =>
    refine .cleared requests ?_ awaits
    intro first listed second listed'
    rw [same first listed, same second listed']
  | cleared _ same _ => exact .cleared requests same awaits

end

theorem open_session_refresh (opening : openSession refreshLeadTime now fresh vault = .refresh pending attemptId) :
    ∃ stored, vault = some stored ∧ pending = { stored with state := .refreshPending (some attemptId) } ∧
      ∀ earlier, stored.state = .refreshPending (some earlier) → earlier = attemptId := by
  cases vault with
  | none => cases opening
  | some stored =>
    rw [openSession] at opening
    split at opening
    · cases opening
    · split at opening
      · rename_i ready
        split at opening
        · cases opening
        · split at opening
          · cases opening
          · cases opening
            exact ⟨stored, rfl, rfl, by simp [ready]⟩
      · rename_i earlier waiting
        cases opening
        exact ⟨stored, rfl, rfl, by simp [waiting]⟩
      · rename_i waiting
        cases opening
        exact ⟨stored, rfl, rfl, by simp [waiting]⟩

theorem standing_marked (standing : Standing secrets familyId tables vault requests)
    (opening : openSession refreshLeadTime now fresh vault = .refresh pending attemptId) :
    pending.state = .refreshPending (some attemptId) ∧ tables.Awaits familyId (secrets.digest pending.refreshToken) attemptId ∧
      ∀ request ∈ requests, request = { refreshToken := pending.refreshToken, attemptId } := by
  obtain ⟨stored, held, rfl, agrees⟩ := open_session_refresh opening
  subst held
  cases standing with
  | ready _ _ unused => exact ⟨rfl, DeviceTables.unused_awaits unused, by simp⟩
  | pending _ earlier state awaits _ same =>
    obtain rfl := agrees earlier state
    exact ⟨rfl, awaits, same⟩

end

end Bridge

end AgentRoom
