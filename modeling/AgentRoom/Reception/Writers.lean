import AgentRoom.Library.Runs
import AgentRoom.Reception.Records

namespace AgentRoom.Reception

open Library

inductive ReceptionCall where
  | execute (principal : PrincipalId) (device : DeviceId) (request : ReceptionRequest)
  | drain (principal : PrincipalId) (agent : AgentId) (catalog : RoomCatalogId) (nextDevice : Option DeviceId)

def ReceptionCall.key : ReceptionCall → AgentId × RoomCatalogId
  | .execute _ _ request => (request.agentId, request.catalogId)
  | .drain _ agent catalog _ => (agent, catalog)

def ReceptionCall.owner : ReceptionCall → Option ReceptionOwner
  | .execute _ device request => some ⟨request.instanceId, device, request.runId⟩
  | .drain _ _ _ _ => none

def ReceptionCall.command : ReceptionCall → Option ReceptionCommand
  | .execute _ _ request => some request.command
  | .drain _ _ _ _ => none

structure ReceptionTurn where
  authority : ReceptionAuthority
  call : ReceptionCall

def perform (turn : ReceptionTurn) (table : ReceptionTable) : StoreResult (ReceptionTable × ReceptionRecord) :=
  match turn.call with
  | .execute principal device request => execute turn.authority table principal device request
  | .drain principal agent catalog nextDevice => drain turn.authority table principal agent catalog nextDevice

-- A call fails and changes nothing, or it is committed, whether its answer arrives or not.
def ReceptionStep (table : ReceptionTable) (turn : ReceptionTurn) (next : ReceptionTable) : Prop :=
  next = table ∨ ∃ record, perform turn table = .ok (next, record)

def Keyed (table : ReceptionTable) : Prop :=
  ∀ key record, table key = some record → (record.agentId, record.catalogId) = key

structure Fenced (turn : ReceptionTurn) (record after : ReceptionRecord) : Prop where
  progress : after.progress ≠ record.progress → turn.call.owner = some record.owner ∧ record.status ≠ .idle ∧
    turn.call.command = some (.save record.revision after.progress) ∧ after.revision = record.revision + 1
  revision : after.progress = record.progress → after.revision = record.revision
  repeated : ∀ revision, turn.call.command = some (.save revision record.progress) →
    after.progress = record.progress ∧ after.revision = record.revision
  owner : after.owner ≠ record.owner → record.status = .idle
  idle : after.status = .idle → record.status ≠ .idle →
    (turn.call.owner = some record.owner ∧ turn.call.command = some .release) ∨
      (∃ principal nextDevice, turn.call = .drain principal record.agentId record.catalogId nextDevice ∧
        turn.authority.instanceRevoked record.instanceId = true ∧
        turn.authority.matrixDeviceRevoked record.instanceId = true)

section

variable (record : ReceptionRecord) (next : ReceptionExecution)

theorem applied_ok (done : applied (execution record) transition = .ok next) :
    (execution record).apply transition = .ok next := by
  cases result : (execution record).apply transition with
  | ok value =>
    rw [applied, result, map_error_ok] at done
    exact congrArg Except.ok (Except.ok.inj done)
  | error conflict =>
    rw [applied, result] at done
    cases done

theorem claimed (owner : ReceptionOwner) (done : (execution record).apply (.claim owner) = .ok next) :
    (owner = record.owner ∨ record.status = .idle) ∧ next.mode = .active := by
  rw [ReceptionExecution.apply] at done
  by_cases again : (execution record).mode = .active ∧ (execution record).owner = some owner
  · rw [if_pos again] at done
    cases done
    exact ⟨.inl (Option.some.inj again.2).symm, again.1⟩
  · rw [if_neg again] at done
    by_cases idle : (execution record).mode ≠ .idle
    · rw [if_pos idle] at done
      cases done
    · rw [if_neg idle] at done
      split at done
      · cases done
      · split at done
        · cases done
        · cases done
          exact ⟨.inr (not_not.mp idle), rfl⟩

theorem released (owner : ReceptionOwner) (done : (execution record).apply (.release owner) = .ok next) :
    owner = record.owner := by
  rw [ReceptionExecution.apply] at done
  by_cases other : (execution record).owner ≠ some owner
  · rw [if_pos other] at done
    cases done
  · exact (Option.some.inj (not_not.mp other)).symm

theorem advance_ok (after : ReceptionRecord) (revision : Int) (progress : ReceptionProgress)
    (done : advance record revision progress = .ok after) : (after = record ∧ progress = record.progress) ∨
      (progress ≠ record.progress ∧ revision = record.revision ∧
        after = { record with progress, revision := record.revision + 1 }) := by
  rw [advance] at done
  by_cases changed : record.progress ≠ progress
  · rw [if_pos changed] at done
    obtain ⟨_, based, rest⟩ := unbind done
    obtain ⟨_, _, built⟩ := unbind rest
    exact .inr ⟨fun same => changed same.symm, ((ensure_ok ..).mp based).symm, (Except.ok.inj built).symm⟩
  · rw [if_neg changed] at done
    exact .inl ⟨(Except.ok.inj done).symm, (not_not.mp changed).symm⟩

end

section

variable {authority : ReceptionAuthority} {principal : PrincipalId} {device : DeviceId} {request : ReceptionRequest}

theorem obey_fenced {after : ReceptionRecord} (done : obey device request record = .ok (record', execution'))
    (built : after = { record with
      instanceId := record'.instanceId
      deviceId := record'.deviceId
      runId := record'.runId
      status := execution'.mode
      nextDeviceId := execution'.nextDevice
      revision := record'.revision
      progress := record'.progress
      lastSeenUnixMs := authority.now }) :
    Fenced ⟨authority, .execute principal device request⟩ record after := by
  subst built
  rw [obey] at done
  cases command : request.command with
  | claim sessionKey displayName initial =>
    rw [command] at done
    obtain ⟨_, _, rest⟩ := unbind done
    obtain ⟨next, applies, made⟩ := unbind rest
    cases made
    obtain ⟨entitled, active⟩ := claimed record execution' _ (applied_ok record execution' applies)
    constructor
    · exact fun changed => absurd rfl changed
    · exact fun _ => rfl
    · exact fun _ _ => ⟨rfl, rfl⟩
    · intro changed
      rcases entitled with same | idle
      · exact absurd same changed
      · exact idle
    · intro became
      exact absurd (active.symm.trans became) (by decide)
  | heartbeat =>
    rw [command] at done
    obtain ⟨_, checked, made⟩ := unbind done
    cases made
    have held := (ensure_ok ..).mp checked
    constructor
    · exact fun changed => absurd rfl changed
    · exact fun _ => rfl
    · exact fun _ _ => ⟨rfl, rfl⟩
    · exact fun changed => absurd rfl changed
    · exact fun became => absurd became held.2
  | save revision progress =>
    rw [command] at done
    obtain ⟨_, checked, rest⟩ := unbind done
    obtain ⟨advanced, stepped, made⟩ := unbind rest
    cases made
    obtain ⟨mine, busy⟩ := (ensure_ok ..).mp checked
    have own : (⟨request.instanceId, device, request.runId⟩ : ReceptionOwner) = record.owner := (Option.some.inj mine).symm
    have told : (ReceptionCall.execute principal device request).command = some (.save revision progress) :=
      congrArg some command
    rcases advance_ok record record' revision progress stepped with ⟨same, known⟩ | ⟨new, based, same⟩
    · subst same
      constructor
      · exact fun changed => absurd rfl changed
      · exact fun _ => rfl
      · exact fun _ _ => ⟨rfl, rfl⟩
      · exact fun changed => absurd rfl changed
      · exact fun became => absurd became busy
    · subst same
      constructor
      · intro _
        exact ⟨congrArg some own, busy, based ▸ told, rfl⟩
      · exact fun same => absurd same new
      · intro other asked
        have same := Option.some.inj (told.symm.trans asked)
        cases same
        exact absurd rfl new
      · exact fun changed => absurd rfl changed
      · exact fun became => absurd became busy
  | release =>
    rw [command] at done
    obtain ⟨next, applies, made⟩ := unbind done
    cases made
    have own := released record execution' _ (applied_ok record execution' applies)
    constructor
    · exact fun changed => absurd rfl changed
    · exact fun _ => rfl
    · exact fun _ _ => ⟨rfl, rfl⟩
    · exact fun changed => absurd rfl changed
    · exact fun _ _ => .inl ⟨congrArg some own, congrArg some command⟩

theorem obey_key (done : obey device request record = .ok (record', execution')) :
    (record'.agentId, record'.catalogId) = (record.agentId, record.catalogId) := by
  rw [obey] at done
  cases command : request.command with
  | claim sessionKey displayName initial =>
    rw [command] at done
    obtain ⟨_, _, rest⟩ := unbind done
    obtain ⟨_, _, made⟩ := unbind rest
    cases made
    rfl
  | heartbeat =>
    rw [command] at done
    obtain ⟨_, _, made⟩ := unbind done
    cases made
    rfl
  | save revision progress =>
    rw [command] at done
    obtain ⟨_, _, rest⟩ := unbind done
    obtain ⟨advanced, stepped, made⟩ := unbind rest
    cases made
    rcases advance_ok record record' revision progress stepped with ⟨same, _⟩ | ⟨_, _, same⟩
    · rw [same]
    · rw [same]
  | release =>
    rw [command] at done
    obtain ⟨_, _, made⟩ := unbind done
    cases made
    rfl

theorem drain_fenced {catalog : RoomCatalogId} {next : ReceptionExecution} (own : (record.agentId, record.catalogId) = (agent, catalog))
    (applies : applied (execution record) (.drain nextDevice) = .ok next) :
    Fenced ⟨authority, .drain principal agent catalog nextDevice⟩ record { record with
      status := if (authority.instanceRevoked record.instanceId && authority.matrixDeviceRevoked record.instanceId) = true
        then .idle else next.mode
      nextDeviceId := nextDevice } := by
  have drained := applied_ok record next applies
  cases drained
  constructor
  · exact fun changed => absurd rfl changed
  · exact fun _ => rfl
  · exact fun _ asked => by cases asked
  · exact fun changed => absurd rfl changed
  · intro became busy
    obtain ⟨sameAgent, sameCatalog⟩ := Prod.mk.inj own
    by_cases gone : (authority.instanceRevoked record.instanceId && authority.matrixDeviceRevoked record.instanceId) = true
    · obtain ⟨revoked, revoked'⟩ := Bool.and_eq_true_iff.mp gone
      exact .inr ⟨principal, nextDevice, by rw [sameAgent, sameCatalog], revoked, revoked'⟩
    · have draining : (execution record).mode ≠ .idle := busy
      simp [gone, draining] at became

end

section

variable {table next : ReceptionTable}

variable {record : ReceptionRecord} {turn : ReceptionTurn}

theorem find_some (found : find table agent catalog = .ok (some record)) : table (agent, catalog) = some record := by
  rw [find] at found
  cases row : table (agent, catalog) with
  | none =>
    rw [row] at found
    cases found
  | some stored =>
    rw [row] at found
    obtain ⟨decoded, checked, same⟩ := (map_ok ..).mp found
    obtain ⟨_, _, built⟩ := unbind checked
    cases built
    exact same

theorem find_none (found : find table agent catalog = .ok none) : table (agent, catalog) = none := by
  rw [find] at found
  cases row : table (agent, catalog) with
  | none => rfl
  | some stored =>
    rw [row] at found
    obtain ⟨_, _, impossible⟩ := (map_ok ..).mp found
    cases impossible

@[simp] theorem put_same (table : ReceptionTable) (agent : AgentId) (catalog : RoomCatalogId) (record : ReceptionRecord) :
    put table agent catalog record (agent, catalog) = some record := if_pos rfl

theorem put_other (table : ReceptionTable) (agent : AgentId) (catalog : RoomCatalogId) (record : ReceptionRecord)
    (key : AgentId × RoomCatalogId) (other : key ≠ (agent, catalog)) : put table agent catalog record key = table key :=
  if_neg other

theorem put_keyed (keyed : Keyed table) {record : ReceptionRecord}
    (own : (record.agentId, record.catalogId) = (agent, catalog)) : Keyed (put table agent catalog record) := by
  intro key stored found
  by_cases same : key = (agent, catalog)
  · subst same
    rw [put_same] at found
    exact Option.some.inj found ▸ own
  · rw [put_other _ _ _ _ _ same] at found
    exact keyed key stored found

-- A row is written for the first time, or the one that is there is changed within bounds.
inductive Wrote (turn : ReceptionTurn) (table next : ReceptionTable) : Prop where
  | created (record : ReceptionRecord) (free : table turn.call.key = none)
      (own : (record.agentId, record.catalogId) = turn.call.key) (built : next = put table turn.call.key.1 turn.call.key.2 record)
  | changed (record after : ReceptionRecord) (stored : table turn.call.key = some record)
      (own : (after.agentId, after.catalogId) = turn.call.key) (fenced : Fenced turn record after)
      (built : next = put table turn.call.key.1 turn.call.key.2 after)

theorem create_wrote {principal : PrincipalId} (free : table (request.agentId, request.catalogId) = none)
    (done : create authority table device request = .ok (next, record)) :
    Wrote ⟨authority, .execute principal device request⟩ table next := by
  rw [create] at done
  cases command : request.command with
  | claim sessionKey displayName initial =>
    rw [command] at done
    obtain ⟨_, _, rest⟩ := unbind done
    obtain ⟨_, _, built⟩ := unbind rest
    cases built
    exact .created _ free rfl rfl
  | heartbeat =>
    rw [command] at done
    cases done
  | save revision progress =>
    rw [command] at done
    cases done
  | release =>
    rw [command] at done
    cases done

section

variable (keyed : Keyed table)
include keyed

theorem execute_wrote (done : execute authority table principal device request = .ok (next, record)) :
    Wrote ⟨authority, .execute principal device request⟩ table next := by
  obtain ⟨_, _, rest⟩ := unbind done
  obtain ⟨_, _, locked⟩ := unbind rest
  obtain ⟨_, _, rest⟩ := unbind locked
  obtain ⟨_, _, rest⟩ := unbind rest
  obtain ⟨found, sought, rest⟩ := unbind rest
  cases found with
  | none => exact create_wrote (find_none sought) rest
  | some stored =>
    have there := find_some sought
    have own := keyed _ stored there
    obtain ⟨_, _, rest⟩ := unbind rest
    obtain ⟨⟨changed, execution'⟩, obeyed, rest⟩ := unbind rest
    obtain ⟨_, _, built⟩ := unbind rest
    cases built
    have same : (changed.agentId, changed.catalogId) = (request.agentId, request.catalogId) :=
      (obey_key obeyed).trans own
    obtain ⟨sameAgent, sameCatalog⟩ := Prod.mk.inj same
    refine .changed stored _ there ?_ (obey_fenced obeyed rfl) ?_
    · exact own
    · simp [save, sameAgent, sameCatalog, there, ReceptionCall.key]

theorem drain_wrote (done : drain authority table principal agent catalog nextDevice = .ok (next, record)) :
    Wrote ⟨authority, .drain principal agent catalog nextDevice⟩ table next := by
  obtain ⟨_, _, rest⟩ := unbind done
  obtain ⟨_, _, rest⟩ := unbind rest
  obtain ⟨found, sought, rest⟩ := unbind rest
  cases found with
  | none => cases rest
  | some stored =>
    have there := find_some sought
    have own := keyed _ stored there
    obtain ⟨drained, applies, rest⟩ := unbind rest
    obtain ⟨_, _, built⟩ := unbind rest
    cases built
    refine .changed stored _ there ?_ (drain_fenced own applies) rfl
    exact own

theorem step_wrote (stepped : ReceptionStep table turn next) : next = table ∨ Wrote turn table next := by
  rcases stepped with same | ⟨record, done⟩
  · exact .inl same
  · obtain ⟨authority, call⟩ := turn
    cases call with
    | execute principal device request => exact .inr (execute_wrote keyed done)
    | drain principal agent catalog nextDevice =>
      exact .inr (drain_wrote keyed done)

theorem step_keyed (stepped : ReceptionStep table turn next) : Keyed next := by
  rcases step_wrote keyed stepped with same | ⟨record, _, own, built⟩ | ⟨_, after, _, own, _, built⟩
  · exact same ▸ keyed
  · exact built ▸ put_keyed keyed own
  · exact built ▸ put_keyed keyed own

theorem step_fenced (stepped : ReceptionStep table turn next) (stored : table key = some record) :
    ∃ after, next key = some after ∧ (after = record ∨ (turn.call.key = key ∧ Fenced turn record after)) := by
  rcases step_wrote keyed stepped with same | ⟨created, free, _, built⟩ | ⟨before, after, there, _, fenced, built⟩
  · exact ⟨record, same ▸ stored, .inl rfl⟩
  · have other : key ≠ turn.call.key := by
      intro same
      rw [← same, stored] at free
      cases free
    have untouched := put_other table turn.call.key.1 turn.call.key.2 created key other
    exact ⟨record, by rw [built, untouched, stored], .inl rfl⟩
  · by_cases same : key = turn.call.key
    · subst same
      rw [stored] at there
      cases there
      exact ⟨after, by rw [built, put_same], .inr ⟨rfl, fenced⟩⟩
    · have untouched := put_other table turn.call.key.1 turn.call.key.2 after key same
      exact ⟨record, by rw [built, untouched, stored], .inl rfl⟩

end

end

-- A later record has a higher revision, or the very progress of the earlier one.
def Continues (record after : ReceptionRecord) : Prop :=
  record.revision ≤ after.revision ∧ (after.revision = record.revision → after.progress = record.progress)

theorem fenced_continues {record after : ReceptionRecord} (fenced : Fenced turn record after) : Continues record after := by
  by_cases same : after.progress = record.progress
  · exact ⟨le_of_eq (fenced.revision same).symm, fun _ => same⟩
  · obtain ⟨_, _, _, raised⟩ := fenced.progress same
    refine ⟨by omega, fun unraised => ?_⟩
    omega

theorem reached_keyed {start : ReceptionTable} (keyed : Keyed start) (run : Runs ReceptionStep start turns table) : Keyed table :=
  runs_invariant Keyed (fun _ _ _ holds stepped => step_keyed holds stepped) keyed run

theorem run_continues (start final : ReceptionTable) (turns : List ReceptionTurn) (keyed : Keyed start)
    (run : Runs ReceptionStep start turns final) (key : AgentId × RoomCatalogId) (record : ReceptionRecord)
    (stored : start key = some record) : ∃ after, final key = some after ∧ Continues record after := by
  induction turns generalizing start record with
  | nil =>
    cases run
    exact ⟨record, stored, le_refl _, fun _ => rfl⟩
  | cons turn rest ih =>
    obtain ⟨next, stepped, onward⟩ := run
    obtain ⟨middle, there, change⟩ := step_fenced keyed stepped stored
    have continues : Continues record middle := by
      rcases change with same | ⟨_, fenced⟩
      · exact same ▸ ⟨le_refl _, fun _ => rfl⟩
      · exact fenced_continues fenced
    obtain ⟨after, last, later⟩ := ih next (step_keyed keyed stepped) onward middle there
    refine ⟨after, last, le_trans continues.1 later.1, fun unraised => ?_⟩
    have bounds := And.intro continues.1 later.1
    exact (later.2 (by omega)).trans (continues.2 (by omega))

-- Whatever calls come in whatever order, each change of a record is one its fence allows,
-- and no revision ever stands for two states of progress.
theorem reception_progress_has_one_writer (turns : List ReceptionTurn) (table : ReceptionTable)
    (run : Runs ReceptionStep (fun _ => none) turns table) (key : AgentId × RoomCatalogId) (record : ReceptionRecord)
    (stored : table key = some record) : (∀ turn next, ReceptionStep table turn next → ∃ after, next key = some after ∧
      (after = record ∨ (turn.call.key = key ∧ Fenced turn record after))) ∧
    ∀ more final, Runs ReceptionStep table more final → ∃ after, final key = some after ∧ Continues record after := by
  have opening : Keyed fun _ => none := by
    intro key record found
    cases found
  have keyed := reached_keyed opening run
  exact ⟨fun turn next stepped => step_fenced keyed stepped stored,
    fun more final onward => run_continues table final more keyed onward key record stored⟩

def openAuthority : ReceptionAuthority where
  maySend _ := true
  ownsAgent _ _ := true
  instanceAllowed _ _ _ := true
  agentSlug _ _ := true
  deviceAllowed _ _ := true
  instanceRevoked _ := false
  matrixDeviceRevoked _ := false
  now := 1767225600000

def freshProgress : ReceptionProgress := ⟨none, none, none⟩

def readProgress : ReceptionProgress := ⟨some "$first", none, none⟩

def lobbyRequest (command : ReceptionCommand) : ReceptionRequest where
  agentId := ⟨0x019b76daa80070008000000000000003⟩
  instanceId := ⟨0x019b76daa80070008000000000000004⟩
  catalogId := ⟨0x019b76daa80070008000000000000005⟩
  roomId := "!lobby:example.org"
  runId := ⟨0x019b76daa80070008000000000000006⟩
  command

def lobbyTurn (command : ReceptionCommand) : ReceptionTurn where
  authority := openAuthority
  call := .execute ⟨0x019b76daa80070008000000000000001⟩ ⟨0x019b76daa80070008000000000000002⟩ (lobbyRequest command)

def lobbyKey : AgentId × RoomCatalogId := (⟨0x019b76daa80070008000000000000003⟩, ⟨0x019b76daa80070008000000000000005⟩)

def lobbyRecord (revision : Int) (progress : ReceptionProgress) : ReceptionRecord where
  agentId := lobbyKey.1
  catalogId := lobbyKey.2
  roomId := "!lobby:example.org"
  sessionKey := 0x019b76daa80070008000000000000007
  displayName := "Ada"
  instanceId := ⟨0x019b76daa80070008000000000000004⟩
  deviceId := ⟨0x019b76daa80070008000000000000002⟩
  runId := ⟨0x019b76daa80070008000000000000006⟩
  status := .active
  nextDeviceId := none
  lastSeenUnixMs := 1767225600000
  revision
  progress

def lobbyTable (record : ReceptionRecord) : ReceptionTable := put (fun _ => none) lobbyKey.1 lobbyKey.2 record

theorem lobby_claimed : ReceptionStep (fun _ => none)
    (lobbyTurn (.claim 0x019b76daa80070008000000000000007 "Ada" freshProgress)) (lobbyTable (lobbyRecord 0 freshProgress)) := by
  refine .inr ⟨lobbyRecord 0 freshProgress, ?_⟩
  have valid : ensure RepositoryErrorKind.constraint ((lobbyRequest (.claim 0x019b76daa80070008000000000000007 "Ada" freshProgress)).valid = true) = .ok () := if_pos (by decide +kernel)
  simp only [perform, lobbyTurn, execute, valid]
  rfl

theorem lobby_saved : ∃ next, ReceptionStep (lobbyTable (lobbyRecord 0 freshProgress)) (lobbyTurn (.save 0 readProgress)) next ∧
    next lobbyKey = some (lobbyRecord 1 readProgress) := by
  have valid : ensure RepositoryErrorKind.constraint ((lobbyRequest (.save 0 readProgress)).valid = true) = .ok () := if_pos (by decide +kernel)
  refine ⟨save openAuthority (lobbyTable (lobbyRecord 0 freshProgress)) (lobbyRecord 1 readProgress),
    .inr ⟨lobbyRecord 1 readProgress, ?_⟩, rfl⟩
  simp only [perform, lobbyTurn, execute, valid]
  rfl

theorem lobby_progress_fenced : ∃ next after, ReceptionStep (lobbyTable (lobbyRecord 0 freshProgress))
    (lobbyTurn (.save 0 readProgress)) next ∧ next lobbyKey = some after ∧ after.revision = 1 ∧
      (after = lobbyRecord 0 freshProgress ∨ ((lobbyTurn (.save 0 readProgress)).call.key = lobbyKey ∧
        Fenced (lobbyTurn (.save 0 readProgress)) (lobbyRecord 0 freshProgress) after)) := by
  have run : Runs ReceptionStep (fun _ => none)
      [lobbyTurn (.claim 0x019b76daa80070008000000000000007 "Ada" freshProgress)] (lobbyTable (lobbyRecord 0 freshProgress)) :=
    ⟨_, lobby_claimed, rfl⟩
  obtain ⟨next, saved, written⟩ := lobby_saved
  obtain ⟨after, there, bounded⟩ := (reception_progress_has_one_writer _ _ run lobbyKey _ rfl).1 _ next saved
  have same := Option.some.inj (written.symm.trans there)
  exact ⟨next, after, saved, there, same ▸ rfl, bounded⟩

end AgentRoom.Reception
