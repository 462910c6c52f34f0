import AgentRoom.Moderation.Bans

namespace AgentRoom.Moderation

open Library
open Lobby (LobbyCall LobbyAnswer ProvisioningProgram RoomInstance RoomProvisioningJob)

section

variable (parseUuid : String → Option PrincipalId) (accounts : PrincipalId → Bool) (homes : String → Option MatrixRoomId)

-- The same for a program that makes the calls of the lobby only.
abbrev Provides {ε α : Type} (told : α → ModerationWorld → Prop) (program : Lobby.LobbyProgram ε α) (world : ModerationWorld) : Prop :=
  Tells ((moderationRely parseUuid accounts homes True).within PortCall.lobby fun _ answer => answer)
    (fun call => MayCall parseUuid accounts homes True (.lobby call)) told program world

variable {parseUuid accounts homes} (world : ModerationWorld)

theorem lobby_call {call : LobbyCall} {read : LobbyAnswer call → Except ε α}
    (free : ∀ now, MayCall parseUuid accounts homes True (.lobby call) now) :
    Provides parseUuid accounts homes (fun _ _ => True) (consult call read) world :=
  tells_nothing fun now _ _ => free now

theorem lobby_clock : Provides parseUuid accounts homes (fun time now => time ≤ now.now) (Lobby.clock : ProvisioningProgram UtcMillis) world := by
  refine tells_call (fun _ _ _ => trivial) ?_ ?_
  · exact fun time before after _ later past => UtcMillis.le_trans _ _ _ past later.now
  · rintro now _ after time _ _ ⟨answer, rfl, rfl, rfl⟩ _ reads
    cases reads
    exact UtcMillis.le_refl _

theorem lobby_claim : Provides parseUuid accounts homes (fun _ _ => True) (Lobby.provisioningClaim lifetime catalogId target aliasLocalpart) world := by
  refine tells_past (tells_quiet (lobby_clock world)) fun now first _ _ => ?_
  refine tells_past tells_result fun expiresAt second _ _ => ?_
  refine tells_past (lobby_call second fun _ => trivial) fun jobId third _ _ => ?_
  refine tells_past (lobby_call third fun _ => trivial) fun leaseId fourth _ _ => ?_
  exact tells_result

variable {job : RoomProvisioningJob} {stages : Lobby.MatrixRoomStages} (room : MatrixRoomId)

theorem lobby_release {told : α → ModerationWorld → Prop} :
    Provides parseUuid accounts homes told (Lobby.releaseMatrixFailure job code stage source) world := by
  refine tells_past (tells_quiet (lobby_clock world)) fun now first _ _ => ?_
  exact tells_past (lobby_call first fun _ => trivial) fun _ second _ _ => tells_settled nofun

theorem lobby_checkpoint : Provides parseUuid accounts homes (fun _ _ => True) (Lobby.checkpoint job stages room) world := by
  refine tells_past (tells_quiet (lobby_clock world)) fun now first _ _ => ?_
  exact tells_past (lobby_call first fun _ => trivial) fun _ second _ _ => tells_done

theorem lobby_resolve_room : Provides parseUuid accounts homes (fun _ _ => True) (Lobby.resolveRoom job stages) world := by
  refine tells_past (lobby_call world fun _ => trivial) fun resolved first _ _ => ?_
  cases resolved with
  | ok room => exact lobby_checkpoint first room
  | error source => exact lobby_release first

theorem lobby_ensure_room : Provides parseUuid accounts homes (fun _ _ => True) (Lobby.ensureMatrixRoom job stages) world := by
  unfold Lobby.ensureMatrixRoom
  split
  · exact tells_done
  · refine tells_past (lobby_call world fun _ => trivial) fun created first _ _ => ?_
    split
    · exact lobby_checkpoint first _
    · exact lobby_resolve_room first
    · exact lobby_resolve_room first
    · exact lobby_release first

theorem lobby_ensure_space : Provides parseUuid accounts homes (fun _ _ => True) (Lobby.ensureSpace lifetime catalog) world := by
  unfold Lobby.ensureSpace
  split
  · exact tells_done
  · refine tells_past tells_result fun aliasLocalpart first _ _ => ?_
    refine tells_past (lobby_claim first) fun claim second _ _ => ?_
    refine tells_past (lobby_call second fun _ => trivial) fun outcome third _ _ => ?_
    cases outcome with
    | claimed job =>
      refine tells_past tells_result fun _ fourth _ _ => ?_
      refine tells_past (lobby_ensure_room fourth) fun space fifth _ _ => ?_
      refine tells_past (tells_quiet (lobby_clock fifth)) fun now sixth _ _ => ?_
      exact tells_past (lobby_call sixth fun _ => trivial) fun _ last _ _ => tells_done
    | busy retryAt | spaceReady catalog => exact tells_done
    | instanceReady room => exact tells_result

theorem lobby_attach : Provides parseUuid accounts homes (fun _ _ => True) (Lobby.attachInstance job space room) world := by
  refine tells_past (lobby_call world fun _ => trivial) fun attached first _ _ => ?_
  cases attached with
  | ok done => exact tells_done
  | error source => exact lobby_release first

variable {time : UtcMillis} {standing : List ModerationAction}

theorem lobby_carry_over : Provides parseUuid accounts homes
    (fun _ now => ∀ action ∈ standing, .effect false (.room room) action ∈ now.log) (Lobby.carryOver job room standing) world := by
  induction standing generalizing world with
  | nil => exact tells_pure fun _ _ _ action listed => by cases listed
  | cons action rest ih =>
    have lasting : Lasting parseUuid accounts homes True (.effect false (.room room) action ∈ ·.log) :=
      fun _ _ _ onward there => onward.log.subset there
    refine tells_then (fun applied now => applied = .ok () → .effect false (.room room) action ∈ now.log) ?_ ?_
    · refine tells_call (fun _ _ _ => trivial) ?_ ?_
      · exact fun applied before after sound later there ok => lasting before after sound later (there ok)
      · rintro now _ after applied _ _ ⟨answer, rfl, answers⟩ _ reads rfl
        cases reads
        rcases answers with ⟨rfl, _⟩ | ⟨_, error, failed⟩
        · exact List.mem_concat_self
        · cases failed
    · intro applied now _ _ done
      cases applied with
      | error source => exact lobby_release now
      | ok carried =>
        refine tells_weaker ?_ (tells_frame lasting (done rfl) (ih now))
        rintro _ after _ ⟨others, first⟩ other listed
        rcases List.mem_cons.mp listed with rfl | later
        · exact first
        · exact others other later

-- The answer of the ledger, as far as it is asked about this catalog.
def ReadStanding (parseUuid : String → Option PrincipalId) (accounts : PrincipalId → Bool) (job : RoomProvisioningJob)
    (standing : List ModerationAction) (room : MatrixRoomId) (time : UtcMillis) (world : ModerationWorld) : Prop :=
  job.catalog.id = world.catalogId → ∃ seen between, world.log = seen ++ .carriedRead job.leaseId room time :: between ∧
    time ≤ world.now ∧ CarriedOver parseUuid accounts world
      (fun action => ∃ listed ∈ standing.filter (Lobby.carriesOver · time), ModerationAction.SameIdentity listed action) seen time

theorem read_standing_lasting {room : MatrixRoomId} :
    Lasting parseUuid accounts homes True (ReadStanding parseUuid accounts job standing room time) := by
  intro before after _ later read ours
  obtain ⟨seen, between, split, past, carried⟩ := read (ours.trans later.catalogId)
  obtain ⟨more, grown⟩ := later.log
  refine ⟨seen, between ++ more, ?_, UtcMillis.le_trans _ _ _ past later.now, ?_⟩
  · rw [← grown, split, List.append_assoc, List.cons_append]
  · refine carried_over_later before after later ?_ carried
    rintro action action' same ⟨listed, there, mine⟩
    exact ⟨listed, there, same_identity_trans mine same⟩

theorem standing_listed {row : LedgerRow} (there : row ∈ world.ledger) (kind : row.action.kind = .mute ∨ row.action.kind = .ban)
    (account : (parseUuid row.action.target.reference).any accounts = true) (effective : row.action.isEffectiveAt now = true) :
    row.action ∈ (standingActions parseUuid accounts world now).filter (Lobby.carriesOver · now) := by
  refine List.mem_filter.mpr ⟨?_, ?_⟩
  · refine (List.mem_insertionSort _).mpr (List.mem_filter.mpr ⟨List.mem_map_of_mem there, ?_⟩)
    simp [kind, effective, account]
  · simp [Lobby.carriesOver, kind, effective]

theorem lobby_read_standing (past : time ≤ world.now) :
    Provides parseUuid accounts homes (fun standing now => ReadStanding parseUuid accounts job standing room time now)
      (consult (.standingPersonActions job room time) (Lobby.fromStore .carryOverModeration) : ProvisioningProgram (List ModerationAction))
      world := by
  refine tells_call (fun _ _ _ => trivial) (fun standing => read_standing_lasting) ?_
  rintro before _ after standing sound since ⟨answer, rfl, answers⟩ _ reads ours
  have answered : answer = .ok standing := map_error_read reads
  change LobbyServes parseUuid accounts before (.standingPersonActions job room time) answer after at answers
  by_cases here : job.catalog.id = before.catalogId
  · simp only [LobbyServes, if_pos here] at answers
    obtain ⟨seen, rfl⟩ := answers
    refine ⟨before.log, [], rfl, UtcMillis.le_trans _ _ _ past since.now, fun id recorded => ?_⟩
    obtain ⟨row, found, status⟩ := (sound.recorded id).mp recorded
    refine ⟨row, found, fun kind account => ?_⟩
    cases effective : row.action.isEffectiveAt time with
    | false => exact .inl (ended_of_ineffective status effective)
    | true =>
      refine .inr ⟨row.action, ?_, same_identity_refl row.action⟩
      rw [seen standing answered]
      exact standing_listed before (find_listed before found).1 kind account effective
  · simp only [LobbyServes, if_neg here] at answers
    exact absurd (answers ▸ ours) here

-- A shard of this catalog has got what stood.
def Furnished (parseUuid : String → Option PrincipalId) (accounts : PrincipalId → Bool) (job : RoomProvisioningJob) (room : MatrixRoomId)
    (world : ModerationWorld) : Prop :=
  job.catalog.id = world.catalogId → Carried parseUuid accounts world world.log job.leaseId room

theorem furnished_lasting : Lasting parseUuid accounts homes True (Furnished parseUuid accounts job room) := by
  intro before after _ later furnished ours
  obtain ⟨seen, time, between, split, past, over'⟩ := carried_later before after later (furnished (ours.trans later.catalogId))
  obtain ⟨more, grown⟩ := later.log
  refine ⟨seen, time, between ++ more, ?_, past, over'⟩
  rw [← grown, split, List.append_assoc, List.cons_append]

theorem lobby_carry_over_moderation : Provides parseUuid accounts homes (fun _ now => Furnished parseUuid accounts job room now)
    (Lobby.carryOverModeration job room) world := by
  refine tells_then _ (lobby_clock world) fun time first _ _ past => ?_
  refine tells_then _ (lobby_read_standing first room past) fun standing second _ _ read => ?_
  refine tells_weaker ?_ (tells_frame read_standing_lasting read (lobby_carry_over second room))
  rintro _ now _ ⟨done, read'⟩ ours
  obtain ⟨seen, between, split, past', carried⟩ := read' ours
  refine ⟨seen, time, between, split, past', fun id recorded => ?_⟩
  obtain ⟨row, found, covered⟩ := carried id recorded
  refine ⟨row, found, fun kind account => (covered kind account).imp_right ?_⟩
  rintro ⟨listed, mine, same⟩
  exact ⟨listed, done listed mine, same⟩

theorem build_room_instance_ok (ok : Lobby.buildRoomInstance job room = .ok built) :
    built.catalogId = job.catalog.id ∧ built.matrixRoomId = room := by
  unfold Lobby.buildRoomInstance at ok
  split at ok
  · cases ok
    exact ⟨rfl, rfl⟩
  · cases ok

theorem lobby_open_instance : Provides parseUuid accounts homes (fun _ _ => True) (Lobby.openInstance catalog space job) world := by
  refine tells_past tells_result fun _ first _ _ => ?_
  refine tells_past (lobby_ensure_room first) fun room second _ _ => ?_
  refine tells_past (lobby_attach second room) fun _ third _ _ => ?_
  refine tells_then _ (lobby_carry_over_moderation third room) fun _ fourth _ _ furnished => ?_
  refine tells_holding (furnished_lasting room) furnished
    (tells_settled fun built _ _ _ known => build_room_instance_ok room known) fun built fifth furnished made => ?_
  refine tells_holding (furnished_lasting room) furnished (lobby_clock fifth) fun now sixth furnished _ => ?_
  refine tells_past (tells_nothing fun later sound onward => ⟨trivial, fun open' => ?_⟩) fun _ last _ _ => tells_done
  have ours : job.catalog.id = later.catalogId := made.1 ▸ (of_decide_eq_true open').1
  rw [made.2]
  exact furnished_lasting room sixth later sound onward furnished ours

theorem lobby_provision : Provides parseUuid accounts homes (fun _ _ => True) (Lobby.provision lifetime request) world := by
  refine tells_past tells_result fun _ first _ _ => ?_
  refine tells_past (lobby_ensure_space first) fun ensured second _ _ => ?_
  cases ensured with
  | busy retryAt => exact tells_done
  | ready catalog =>
    refine tells_past tells_result fun space third _ _ => ?_
    refine tells_past (lobby_call third fun _ => trivial) fun proposed fourth _ _ => ?_
    refine tells_past tells_result fun aliasLocalpart fifth _ _ => ?_
    refine tells_past (lobby_claim fifth) fun claim sixth _ _ => ?_
    refine tells_past (lobby_call sixth fun _ => trivial) fun outcome last _ _ => ?_
    cases outcome with
    | claimed job => exact lobby_open_instance last
    | busy retryAt | instanceReady room => exact tells_done
    | spaceReady catalog => exact tells_result

end

inductive LobbyRequest where
  | moderation (request : ModerationRequest)
  | provision (lifetime : DurationMillis) (request : Lobby.LobbyProvisioningRequest)

def attend (parseUuid : String → Option PrincipalId) : LobbyRequest → Program PortCall PortAnswer Unit
  | .moderation request => moderate parseUuid request
  | .provision lifetime request =>
    answered (ExceptT.mk ((Lobby.provision lifetime request).run.within PortCall.lobby fun _ answer => answer))

section

variable (parseUuid : String → Option PrincipalId) (accounts : PrincipalId → Bool) (homes : String → Option MatrixRoomId)

theorem attend_safe {world : ModerationWorld} :
    (keeping parseUuid accounts homes True LobbyRequest).SafeCall request world (attend parseUuid request) world := by
  cases request with
  | moderation asked => exact moderate_safe asked
  | provision lifetime opening => exact answered_safe (tells_within (lobby_provision world))

-- The shard was not on the list that the action went by and was opened after that
-- had been read; what was carried over to it was read before the action was on record.
def OpenedWhileLanding (log : List ModerationEvent) (action : ModerationAction) (room : MatrixRoomId) : Prop :=
  ∃ early rooms late, log = early ++ .inspected action.id action.target rooms :: late ∧ room ∉ rooms ∧
    (∃ before after, late = before ++ .reserved action.id rooms :: after ∧ ∀ shard ∈ rooms, Landed after action (.room shard)) ∧
    ∃ before lease after seen time between, late = before ++ .published lease room :: after ∧
      early ++ .inspected action.id action.target rooms :: before = seen ++ .carriedRead lease room time :: between ∧
      .recorded action.id ∉ seen

def ShardsCovered (world : ModerationWorld) : Prop :=
  ∀ row ∈ world.ledger, (row.action.kind = .mute ∨ row.action.kind = .ban) →
    (parseUuid row.action.target.reference).any accounts = true → row.action.isEffectiveAt world.now = true →
    ∀ room ∈ world.shards, Landed world.log row.action (.room room)

theorem attend_kept (fresh : Fresh start)
    (run : Runs (Turns (moderationEnvironment parseUuid accounts homes) (attend parseUuid)) (.opening start) turns final) :
    (keeping parseUuid accounts homes True LobbyRequest).Kept final ∧ Later start final.world :=
  kept_run (fun _ _ _ => attend_safe parseUuid accounts homes) (opening_kept (fresh_sound parseUuid accounts homes fresh)) run

theorem landed_late {log late : List ModerationEvent} (split : log = early ++ event :: late) (landed : Landed late action place) :
    Landed log action place := by
  obtain ⟨made, done, same⟩ := landed
  rw [split]
  exact ⟨made, List.mem_append_right _ (List.mem_cons_of_mem _ done), same⟩

theorem shards_miss_only_what_was_landing (start : ModerationWorld) (fresh : Fresh start) (lobby : start.roomKind = .publicLobby)
    (final : Scene ModerationWorld LobbyRequest PortCall PortAnswer Unit) (turns : List (Turn LobbyRequest))
    (run : Runs (Turns (moderationEnvironment parseUuid accounts homes) (attend parseUuid)) (.opening start) turns final)
    (row : LedgerRow) (there : row ∈ final.world.ledger) (kind : row.action.kind = .mute ∨ row.action.kind = .ban)
    (account : (parseUuid row.action.target.reference).any accounts = true)
    (effective : row.action.isEffectiveAt final.world.now = true) (room : MatrixRoomId) (active : room ∈ final.world.shards) :
    Landed final.world.log row.action (.room room) ∨ OpenedWhileLanding final.world.log row.action room := by
  obtain ⟨kept, later⟩ := attend_kept parseUuid accounts homes fresh run
  have sound : Sound parseUuid accounts homes final.world True := kept.invariant
  have roomKind : final.world.roomKind = .publicLobby := later.roomKind.trans lobby
  obtain ⟨recorded, first, rooms, last, reserved, inspected, everywhere⟩ := standing_landed sound there effective
  have landed : ∀ shard ∈ rooms, Landed last row.action (.room shard) := by
    intro shard read
    refine everywhere (.room shard) ⟨?_, read, fun hides => ?_⟩
    · rintro ⟨private', _⟩
      rw [roomKind] at private'
      cases private'
    · rcases kind with mute | ban
      · rw [mute] at hides
        cases hides
      · rw [ban] at hides
        cases hides
  by_cases listed : room ∈ rooms
  · exact .inl (landed_late reserved (landed room listed))
  · obtain ⟨early, middle, split⟩ := List.append_of_mem inspected
    have whole : final.world.log = early ++ .inspected row.action.id row.action.target rooms ::
        (middle ++ .reserved row.action.id rooms :: last) := by
      rw [reserved, split, List.append_assoc, List.cons_append]
    obtain ⟨more, shards, opened⟩ := sound.shards early _ _ rooms whole rfl
    have new : room ∈ more := (List.mem_append.mp (shards.subset active)).resolve_left listed
    obtain ⟨lease, published⟩ := opened room new
    obtain ⟨before, after, split'⟩ := List.append_of_mem published
    have split'' : final.world.log = (early ++ .inspected row.action.id row.action.target rooms :: before) ++
        .published lease room :: after := by
      rw [whole, split', List.append_assoc, List.cons_append]
    obtain ⟨seen, time, between, read, past, carried⟩ := sound.published _ _ after (lease, room) split'' rfl
    by_cases known : .recorded row.action.id ∈ seen
    · obtain ⟨row', found, covered⟩ := carried _ known
      cases found.symm.trans (sound.listed row there)
      rcases covered kind account with ended | done
      · exact absurd ended (effective_not_ended effective past)
      · exact .inl done
    · exact .inr ⟨early, rooms, _, whole, listed, ⟨middle, last, rfl, landed⟩, before, lease, after, seen, time, between, split', read,
        known⟩

-- A second shard is opened from beginning to end while a ban has read its shards
-- and has not been reserved.
def openSecond : LobbyRequest := .provision 1000 ⟨hallCatalog, some "eu"⟩

def openedMeanwhile : List (Turn LobbyRequest) :=
  .join (.moderation (banRequest 1)) :: (List.replicate 2 (.proceed 0) ++ .join openSecond :: List.replicate 14 (.proceed 1)) ++
    List.replicate 12 (.proceed 0)

def missedShard : Scene ModerationWorld LobbyRequest PortCall PortAnswer Unit :=
  openedMeanwhile.foldl (rehearse (oblige bannedPerson (fun _ => true) (fun _ => none) "!second") (attend bannedPerson))
    (.opening (hall [hallRoom 7 "!lobby"]))

theorem missed_shard_run : ∃ taken, Runs (Turns (moderationEnvironment bannedPerson (fun _ => true) (fun _ => none)) (attend bannedPerson))
    (.opening (hall [hallRoom 7 "!lobby"])) taken missedShard :=
  rehearsed_run _ _ (oblige_answers bannedPerson (fun _ => true) (fun _ => none) "!second") _ _

theorem missed_shard_ledger : ⟨firstBan, 0, none, none⟩ ∈ missedShard.world.ledger := List.mem_singleton.mpr rfl

theorem missed_shard_log : missedShard.world.log = [.inspected ⟨1⟩ ⟨.principal, "p-2"⟩ ["!lobby"], .carriedRead 3 "!second" 10,
    .published 3 "!second", .reserved ⟨1⟩ ["!lobby"], .effect false (.room "!lobby") { firstBan with status := .pending },
    .recorded ⟨1⟩] := by rfl

theorem shard_opened_without_the_ban : ¬ ∀ (parseUuid : String → Option PrincipalId) (accounts : PrincipalId → Bool)
    (homes : String → Option MatrixRoomId) (start : ModerationWorld)
    (final : Scene ModerationWorld LobbyRequest PortCall PortAnswer Unit) (turns : List (Turn LobbyRequest)), Fresh start →
    start.roomKind = .publicLobby →
    Runs (Turns (moderationEnvironment parseUuid accounts homes) (attend parseUuid)) (.opening start) turns final →
    final.callers = [] → ShardsCovered parseUuid accounts final.world := by
  intro claim
  obtain ⟨taken, run⟩ := missed_shard_run
  have covered := claim bannedPerson (fun _ => true) (fun _ => none) _ missedShard taken ⟨rfl, rfl⟩ rfl run rfl
  obtain ⟨made, done, _⟩ := covered _ missed_shard_ledger (.inr rfl) (by decide) (by decide) "!second" (by decide)
  rw [missed_shard_log] at done
  simp at done

theorem first_ban_missed_or_landed : Landed missedShard.world.log firstBan (.room "!second") ∨
    OpenedWhileLanding missedShard.world.log firstBan "!second" := by
  obtain ⟨taken, run⟩ := missed_shard_run
  exact shards_miss_only_what_was_landing bannedPerson (fun _ => true) (fun _ => none) _ ⟨rfl, rfl⟩ rfl missedShard taken run _
    missed_shard_ledger (.inr rfl) (by decide) (by decide) "!second" (by decide)

theorem marked_actions_have_landed (fresh : Fresh start)
    (run : Runs (Turns (moderationEnvironment parseUuid accounts homes) (attend parseUuid)) (.opening start) turns final)
    (row : LedgerRow) (there : row ∈ final.world.ledger) (marked : row.action.status = .applied ∨ row.action.status = .reversed) :
    LandedWhole homes final.world row.action := by
  have sound : Sound parseUuid accounts homes final.world True := (attend_kept parseUuid accounts homes fresh run).1.invariant
  exact sound.landed row there ((sound.recorded _).mpr ⟨row, sound.listed row there, marked⟩)

theorem first_ban_has_landed : LandedWhole (fun _ => none) missedShard.world firstBan := by
  obtain ⟨taken, run⟩ := missed_shard_run
  exact marked_actions_have_landed bannedPerson (fun _ => true) (fun _ => none) ⟨rfl, rfl⟩ run _ missed_shard_ledger (.inl rfl)

theorem ledger_keeps_its_actions (fresh : Fresh start)
    (run : Runs (Turns (moderationEnvironment parseUuid accounts homes) (attend parseUuid)) (.opening start) turns reached)
    (onward : Runs (Turns (moderationEnvironment parseUuid accounts homes) (attend parseUuid)) reached rest final) :
    ∀ row ∈ reached.world.ledger, ∃ later ∈ final.world.ledger, RowLater row.action later.action := by
  intro row there
  have kept := (attend_kept parseUuid accounts homes fresh run).1
  have sound : Sound parseUuid accounts homes reached.world True := kept.invariant
  have onwards := (kept_run (fun _ _ _ => attend_safe parseUuid accounts homes) kept onward).2
  obtain ⟨later, found, same⟩ := onwards.rows _ row (sound.listed row there)
  exact ⟨later, (find_listed _ found).1, same⟩

theorem first_ban_stays :
    ∃ later ∈ (missedShard.join (attend bannedPerson) openSecond).world.ledger, RowLater firstBan later.action := by
  obtain ⟨taken, run⟩ := missed_shard_run
  have onward : Runs (Turns (moderationEnvironment bannedPerson (fun _ => true) fun _ => none) (attend bannedPerson)) missedShard
    [.join openSecond] _ := ⟨_, rfl, rfl⟩
  exact ledger_keeps_its_actions bannedPerson (fun _ => true) (fun _ => none) ⟨rfl, rfl⟩ run onward _ missed_shard_ledger

end

end AgentRoom.Moderation
