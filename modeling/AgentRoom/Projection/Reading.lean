import AgentRoom.Library.Coverage
import AgentRoom.Library.Runs
import AgentRoom.Projection.Filling
import AgentRoom.Projection.Replayed

namespace AgentRoom.MessageSync

open Library

-- The timeline of each room as the homeserver has it, the oldest event at
-- position 0, and where each backfill token points.
structure Homeserver where
  eventId : MatrixRoomId → Nat → MatrixEventId
  message : MatrixRoomId → Nat → Bool
  position : MatrixRoomId → MatrixBackfillToken → Nat
  distinct : ∀ room other first second, eventId room first = eventId other second → room = other ∧ first = second

-- An event of the timeline as it is handed out; one that carries a message may
-- come still encrypted.
def Homeserver.Delivers (server : Homeserver) (roomId : MatrixRoomId) (position : Nat) (event : MatrixTimelineEvent) : Prop :=
  event.eventId = some (server.eventId roomId position) ∧
    (server.message roomId position = true → isUndecryptable event = true ∨ isMessageEvent event = true)

-- The pages of a room: each the events right before its token, all of them where the
-- page names no other token. One that names another may still be empty.
structure Homeserver.Serves (server : Homeserver) (roomId : MatrixRoomId) (source : BackfillSource) : Prop where
  within : ∀ page request answer, source page request = .ok answer → answer.events.length ≤ server.position roomId request.start
  backwards : ∀ page request answer, source page request = .ok answer → ∀ (index : Nat) (event : MatrixTimelineEvent),
    answer.events[index]? = some event → server.Delivers roomId (server.position roomId request.start - 1 - index) event
  finish : ∀ page request answer, source page request = .ok answer → ∀ finish, answer.finish = some finish →
    server.position roomId finish = server.position roomId request.start - answer.events.length
  history : ∀ page request answer, source page request = .ok answer → answer.finish = none →
    answer.events.length = server.position roomId request.start

-- How far a room has been followed: from which position on, where the last
-- answer began and how far it came.
structure RoomProgress where
  start : Nat
  shownFrom : Nat
  reached : Nat

structure AbandonedGap where
  roomId : MatrixRoomId
  stop : Nat

structure SyncState where
  tables : Tables
  followed : MatrixRoomId → Option RoomProgress
  abandoned : List AbandonedGap

def SyncState.initial : SyncState := ⟨.empty, fun _ => none, []⟩

-- What the homeserver promises of one answer: an unbroken stretch of each
-- timeline up to now, and the mark of a limited one where it begins later than
-- the last one ended.
structure Homeserver.Answers (server : Homeserver) (followed : MatrixRoomId → Option RoomProgress) (sync : MatrixSyncBatch)
    (shownFrom : MatrixRoomId → Nat) : Prop where
  rooms : (sync.joined.map MatrixRoomSync.roomId).Nodup
  shows : ∀ room ∈ sync.joined, ∀ (index : Nat) (event : MatrixTimelineEvent), room.timeline[index]? = some event →
    server.Delivers room.roomId (shownFrom room.roomId + index) event
  token : ∀ room ∈ sync.joined, ∀ token, room.previousBatch = some token →
    server.position room.roomId token = shownFrom room.roomId
  onwards : ∀ room ∈ sync.joined, ∀ progress, followed room.roomId = some progress →
    progress.shownFrom ≤ shownFrom room.roomId ∧ progress.reached ≤ shownFrom room.roomId + room.timeline.length
  limited : ∀ room ∈ sync.joined, ∀ progress, followed room.roomId = some progress →
    progress.reached < shownFrom room.roomId → room.timelineLimited = true

def advance (followed : MatrixRoomId → Option RoomProgress) (sync : MatrixSyncBatch) (shownFrom : MatrixRoomId → Nat)
    (roomId : MatrixRoomId) : Option RoomProgress :=
  match sync.joined.find? (·.roomId = roomId) with
  | none => followed roomId
  | some room => some {
      start := ((followed roomId).map RoomProgress.start).getD (shownFrom roomId)
      shownFrom := shownFrom roomId
      reached := shownFrom roomId + room.timeline.length }

def unfillable (tables : Tables) (sync : MatrixSyncBatch) (shownFrom : MatrixRoomId → Nat) : List AbandonedGap :=
  ((sync.joined.flatMap (roomGap tables)).filter (·.previousBatch = none)).map fun gap =>
    ⟨gap.roomId, shownFrom gap.roomId⟩

inductive SyncInput where
  | sync (reconciled : Except MessageSyncFailure Nat) (authenticate : MessageEventAuthenticator) (batch : MatrixSyncBatch)
      (shownFrom : MatrixRoomId → Nat)
  | fill (authenticate : MessageEventAuthenticator) (source : BackfillSource) (gap : PendingTimelineGap)

def synced (state : SyncState) (reconciled : Except MessageSyncFailure Nat) (authenticate : MessageEventAuthenticator)
    (batch : MatrixSyncBatch) (shownFrom : MatrixRoomId → Nat) : SyncState :=
  match process reconciled authenticate state.tables batch with
  | .error _ => state
  | .ok (tables, _) => {
      tables
      followed := advance state.followed batch shownFrom
      abandoned := state.abandoned ++ unfillable state.tables batch shownFrom }

def filled (server : Homeserver) (state : SyncState) (authenticate : MessageEventAuthenticator) (source : BackfillSource)
    (gap : PendingTimelineGap) : SyncState :=
  match collectGap state.tables source gap with
  | .deferred => state
  | .collected events complete =>
    match settleGap authenticate state.tables gap events complete with
    | .error _ => state
    | .ok (tables, _) => {
        tables
        followed := state.followed
        abandoned := state.abandoned ++ if complete then []
          else [⟨gap.roomId, server.position gap.roomId gap.previousBatch - events.length⟩] }

def Pending (tables : Tables) (gap : PendingTimelineGap) : Prop := ∃ row ∈ tables.gaps, Tables.sameGap gap row = true

-- One sync of the Bridge, or one gap of a round; a call that fails leaves
-- everything as it was.
def SyncStep (server : Homeserver) (state : SyncState) (input : SyncInput) (next : SyncState) : Prop :=
  match input with
  | .sync reconciled authenticate batch shownFrom =>
    server.Answers state.followed batch shownFrom ∧ next = synced state reconciled authenticate batch shownFrom
  | .fill authenticate source gap =>
    Pending state.tables gap ∧ server.Serves gap.roomId source ∧ next = filled server state authenticate source gap

def Logged (tables : Tables) (roomId : MatrixRoomId) (eventId : MatrixEventId) : Prop :=
  ∃ row ∈ tables.events, row.roomId = roomId ∧ row.eventId = eventId

def Isolated (tables : Tables) (roomId : MatrixRoomId) (eventId : MatrixEventId) : Prop :=
  ∃ row ∈ tables.issues, row.roomId = roomId ∧ row.eventId = some eventId

def Known (tables : Tables) (roomId : MatrixRoomId) (eventId : MatrixEventId) : Prop :=
  Logged tables roomId eventId ∨ Isolated tables roomId eventId

def AwaitsGap (server : Homeserver) (tables : Tables) (roomId : MatrixRoomId) (position : Nat) : Prop :=
  ∃ row ∈ tables.gaps, row.roomId = roomId ∧ ∃ token, row.previousBatch = some token ∧ position < server.position roomId token ∧
    ∀ between, position < between → between < server.position roomId token → ¬ Known tables roomId (server.eventId roomId between)

def LossAround (server : Homeserver) (tables : Tables) (roomId : MatrixRoomId) (position : Nat) : Prop :=
  ∃ loss ∈ tables.losses, loss.roomId = roomId ∧ ∃ after before, loss.afterEventId = Option.map (server.eventId roomId) after ∧
      loss.beforeEventId = server.eventId roomId before ∧ position < before ∧
      ∀ earlier, after = some earlier → earlier < position

def Covered (server : Homeserver) (tables : Tables) (roomId : MatrixRoomId) (position : Nat) : Prop :=
  Known tables roomId (server.eventId roomId position) ∨ AwaitsGap server tables roomId position ∨
    LossAround server tables roomId position

-- Nothing of a followed room is lost: each message since the first sync is
-- covered, and each gap given up left a loss row at or behind its stretch, on a
-- recorded event.
structure NothingLost (server : Homeserver) (state : SyncState) : Prop where
  covered : ∀ roomId progress, state.followed roomId = some progress → ∀ position, progress.start ≤ position →
    position < progress.reached → server.message roomId position = true → Covered server state.tables roomId position
  reported : ∀ gap ∈ state.abandoned, ∃ loss ∈ state.tables.losses, loss.roomId = gap.roomId ∧
    ∃ before, loss.beforeEventId = server.eventId gap.roomId before ∧ gap.stop ≤ before ∧
      Logged state.tables gap.roomId loss.beforeEventId

def opensMessage (authenticate : MessageEventAuthenticator) (roomId : MatrixRoomId) (event : MatrixTimelineEvent) : Bool :=
  !isUndecryptable event && isMessageEvent event &&
    match parsePendingMessage roomId event with
    | .ok ⟨.preview message, signed⟩ =>
      match decision authenticate event ⟨.preview message, signed⟩ with
      | .ok .trusted | .ok .trustedHistoricalRevoked => true
      | _ => false
    | _ => false

-- The neighbour before the gap was seen before it, and no loss row that is
-- already there for its other neighbour says otherwise.
def EndsFit (server : Homeserver) (tables : Tables) (gap : PendingTimelineGap) (row : GapRow) : Prop :=
  (∀ earlier, row.afterEventId = some (server.eventId gap.roomId earlier) →
    earlier < server.position gap.roomId gap.previousBatch) ∧
  ∀ loss ∈ tables.losses, loss.roomId = gap.roomId → row.beforeEventId = some loss.beforeEventId →
    ∀ earlier, loss.afterEventId = some (server.eventId gap.roomId earlier) →
      earlier < server.position gap.roomId gap.previousBatch

-- Of the pages that a walk reads only those at the start of the room are empty.
def EmptyAtTheStart (server : Homeserver) (tables : Tables) (source : BackfillSource) (roomId : MatrixRoomId) (page : Nat)
    (start : MatrixBackfillToken) : Nat → Prop
  | 0 => True
  | left + 1 => ∀ request answer, MatrixBackfillRequest.new start pageEvents = some request → source page request = .ok answer →
      (answer.events = [] → server.position roomId start = 0) ∧
        ∀ finish, answer.finish = some finish → answer.events.all (unknownEvent tables roomId) = true →
          EmptyAtTheStart server tables source roomId (page + 1) finish left

-- The condition under which what is given up has a place to be reported at. A
-- limited answer that leaves messages out finds a message of the room in the
-- log, and shows a preview where nothing can be fetched. A gap given up brought
-- a preview, or was recorded with one, and its neighbours are on its two sides. A
-- fetch is not cut short by an empty page.
def Anchored (server : Homeserver) (state : SyncState) : SyncInput → Prop
  | .sync _ authenticate batch shownFrom => ∀ room ∈ batch.joined, room.timelineLimited = true →
      (roomHasMessages state.tables room.roomId = true ∨
        ∀ progress, state.followed room.roomId = some progress → ∀ position, progress.reached ≤ position →
          position < shownFrom room.roomId → server.message room.roomId position = false) ∧
      (roomHasMessages state.tables room.roomId = true → room.previousBatch = none →
        ∃ event ∈ room.timeline, opensMessage authenticate room.roomId event = true)
  | .fill authenticate source gap => EmptyAtTheStart server state.tables source gap.roomId 0 gap.previousBatch maxPages ∧
      ∀ events, collectGap state.tables source gap = .collected events false →
        ∀ row ∈ state.tables.gaps, Tables.sameGap gap row = true →
          ((∃ event ∈ events, opensMessage authenticate gap.roomId event = true) ∨ row.beforeEventId.isSome = true) ∧
            EndsFit server state.tables gap row

open Library

def readable (event : MatrixTimelineEvent) : Bool := isUndecryptable event || isMessageEvent event

-- What came of the events seen so far: nothing but them, each that is readable
-- either written or isolated, each that opens a message as its preview.
structure Reads (authenticate : MessageEventAuthenticator) (seen : MatrixRoomId → MatrixTimelineEvent → Prop)
    (found : Projected) : Prop where
  writes : ∀ mutation ∈ found.mutations, ∃ event, seen mutation.roomId event ∧ event.eventId = some mutation.eventId
  isolates : ∀ issue ∈ found.issues, ∃ event, seen issue.roomId event ∧ event.eventId = issue.eventId
  takes : ∀ room event, seen room event → readable event = true →
    (∃ mutation ∈ found.mutations, mutation.roomId = room ∧ event.eventId = some mutation.eventId) ∨
      ∃ issue ∈ found.issues, issue.roomId = room ∧ issue.eventId = event.eventId
  opens : ∀ room event, seen room event → opensMessage authenticate room event = true →
    ∃ message, .preview message ∈ found.mutations ∧ message.roomId = room ∧ event.eventId = some message.eventId

def seenAlso (seen : MatrixRoomId → MatrixTimelineEvent → Prop) (roomId : MatrixRoomId) (events : List MatrixTimelineEvent)
    (room : MatrixRoomId) (event : MatrixTimelineEvent) : Prop :=
  seen room event ∨ (room = roomId ∧ event ∈ events)

theorem reads_congr (same : ∀ room event, seen room event ↔ others room event) (reads : Reads authenticate seen found) :
    Reads authenticate others found := by
  have equal : seen = others := funext fun room => funext fun event => propext (same room event)
  exact equal ▸ reads

theorem parse_pending_ids (parsed : parsePendingMessage roomId event = .ok pending) :
    pending.mutation.roomId = roomId ∧ event.eventId = some pending.mutation.eventId := by
  obtain ⟨_, _, rest⟩ := unbind parsed
  obtain ⟨eventId, enveloped, rest'⟩ := unbind rest
  obtain ⟨_, _, rest''⟩ := unbind rest'
  obtain ⟨content, _, built⟩ := unbind rest''
  cases built
  have named : event.eventId = some eventId := by
    unfold envelope at enveloped
    split at enveloped
    · rename_i found _ _
      cases enveloped
      exact found
    · cases enveloped
  cases body : content.body with
  | preview messageId preview reference =>
    simp only [MessageContent.mutation, body]
    exact ⟨rfl, named⟩
  | revision target kind preview reference =>
    simp only [MessageContent.mutation, body]
    exact ⟨rfl, named⟩

section

variable {authenticate : MessageEventAuthenticator} {seen : MatrixRoomId → MatrixTimelineEvent → Prop} {found : Projected}

section

variable (reads : Reads authenticate seen found)
include reads

theorem reads_accept (room : mutation.roomId = roomId) (named : event.eventId = some mutation.eventId)
    (opens : opensMessage authenticate roomId event = true → ∃ message, mutation = .preview message) :
    Reads authenticate (seenAlso seen roomId [event]) (found.accept mutation) where
  writes := by
    intro other listed
    rcases List.mem_append.mp listed with earlier | last
    · obtain ⟨source, was, same⟩ := reads.writes other earlier
      exact ⟨source, .inl was, same⟩
    · cases List.mem_singleton.mp last
      exact ⟨event, .inr ⟨room, List.mem_singleton_self event⟩, named⟩
  isolates := by
    intro issue listed
    obtain ⟨source, was, same⟩ := reads.isolates issue listed
    exact ⟨source, .inl was, same⟩
  takes := by
    rintro other source (was | ⟨here, this⟩) readable
    · rcases reads.takes other source was readable with ⟨written, listed, same⟩ | isolated
      · exact .inl ⟨written, List.mem_append_left _ listed, same⟩
      · exact .inr isolated
    · cases List.mem_singleton.mp this
      exact .inl ⟨mutation, List.mem_concat_self, room.trans here.symm, named⟩
  opens := by
    rintro other source (was | ⟨here, this⟩) opened
    · obtain ⟨message, listed, same⟩ := reads.opens other source was opened
      exact ⟨message, List.mem_append_left _ listed, same⟩
    · cases List.mem_singleton.mp this
      obtain ⟨message, same⟩ := opens (here ▸ opened)
      subst same
      exact ⟨message, List.mem_concat_self, room.trans here.symm, named⟩

theorem reads_isolate {issue : MessageSyncIssue} (room : issue.roomId = roomId)
    (named : issue.eventId = event.eventId) (shut : opensMessage authenticate roomId event = false) :
    Reads authenticate (seenAlso seen roomId [event]) (found.isolate issue) where
  writes := by
    intro mutation listed
    obtain ⟨source, was, same⟩ := reads.writes mutation listed
    exact ⟨source, .inl was, same⟩
  isolates := by
    intro other listed
    rcases List.mem_append.mp listed with earlier | last
    · obtain ⟨source, was, same⟩ := reads.isolates other earlier
      exact ⟨source, .inl was, same⟩
    · cases List.mem_singleton.mp last
      exact ⟨event, .inr ⟨room, List.mem_singleton_self event⟩, named.symm⟩
  takes := by
    rintro other source (was | ⟨here, this⟩) readable
    · rcases reads.takes other source was readable with written | ⟨isolated, listed, same⟩
      · exact .inl written
      · exact .inr ⟨isolated, List.mem_append_left _ listed, same⟩
    · cases List.mem_singleton.mp this
      exact .inr ⟨issue, List.mem_concat_self, room.trans here.symm, named⟩
  opens := by
    rintro other source (was | ⟨here, this⟩) opened
    · exact reads.opens other source was opened
    · cases List.mem_singleton.mp this
      rw [here, shut] at opened
      cases opened

theorem reads_skip (quiet : readable event = false) : Reads authenticate (seenAlso seen roomId [event]) found where
  writes := by
    intro mutation listed
    obtain ⟨source, was, same⟩ := reads.writes mutation listed
    exact ⟨source, .inl was, same⟩
  isolates := by
    intro issue listed
    obtain ⟨source, was, same⟩ := reads.isolates issue listed
    exact ⟨source, .inl was, same⟩
  takes := by
    rintro other source (was | ⟨_, this⟩) seeable
    · exact reads.takes other source was seeable
    · cases List.mem_singleton.mp this
      rw [quiet] at seeable
      cases seeable
  opens := by
    rintro other source (was | ⟨_, this⟩) opened
    · exact reads.opens other source was opened
    · cases List.mem_singleton.mp this
      simp only [readable, Bool.or_eq_false_iff] at quiet
      simp [opensMessage, quiet.1, quiet.2] at opened

theorem project_event_reads {next : Projected} (run : projectEvent authenticate roomId found event = .ok next) :
    Reads authenticate (seenAlso seen roomId [event]) next := by
  unfold projectEvent at run
  by_cases undecryptable : isUndecryptable event = true
  · rw [if_pos undecryptable] at run
    cases run
    exact reads_isolate reads rfl rfl (by simp [opensMessage, undecryptable])
  · rw [if_neg undecryptable] at run
    by_cases isMessage : isMessageEvent event = true
    · rw [if_pos isMessage] at run
      cases parsed : parsePendingMessage roomId event with
      | error reason =>
        simp only [parsed] at run
        cases run
        exact reads_isolate reads rfl rfl (by simp [opensMessage, parsed])
      | ok pending =>
        simp only [parsed] at run
        obtain ⟨room, named⟩ := parse_pending_ids parsed
        obtain ⟨verdict, decided, judged⟩ := (map_ok _ _ _).mp run
        have accepted : Reads authenticate (seenAlso seen roomId [event]) (found.accept pending.mutation) := by
          refine reads_accept reads room named fun opened => ?_
          obtain ⟨mutation, signed⟩ := pending
          cases mutation with
          | preview message => exact ⟨message, rfl⟩
          | revision edit => simp [opensMessage, parsed] at opened
        have refused (other : verdict ≠ .trusted ∧ verdict ≠ .trustedHistoricalRevoked) :
            opensMessage authenticate roomId event = false := by
          obtain ⟨mutation, signed⟩ := pending
          cases mutation with
          | revision edit => simp [opensMessage, parsed]
          | preview message =>
            cases verdict with
            | trusted => exact (other.1 rfl).elim
            | trustedHistoricalRevoked => exact (other.2 rfl).elim
            | _ => simp [opensMessage, parsed, decided]
        cases verdict with
        | trusted => exact judged ▸ accepted
        | trustedHistoricalRevoked => exact judged ▸ accepted
        | _ => exact judged ▸ reads_isolate reads rfl rfl (refused (by simp))
    · rw [if_neg isMessage] at run
      cases run
      exact reads_skip reads (by simp [readable, undecryptable, isMessage])

end

end

theorem project_room_events_reads (authenticate : MessageEventAuthenticator) (roomId : MatrixRoomId)
    (events : List MatrixTimelineEvent) (seen : MatrixRoomId → MatrixTimelineEvent → Prop) (found result : Projected)
    (reads : Reads authenticate seen found) (run : projectRoomEvents authenticate roomId events found = .ok result) :
    Reads authenticate (seenAlso seen roomId events) result := by
  induction events generalizing seen found with
  | nil =>
    have same := (fold_ok_nil _ _ _).mp run
    subst same
    exact reads_congr (by simp [seenAlso]) reads
  | cons event rest ih =>
    obtain ⟨next, stepped, later⟩ := (fold_ok_cons _ _ _ _ _).mp run
    have read := ih _ next (project_event_reads reads stepped) later
    refine reads_congr (fun room other => ?_) read
    simp [seenAlso, or_assoc, ← and_or_left]

def seenIn (rooms : List MatrixRoomSync) (roomId : MatrixRoomId) (event : MatrixTimelineEvent) : Prop :=
  ∃ room ∈ rooms, room.roomId = roomId ∧ event ∈ room.timeline

theorem gather_reads (run : gather tables authenticate sync = .ok gathered) :
    Reads authenticate (seenIn sync.joined) gathered.projected ∧ gathered.gaps = sync.joined.flatMap (roomGap tables) := by
  have loop (rooms : List MatrixRoomSync) (seen : MatrixRoomId → MatrixTimelineEvent → Prop) (before after : Gathered)
      (reads : Reads authenticate seen before.projected)
      (ran : rooms.foldlM (gatherRoom tables authenticate) before = .ok after) :
      Reads authenticate (fun room event => seen room event ∨ seenIn rooms room event) after.projected ∧
        after.gaps = before.gaps ++ rooms.flatMap (roomGap tables) := by
    induction rooms generalizing seen before with
    | nil =>
      have same := (fold_ok_nil _ _ _).mp ran
      subst same
      exact ⟨reads_congr (by simp [seenIn]) reads, by simp⟩
    | cons room rest ih =>
      obtain ⟨middle, stepped, later⟩ := (fold_ok_cons _ _ _ _ _).mp ran
      obtain ⟨projected, projects, built⟩ := (map_ok _ _ _).mp stepped
      subst built
      have read := project_room_events_reads authenticate room.roomId room.timeline seen before.projected projected reads
        projects
      obtain ⟨reads', gaps⟩ := ih _ _ read later
      constructor
      · refine reads_congr (fun other event => ?_) reads'
        simp [seenAlso, seenIn, or_assoc, eq_comm (a := other)]
      · rw [gaps, List.flatMap_cons, List.append_assoc]
  have nothing : Reads authenticate (fun _ _ => False) Projected.nothing := by
    constructor <;> simp [Projected.nothing]
  obtain ⟨reads, gaps⟩ := loop sync.joined _ ⟨.nothing, []⟩ gathered nothing run
  exact ⟨reads_congr (by simp) reads, by simpa using gaps⟩

end AgentRoom.MessageSync
