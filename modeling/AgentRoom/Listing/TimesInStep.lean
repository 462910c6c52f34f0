import AgentRoom.Listing.InStep

namespace AgentRoom.Listing

open Library
open PrivateRooms (PrivateRoomListingSaveOutcome)

def insertedAt : ListingCall → Option UtcMillis
  | .saveListing record none _ => some record.firstListedAt
  | .createListedRoom _ listing => some listing.firstListedAt
  | _ => none

def markedAt : ListingCall → Option UtcMillis
  | .markListed at' => some at'
  | _ => none

-- What a request remembers of its own calls: the row it has read, and the time
-- it has written to the Matrix room.
structure Recalled where
  read : Option PrivateRoomListingRecord
  marked : Option UtcMillis

def recollect (memory : Recalled) : (call : ListingCall) → ListingReply call → Recalled
  | .listing, .ok found => { memory with read := found }
  | .markListed at', .ok _ => { memory with marked := some at' }
  | .markListed _, .error _ => { memory with marked := none }
  | _, _ => memory

-- A change rests on the version that was read, and a first listing is stored only
-- with the time its own request has written.
structure RightCall (memory : Recalled) (call : ListingCall) : Prop where
  based : ∀ record expected owner, call = .saveListing record expected owner → expected = memory.read.map PrivateRoomListingRecord.version
  marked : ∀ at', insertedAt call = some at' → memory.marked = some at'

def settingsWatch : Watch Recalled ListingCall ListingReply where
  right := RightCall
  remember := recollect

-- What is left of a request may store a first listing with this time without
-- writing it to the Matrix room any more.
def MayInsert {α : Type} (at' : UtcMillis) : Program ListingCall ListingReply α → Prop
  | .done _ => False
  | .call call next => insertedAt call = some at' ∨ (markedAt call = none ∧ ∃ answer, MayInsert at' (next answer))

abbrev Marks {ε α : Type} (told : α → Recalled → Prop) (program : ExceptT ε (Program ListingCall ListingReply) α)
    (last : Recalled) : Prop := Recalls settingsWatch told program last

section

variable {operation : String} {last : Recalled}

def isPlain : ListingCall → Bool
  | .listing | .markListed _ | .saveListing _ _ _ | .createListedRoom _ _ => false
  | _ => true

variable {α ε : Type}

variable {call : ListingCall} {loaded : LoadedRoom} {request : UpdateListing}

variable {read : ListingReply call → Except ε α}

theorem consult_marks
    (right : RightCall last call) (answered : ∀ answer value, read answer = .ok value → told value (recollect last call answer)) :
    Marks told (consult call read) last := recalls_consult right answered

theorem plain_call (plain : isPlain call = true) : Marks (fun _ now => now = last) (consult call read) last := by
  refine consult_marks ⟨fun record expected owner same => ?_, fun at' inserts => ?_⟩ fun answer _ _ => ?_
  · subst same
    cases plain
  · cases call <;> simp [insertedAt, isPlain] at inserts plain
  · cases call <;> first | rfl | exact nomatch plain

theorem listing_call {read : ListingReply .listing → Except ε α} :
    Marks (fun _ now => now.marked = last.marked) (consult .listing read) last := by
  refine consult_marks ⟨nofun, nofun⟩ fun answer _ _ => ?_
  cases answer <;> rfl

theorem read_call : Marks (fun found now => now.read = found) (consult .listing (Except.mapError failed)) last := by
  refine consult_marks ⟨nofun, nofun⟩ fun answer found known => ?_
  cases map_error_read known
  rfl

theorem same_settled : Marks (fun _ now => now = last) (settled result) last :=
  recalls_settled fun _ _ => rfl

theorem same_pure : Marks (fun _ now => now = last) (pure value : ExceptT ε (Program ListingCall ListingReply) α) last :=
  recalls_pure rfl

theorem same_then {told : β → Recalled → Prop}
    {next : α → ExceptT ε (Program ListingCall ListingReply) β} (first : Marks (fun _ now => now = last) program last)
    (rest : ∀ value, Marks told (next value) last) : Marks told (program >>= next) last :=
  recalls_then _ first fun value _ same => same ▸ rest value

theorem joined_room_marks : Marks (fun loaded after => after.read = loaded.listing) (joinedRoom operation actor at') last := by
  refine same_then (same_settled) fun _ => ?_
  refine same_then (plain_call rfl) fun found => ?_
  refine same_then (same_settled) fun snapshot => ?_
  refine same_then (plain_call rfl) fun policy => ?_
  refine same_then (same_settled) fun encrypted => ?_
  refine recalls_then _ (read_call) fun listing now read => ?_
  refine same_then (plain_call rfl) fun hold => ?_
  exact recalls_pure read

theorem new_code_marks : Marks (fun _ now => now = last) (newShareCode operation) last := plain_call rfl

theorem replacement_marks : Marks (fun _ now => now = last) (replacementShareCode operation previous attempts) last := by
  induction attempts with
  | zero => exact same_settled
  | succ attempts ih =>
    refine same_then (new_code_marks) fun code => ?_
    by_cases fresh : code ≠ previous
    · simp only [if_pos fresh]
      exact same_pure
    · simp only [if_neg fresh]
      exact ih

theorem save_marks
    (based : expected = last.read.map PrivateRoomListingRecord.version) (marked : expected = none → last.marked = some record.firstListedAt) :
    Marks (fun _ now => now = last) (save operation record expected owner) last := by
  refine recalls_then (fun _ now => now = last) ?_ fun outcome now same => ?_
  · refine consult_marks ⟨fun _ _ _ same => ?_, fun at' inserts => ?_⟩ fun _ _ _ => rfl
    · cases same
      exact based
    · cases expected with
      | none =>
        cases inserts
        exact marked rfl
      | some version => cases inserts
  · subst same
    cases outcome with
    | saved => exact same_pure
    | ownerLimitReached => exact same_settled
    | shareCodeTaken => exact same_pure
    | stale => exact same_settled

theorem save_listed_marks (loaded : LoadedRoom) (owner : PrincipalId) (attempts : Nat) (record : PrivateRoomListingRecord)
    (read : last.read = loaded.listing) (marked : loaded.listing = none → last.marked = some record.firstListedAt) :
    Marks (fun _ now => now = last) (saveListed operation loaded owner attempts record) last := by
  induction attempts generalizing record with
  | zero => exact same_settled
  | succ attempts ih =>
    have based : loaded.listing.map PrivateRoomListingRecord.version = last.read.map PrivateRoomListingRecord.version := by rw [read]
    refine same_then (save_marks based fun new => marked (Option.map_eq_none_iff.mp new)) fun outcome => ?_
    cases outcome with
    | saved => exact same_pure
    | ownerLimitReached => exact same_settled
    | stale => exact same_settled
    | shareCodeTaken =>
      by_cases new : loaded.listing.isNone = true
      · simp only [if_pos new]
        exact same_then (new_code_marks) fun code => ih { record with shareCode := code } marked
      · simp only [if_neg new]
        exact same_settled

theorem first_listing_marks :
    Marks (fun at' after => after.read = last.read ∧ (listing = none → after.marked = some at')) (firstListing operation listing now) last := by
  cases listing with
  | some record => exact recalls_pure ⟨rfl, nofun⟩
  | none =>
    refine recalls_then (fun _ after => after.read = last.read ∧ after.marked = some now) ?_ fun _ after marked => ?_
    · refine consult_marks ⟨nofun, nofun⟩ fun answer value known => ?_
      cases map_error_read known
      exact ⟨rfl, rfl⟩
    · exact recalls_pure ⟨marked.1, fun _ => marked.2⟩

theorem list_marks (read : last.read = loaded.listing) : Marks (fun _ _ => True) (list operation request loaded) last := by
  refine same_then ?_ fun _ => ?_
  · unfold ensureListable
    split
    · exact same_then (plain_call rfl) fun rooms => same_settled
    · exact same_pure
  refine recalls_then _ (first_listing_marks) fun firstListedAt now marked => ?_
  refine same_then ?_ fun shareCode => ?_
  · cases loaded.listing with
    | some listing => exact same_pure
    | none => exact new_code_marks
  refine same_then (same_settled) fun version => ?_
  exact recalls_weaker (fun _ _ _ => trivial) (save_listed_marks loaded _ _ _ (marked.1.trans read) marked.2)

theorem unlist_marks (read : last.read = loaded.listing) : Marks (fun _ _ => True) (unlist operation request loaded) last := by
  unfold unlist
  split
  · exact recalls_pure trivial
  · rename_i previous found
    refine same_then ?_ fun _ => ?_
    · unfold encryptRoom
      split
      · exact same_pure
      · exact same_then (plain_call rfl) fun _ => plain_call rfl
    refine same_then (same_settled) fun version => ?_
    have based : some previous.version = last.read.map PrivateRoomListingRecord.version := by rw [read, found]; rfl
    refine same_then (save_marks based nofun) fun outcome => ?_
    cases outcome with
    | saved =>
      refine same_then (plain_call rfl) fun _ => ?_
      exact recalls_pure trivial
    | shareCodeTaken => exact recalls_settled nofun
    | ownerLimitReached => exact recalls_settled nofun
    | stale => exact recalls_settled nofun

theorem save_replaced_marks (loaded : LoadedRoom) (owner : PrincipalId) (previous : PrivateRoomListingRecord) (attempts : Nat)
    (record : PrivateRoomListingRecord) (read : last.read = some previous) :
    Marks (fun _ _ => True) (saveReplaced operation loaded owner previous attempts record) last := by
  induction attempts generalizing record with
  | zero => exact recalls_settled nofun
  | succ attempts ih =>
    have based : some previous.version = last.read.map PrivateRoomListingRecord.version := by rw [read]; rfl
    refine same_then (save_marks based nofun) fun outcome => ?_
    cases outcome with
    | saved => exact recalls_pure trivial
    | shareCodeTaken => exact same_then (replacement_marks) fun code => ih { record with shareCode := code }
    | ownerLimitReached => exact recalls_settled nofun
    | stale => exact recalls_settled nofun

end

section

variable {last : Recalled}

theorem update_marks {request : UpdateListing} : Marks (fun _ _ => True) (update request) last := by
  refine recalls_then _ (joined_room_marks) fun loaded now read => ?_
  refine same_then (same_settled) fun _ => ?_
  by_cases listed : request.settings.listed = true
  · simp only [if_pos listed]
    exact list_marks read
  · simp only [if_neg listed]
    exact unlist_marks read

theorem change_share_code_marks {request : ChangeShareCode} : Marks (fun _ _ => True) (changeShareCode request) last := by
  refine recalls_then _ (joined_room_marks) fun loaded now read => ?_
  refine same_then (same_settled) fun _ => ?_
  cases found : loaded.listing with
  | none => exact recalls_settled nofun
  | some previous =>
    refine same_then (replacement_marks) fun code => ?_
    refine same_then (same_settled) fun version => ?_
    exact save_replaced_marks loaded _ previous _ _ (read.trans found)

variable (request : CreatePrivateRoom)

theorem same_room_marks {existing : PrivateRoomSnapshot} : Marks (fun _ _ => True) (ensureSameRoom request existing) last := by
  refine same_then (same_settled) fun _ => ?_
  refine recalls_then _ (listing_call) fun listing now _ => ?_
  exact same_then (same_settled) fun _ => recalls_pure trivial

theorem prepare_marks (owner : PrincipalId) (invitations : List PrivateRoomInvitation) (invited : List PrincipalId)
    (assignments : List (PrivateRooms.RoomUser × Bool)) (room : PrivateRoom) :
    Marks (fun _ now => now = last) (prepareInvitations owner invitations invited assignments room) last := by
  induction invitations generalizing invited assignments room with
  | nil => exact same_pure
  | cons invitation rest ih =>
    refine same_then (same_settled) fun _ => ?_
    refine same_then (same_settled) fun _ => ?_
    refine same_then (same_settled) fun next => ?_
    refine same_then (plain_call rfl) fun found => ?_
    refine same_then (same_settled) fun user => ?_
    refine same_then (same_settled) fun _ => ?_
    exact ih _ _ _

theorem public_code_marks : Marks (fun _ now => now = last) publicShareCode last := plain_call rfl

theorem save_created_marks (snapshot : PrivateRoomSnapshot) (attempts : Nat)
    (record : PrivateRoomListingRecord) (marked : last.marked = some record.firstListedAt) :
    Marks (fun _ _ => True) (saveCreated request snapshot attempts record) last := by
  induction attempts generalizing record with
  | zero => exact recalls_settled nofun
  | succ attempts ih =>
    refine recalls_then (fun _ now => now = last) ?_ fun outcome now same => ?_
    · refine consult_marks ⟨nofun, fun at' inserts => ?_⟩ fun _ _ _ => rfl
      cases inserts
      exact marked
    · subst same
      cases outcome with
      | saved => exact recalls_pure trivial
      | ownerLimitReached => exact recalls_settled nofun
      | shareCodeTaken => exact same_then (public_code_marks) fun code => ih { record with shareCode := code } marked
      | stale =>
        refine same_then (plain_call rfl) fun found => ?_
        refine same_then (same_settled) fun existing => ?_
        exact same_room_marks request

theorem save_public_marks : Marks (fun _ _ => True) (savePublicRoom request snapshot) last := by
  refine recalls_then (fun _ now => now.marked = some request.now) ?_ fun _ now marked => ?_
  · refine consult_marks ⟨nofun, nofun⟩ fun answer value known => ?_
    cases map_error_read known
    rfl
  · refine same_then (public_code_marks) fun code => ?_
    refine same_then (same_settled) fun version => ?_
    exact save_created_marks request snapshot _ _ marked

theorem create_marks : Marks (fun _ _ => True) (create request) last := by
  refine same_then (same_settled) fun _ => ?_
  refine same_then ?_ fun _ => ?_
  · unfold ensureCreator
    split
    · exact same_pure
    · exact same_then (plain_call rfl) fun owned => same_settled
    · exact same_settled
  refine same_then (same_settled) fun _ => ?_
  refine same_then (plain_call rfl) fun found => ?_
  cases found with
  | some existing => exact same_room_marks request
  | none =>
    refine same_then ?_ fun _ => ?_
    · exact same_then (plain_call rfl) fun listed => same_settled
    refine same_then (prepare_marks _ _ _ _ _) fun prepared => ?_
    refine same_then (plain_call rfl) fun _ => ?_
    refine same_then (plain_call rfl) fun _ => ?_
    exact save_public_marks request

theorem serve_marks (request : SettingsRequest) : Watched settingsWatch (fun _ _ => True) request.serve last := by
  cases request with
  | update request => exact watched_bind _ last (update_marks) fun _ _ _ => trivial
  | changeShareCode request => exact watched_bind _ last (change_share_code_marks) fun _ _ _ => trivial
  | create request => exact watched_bind _ last (create_marks request) fun _ _ _ => trivial

end

-- A request writes the time of a first listing when none is stored with another
-- time, and no other request may still store one with another time.
def MarksAlone (scene : SettingsScene) (turn : Turn SettingsRequest) : Prop :=
  ∀ index caller at' next, turn = .proceed index → scene.callers[index]? = some caller → caller.rest = .call (.markListed at') next →
    (∀ record, scene.world.listing = some record → record.firstListedAt = at') ∧
      ∀ other another, other ≠ index → scene.callers[other]? = some another → ∀ at'', MayInsert at'' another.rest → at'' = at'

def Current {α : Type} (world : ListingWorld) (memory : Recalled) (rest : Program ListingCall ListingReply α) : Prop :=
  world.listing = none → ∀ at', memory.marked = some at' → MayInsert at' rest → world.listedAt = some at'

structure Timed (scene : SettingsScene) : Prop where
  times : TimesInStep scene.world
  callers : ∀ caller ∈ scene.callers, ∃ memory, Watched settingsWatch (fun _ _ => True) caller.rest memory ∧ Current scene.world memory caller.rest

section

variable {world next : ListingWorld} {call : ListingCall}

theorem listed_at_kept (effect : Effect world next call) (other : markedAt call = none) : next.listedAt = world.listedAt := by
  cases effect with
  | nothing _ same => exact same ▸ rfl
  | listed at' made => cases other
  | encrypted made => exact made ▸ rfl
  | marked made => exact made ▸ rfl
  | saved record expected owner row saved made => exact made ▸ rfl
  | created snapshot listing entry row listed made => exact made ▸ rfl

theorem first_row_inserted (absent : world.listing = none) (stored : next.listing = some record)
    (effect : Effect world next call) : insertedAt call = some record.firstListedAt := by
  have kept (same : next.listing = world.listing) : insertedAt call = some record.firstListedAt := by
    cases absent.symm.trans (same.symm.trans stored)
  cases effect with
  | nothing _ same => exact kept (same ▸ rfl)
  | listed at' made => exact kept (made ▸ rfl)
  | encrypted made => exact kept (made ▸ rfl)
  | marked made => exact kept (made ▸ rfl)
  | saved saved expected owner row fits made =>
    obtain ⟨based, _, _, new, _⟩ := row_saved world fits
    subst made
    cases stored
    rw [absent] at based
    subst based
    rw [new absent]
    rfl
  | created snapshot listing entry row listed made =>
    subst made
    cases stored
    rfl

variable {at' : UtcMillis}

theorem mark_effect (effect : Effect world next (.markListed at')) :
    next.listing = world.listing ∧ (next.listedAt = world.listedAt ∨ next.listedAt = some at') := by
  cases effect with
  | nothing _ same => exact same ▸ ⟨rfl, .inl rfl⟩
  | listed _ made => exact made ▸ ⟨rfl, .inr rfl⟩

theorem marked_call (marks : markedAt call = some at') : call = .markListed at' := by
  cases call <;> cases marks
  rfl

theorem inserted_unmarked (inserts : insertedAt call = some at') : markedAt call = none := by
  cases call <;> first | rfl | cases inserts

theorem recall_marked (memory : Recalled) (answer : ListingReply call) (other : markedAt call = none) :
    (recollect memory call answer).marked = memory.marked := by
  cases call with
  | markListed at' => cases other
  | listing => cases answer <;> rfl
  | _ => rfl

end

section

variable {scene next : SettingsScene}

theorem timed_call {caller : Caller ListingWorld SettingsRequest ListingCall ListingReply SettingsAnswer} {call : ListingCall}
    {continuing : ListingReply call → Program ListingCall ListingReply SettingsAnswer} {answer : ListingReply call} {world : ListingWorld}
    (timed : Timed scene) (found : scene.callers[index]? = some caller) (left : caller.rest = .call call continuing)
    (may : MayCall call scene.world) (alone : MarksAlone scene (.proceed index)) (answers : ListingAnswers scene.world call answer world) :
    Timed (scene.goOn index caller call answer (continuing answer) world) := by
  have effect := answered_effect scene.world world answers
  have follows := row_follows scene.world world may effect
  have stays : world.listing = none → scene.world.listing = none := by
    intro absent
    rcases follows with same | ⟨record, stored, _⟩
    · exact same.symm.trans absent
    · cases absent.symm.trans stored
  obtain ⟨memory, watched, current⟩ := timed.callers caller (List.mem_of_getElem? found)
  rw [left] at watched current
  constructor
  · intro record stored
    change world.listing = some record at stored
    cases before : scene.world.listing with
    | none =>
      have inserted := first_row_inserted before stored effect
      change world.listedAt = some record.firstListedAt
      rw [listed_at_kept effect (inserted_unmarked inserted)]
      exact current before record.firstListedAt (watched.1.marked _ inserted) (.inl inserted)
    | some previous =>
      have kept : record.firstListedAt = previous.firstListedAt := by
        rcases follows with same | ⟨row, stored', _, kept⟩
        · cases stored.symm.trans (same.trans before)
          rfl
        · cases stored.symm.trans stored'
          exact kept previous before
      have marked := timed.times previous before
      change world.listedAt = some record.firstListedAt
      rw [kept]
      cases other : markedAt call with
      | none => exact (listed_at_kept effect other).trans marked
      | some at' =>
        obtain rfl := marked_call other
        have first := (alone index caller at' continuing rfl found left).1 previous before
        rcases (mark_effect effect).2 with same | made
        · exact same.trans marked
        · exact made.trans (congrArg some first.symm)
  · intro another there
    obtain ⟨other, found'⟩ := List.mem_iff_getElem?.mp there
    by_cases same : other = index
    · subst same
      have here : another = { caller with rest := continuing answer } := by
        rw [Scene.goOn, List.getElem?_set_self (List.getElem?_eq_some_iff.mp found).1] at found'
        exact (Option.some.inj found').symm
      subst here
      refine ⟨recollect memory call answer, watched.2 answer, fun absent at' marked inserts => ?_⟩
      cases other' : markedAt call with
      | none =>
        rw [recall_marked memory answer other'] at marked
        have before := current (stays absent) at' marked (.inr ⟨other', answer, inserts⟩)
        exact (listed_at_kept effect other').trans before
      | some written =>
        obtain rfl := marked_call other'
        rcases answers with ⟨rfl, rfl⟩ | ⟨⟨failure, rfl⟩, _⟩
        · exact marked
        · cases marked
    · have older : scene.callers[other]? = some another := by
        rwa [Scene.goOn, List.getElem?_set_ne (Ne.symm same)] at found'
      obtain ⟨memory', watched', current'⟩ := timed.callers another (List.mem_of_getElem? older)
      refine ⟨memory', watched', fun absent at' marked inserts => ?_⟩
      have before := current' (stays absent) at' marked inserts
      cases other' : markedAt call with
      | none => exact (listed_at_kept effect other').trans before
      | some written =>
        obtain rfl := marked_call other'
        have equal := (alone index caller written continuing rfl found left).2 other another same older at' inserts
        rcases (mark_effect effect).2 with kept | made
        · exact kept.trans before
        · exact made.trans (congrArg some equal.symm)

theorem timed_turn (kept : settingsDiscipline.Kept scene) (timed : Timed scene)
    (turned : Guarded MarksAlone SettingsTurns scene turn next) : Timed next := by
  obtain ⟨alone, turned⟩ := turned
  cases turn with
  | join request =>
    cases turned
    refine ⟨timed.times, fun caller there => ?_⟩
    rcases List.mem_append.mp there with old | new
    · exact timed.callers caller old
    · cases List.mem_singleton.mp new
      exact ⟨⟨none, none⟩, serve_marks request, fun _ _ marked => nomatch marked⟩
  | proceed index =>
    obtain ⟨caller, found, proceeded⟩ := turned
    cases left : caller.rest with
    | done value =>
      rw [left] at proceeded
      cases proceeded
      exact ⟨timed.times, fun other there => timed.callers other (List.mem_of_mem_eraseIdx there)⟩
    | call call continuing =>
      rw [left] at proceeded
      obtain ⟨answer, world, answers, rfl⟩ := proceeded
      have may := kept_may kept (List.mem_of_getElem? found) left
      exact timed_call timed found left may alone answers
  | cut index =>
    cases turned
    exact ⟨timed.times, fun other there => timed.callers other (List.mem_of_mem_eraseIdx there)⟩
  | outside =>
    obtain ⟨world, ⟨snapshot, rfl⟩, rfl⟩ := turned
    exact ⟨timed.times, timed.callers⟩

end

theorem timed_run (kept : settingsDiscipline.Kept start) (timed : Timed start)
    (run : Runs (Guarded MarksAlone SettingsTurns) start turns final) : Timed final := by
  refine (runs_invariant (fun scene => settingsDiscipline.Kept scene ∧ Timed scene) ?_ ⟨kept, timed⟩ run).2
  intro scene turn next ⟨kept, timed⟩ turned
  exact ⟨(kept_turn (fun request state _ => serve_safe request state) kept turned.2).1, timed_turn kept timed turned⟩

structure NeverListed (world : ListingWorld) : Prop where
  listing : world.listing = none
  catalog : ∀ entry, world.entry = some entry → entry.endToEndEncrypted = true → world.encrypted = true

def StaleChangesNothing (scene : SettingsScene) : Prop :=
  ∀ caller ∈ scene.callers, ∀ record expected owner continuing, caller.rest = .call (.saveListing record expected owner) continuing →
    expected ≠ scene.world.listing.map PrivateRoomListingRecord.version →
      ∀ answer next, ListingAnswers scene.world (.saveListing record expected owner) answer next → next = scene.world ∧ answer ≠ .ok .saved

theorem listing_matrix_and_catalog_in_step (start : ListingWorld) (scene next : SettingsScene) (turns : List (Turn SettingsRequest))
    (turn : Turn SettingsRequest) (never : NeverListed start) (run : SettingsRuns (.opening start) turns scene)
    (turned : SettingsTurns scene turn next) : EncryptionInStep scene.world ∧
      (RowFollows scene.world.listing next.world.listing ∧ StaleChangesNothing scene ∧
        ∀ request : SettingsRequest, Watched settingsWatch (fun _ _ => True) request.serve ⟨none, none⟩) ∧
      (Runs (Guarded MarksAlone SettingsTurns) (.opening start) turns scene → TimesInStep scene.world) := by
  have sound : EncryptionInStep start := ⟨fun record stored => (nomatch never.listing.symm.trans stored), never.catalog⟩
  have opens : settingsDiscipline.Kept (.opening start) := opening_kept sound
  have kept := (settings_kept opens run).1
  refine ⟨kept.invariant, ⟨?_, ?_, serve_marks⟩, fun alone => ?_⟩
  · cases turn with
    | join request =>
      cases turned
      exact .inl rfl
    | proceed index =>
      obtain ⟨caller, found, proceeded⟩ := turned
      cases left : caller.rest with
      | done value =>
        rw [left] at proceeded
        cases proceeded
        exact .inl rfl
      | call call continuing =>
        rw [left] at proceeded
        obtain ⟨answer, world, answers, rfl⟩ := proceeded
        have may := kept_may kept (List.mem_of_getElem? found) left
        exact row_follows scene.world world may (answered_effect scene.world world answers)
    | cut index =>
      cases turned
      exact .inl rfl
    | outside =>
      obtain ⟨world, ⟨snapshot, rfl⟩, rfl⟩ := turned
      exact .inl rfl
  · intro caller there record expected owner continuing left stale answer after answers
    exact stale_save scene.world after stale answers
  · have timed : Timed (.opening start : SettingsScene) :=
      ⟨fun record stored => (nomatch never.listing.symm.trans stored), fun caller there => nomatch there⟩
    exact (timed_run opens timed alone).times

def oblige (world : ListingWorld) : (call : ListingCall) → ListingReply call × ListingWorld
  | .findByCatalog => (.ok (world.entry.map RoomEntry.snapshot), world)
  | .contentPolicy => (.ok (world.entry.map RoomEntry.endToEndEncrypted), world)
  | .listing => (.ok world.listing, world)
  | .platformHold => (.ok none, world)
  | .listedRoomsOwnedBy _ => (.ok [], world)
  | .newShareCode => (some (.fromEntropy 0), world)
  | .markListed at' => (.ok (), { world with listedAt := some at' })
  | .enableEncryption => (.ok (), { world with encrypted := true })
  | .markRoomEncrypted => (.ok (), marked world)
  | .saveListing record expected owner =>
    if mayList world record owner = true ∧ (rowSaved world record expected).isSome then
      (.ok .saved, { world with listing := rowSaved world record expected })
    else (.ok .stale, world)
  | .voidPendingJoinRequests _ => (.ok (), world)
  | .ownsActiveAgent _ _ => (.ok true, world)
  | .matrixUserId principal => (.ok (some (.person principal)), world)
  | .createMatrixRoom | .setSpeakingBatch _ => (.ok (), world)
  | .createListedRoom snapshot listing =>
    if creatable world snapshot listing = true then (.ok .saved, created world snapshot listing) else (.ok .stale, world)

theorem oblige_answers (world : ListingWorld) (call : ListingCall) :
    ListingAnswers world call (oblige world call).1 (oblige world call).2 := by
  have reads {ε α : Type} (value : α) : Reads world value (Except.ok value : Except ε α) world := by
    refine ⟨rfl, fun found ok => ?_⟩
    cases ok
    rfl
  cases call with
  | findByCatalog => exact reads _
  | contentPolicy => exact reads _
  | listing => exact reads _
  | markListed at' => exact .inl ⟨rfl, rfl⟩
  | enableEncryption => exact .inl ⟨rfl, rfl⟩
  | markRoomEncrypted => exact .inl ⟨rfl, rfl⟩
  | saveListing record expected owner =>
    by_cases possible : mayList world record owner = true ∧ (rowSaved world record expected).isSome
    · simp only [oblige, if_pos possible]
      exact .inl ⟨possible, rfl, .inl rfl⟩
    · simp only [oblige, if_neg possible]
      exact .inr ⟨rfl, nofun⟩
  | createListedRoom snapshot listing =>
    by_cases possible : creatable world snapshot listing = true
    · simp only [oblige, if_pos possible]
      exact .inl ⟨possible, rfl, .inl rfl⟩
    · simp only [oblige, if_neg possible]
      exact .inr ⟨rfl, nofun⟩
  | platformHold => rfl
  | listedRoomsOwnedBy owner => rfl
  | newShareCode => rfl
  | voidPendingJoinRequests at' => rfl
  | ownsActiveAgent principal agent => rfl
  | matrixUserId principal => rfl
  | createMatrixRoom => rfl
  | setSpeakingBatch assignments => rfl

def privateRoom : ListingWorld where
  entry := some ⟨⟨PrivateRoom.create ⟨10⟩ ⟨1⟩, "room", "", none⟩, true⟩
  listing := none
  encrypted := true
  listedAt := none

def listsAt (now : UtcMillis) : SettingsRequest :=
  .update ⟨⟨⟨1⟩, 1000⟩, ⟨10⟩, { RoomListingSettings.unlisted with listed := true }, 0, now⟩

def rehearsed (turns : List (Turn SettingsRequest)) : SettingsScene :=
  turns.foldl (rehearse oblige SettingsRequest.serve) (.opening privateRoom)

-- One request lists the room, and a later one saves its settings again.
def listsTwice : List (Turn SettingsRequest) :=
  .join (listsAt 100) :: List.replicate 7 (.proceed 0) ++ .join (listsAt 200) :: .proceed 0 :: List.replicate 6 (.proceed 1)

def marks (scene : SettingsScene) : Turn SettingsRequest → Bool
  | .proceed index => scene.callers[index]?.any fun caller => match caller.rest with
    | .call (.markListed _) _ => true
    | _ => false
  | _ => false

theorem marks_alone_single {scene : SettingsScene} (turn : Turn SettingsRequest)
    (single : marks scene turn = false ∨ scene.callers.length ≤ 1 ∧ scene.world.listing = none) : MarksAlone scene turn := by
  rintro index caller at' next rfl found left
  rcases single with apart | ⟨single, absent⟩
  · simp [marks, found, left] at apart
  · refine ⟨fun record stored => (nomatch absent.symm.trans stored), fun other another apart found' => ?_⟩
    have here := (List.getElem?_eq_some_iff.mp found).1
    have there := (List.getElem?_eq_some_iff.mp found').1
    omega

theorem lists_twice_single : ∀ count < listsTwice.length, ∀ turn ∈ listsTwice[count]?, marks (rehearsed (listsTwice.take count)) turn = false ∨
    (rehearsed (listsTwice.take count)).callers.length ≤ 1 ∧ (rehearsed (listsTwice.take count)).world.listing = none := by
  decide +kernel

theorem listed_twice : (rehearsed listsTwice).world.listing.map (fun record => (record.firstListedAt, record.updatedAt)) = some (100, 200) := by
  decide +kernel

theorem first_listing_in_step : ∃ turns, SettingsRuns (.opening privateRoom) turns (rehearsed listsTwice) ∧
    EncryptionInStep (rehearsed listsTwice).world ∧ TimesInStep (rehearsed listsTwice).world ∧
      (rehearsed listsTwice).world.listing.map (fun record => (record.firstListedAt, record.updatedAt)) = some (100, 200) := by
  obtain ⟨turns, guarded⟩ := rehearsed_guarded listingEnvironment oblige oblige_answers MarksAlone
    (.opening privateRoom) listsTwice fun earlier turn later split => by
      have single := lists_twice_single earlier.length (by rw [split]; simp) turn (by rw [split]; simp)
      rw [split, List.take_left] at single
      exact marks_alone_single turn single
  have run := guarded_run MarksAlone SettingsTurns _ _ turns guarded
  have never : NeverListed privateRoom := ⟨rfl, fun entry found _ => rfl⟩
  obtain ⟨encrypted, _, times⟩ := listing_matrix_and_catalog_in_step privateRoom (rehearsed listsTwice) _ turns (.join (listsAt 300)) never run rfl
  exact ⟨turns, run, encrypted, times guarded, listed_twice⟩

def bothList : List (Turn SettingsRequest) :=
  [.join (listsAt 100), .join (listsAt 200)] ++ List.replicate 7 (.proceed 0) ++ List.replicate 6 (.proceed 1) ++ [.proceed 0]

theorem both_listed : (rehearsed bothList).world.listing.map PrivateRoomListingRecord.firstListedAt = some 100 ∧
    (rehearsed bothList).world.listedAt = some 200 := by
  decide +kernel

theorem two_first_listings_out_of_step :
    ¬ ∀ (scene : SettingsScene) (turns : List (Turn SettingsRequest)), SettingsRuns (.opening privateRoom) turns scene → TimesInStep scene.world := by
  intro always
  obtain ⟨turns, run⟩ := rehearsed_run listingEnvironment oblige oblige_answers (.opening privateRoom) bothList
  obtain ⟨first, second⟩ := both_listed
  obtain ⟨record, stored, early⟩ := Option.map_eq_some_iff.mp first
  have late := (always (rehearsed bothList) turns run record stored).symm.trans second
  rw [early] at late
  cases late

end AgentRoom.Listing
