import AgentRoom.Library.Sequential
import AgentRoom.Library.Telling
import AgentRoom.Listing.Settings

namespace AgentRoom.Listing

open Library
open PrivateRooms (PrivateRoomListingSaveOutcome)

structure RoomEntry where
  snapshot : PrivateRoomSnapshot
  endToEndEncrypted : Bool

structure ListingWorld where
  entry : Option RoomEntry
  listing : Option PrivateRoomListingRecord
  encrypted : Bool
  listedAt : Option UtcMillis

section

variable (world : ListingWorld)

def Reads {ε α : Type} (value : α) (answer : Except ε α) (next : ListingWorld) : Prop :=
  next = world ∧ ∀ found, answer = .ok found → found = value

def Writes {ε : Type} (written : ListingWorld) (answer : Except ε Unit) (next : ListingWorld) : Prop :=
  (answer = .ok () ∧ next = written) ∨ ((∃ failure, answer = .error failure) ∧ (next = world ∨ next = written))

def Saves (possible : Prop) (written : ListingWorld) (answer : Except RepositoryErrorKind PrivateRoomListingSaveOutcome)
    (next : ListingWorld) : Prop :=
  (possible ∧ next = written ∧ (answer = .ok .saved ∨ ∃ failure, answer = .error failure)) ∨ (next = world ∧ answer ≠ .ok .saved)

def ownedBy (owner : PrincipalId) : Bool := world.entry.any fun entry => decide (entry.snapshot.room.ownerPrincipalId = owner)

def rowSaved (record : PrivateRoomListingRecord) : Option AggregateVersion → Option PrivateRoomListingRecord
  | none => insertOnly record world.listing
  | some expected => updateIf (fun row => decide (row.version = expected)) (fun row => { record with firstListedAt := row.firstListedAt })
      world.listing

def mayList (record : PrivateRoomListingRecord) (owner : PrincipalId) : Bool := !record.settings.listed || ownedBy world owner

def marked : ListingWorld := { world with entry := world.entry.map fun entry => { entry with endToEndEncrypted := true } }

def created (snapshot : PrivateRoomSnapshot) (listing : PrivateRoomListingRecord) : ListingWorld :=
  { world with entry := some ⟨snapshot, false⟩, listing := some listing }

def creatable (snapshot : PrivateRoomSnapshot) (listing : PrivateRoomListingRecord) : Bool :=
  world.entry.isNone && world.listing.isNone && listing.settings.listed && decide (snapshot.room.status = .active)

def ListingAnswers : (call : ListingCall) → ListingReply call → ListingWorld → Prop
  | .findByCatalog, answer, next => Reads world (world.entry.map RoomEntry.snapshot) answer next
  | .contentPolicy, answer, next => Reads world (world.entry.map RoomEntry.endToEndEncrypted) answer next
  | .listing, answer, next => Reads world world.listing answer next
  | .markListed at', answer, next => Writes world { world with listedAt := some at' } answer next
  | .enableEncryption, answer, next => Writes world { world with encrypted := true } answer next
  | .markRoomEncrypted, answer, next => Writes world (marked world) answer next
  | .saveListing record expected owner, answer, next =>
    Saves world (mayList world record owner = true ∧ (rowSaved world record expected).isSome)
      { world with listing := rowSaved world record expected } answer next
  | .createListedRoom snapshot listing, answer, next =>
    Saves world (creatable world snapshot listing = true) (created world snapshot listing) answer next
  | .platformHold, _, next | .listedRoomsOwnedBy _, _, next | .newShareCode, _, next | .voidPendingJoinRequests _, _, next
  | .ownsActiveAgent _ _, _, next | .matrixUserId _, _, next | .createMatrixRoom, _, next | .setSpeakingBatch _, _, next => next = world

-- By itself the room changes in any way but these: members, owner, name.
def RoomChanges (next : ListingWorld) : Prop :=
  ∃ snapshot, next = { world with entry := world.entry.map fun entry => { entry with snapshot } }

end

def listingEnvironment : Environment ListingWorld ListingCall ListingReply where
  answers := ListingAnswers
  moves := RoomChanges

structure EncryptionInStep (world : ListingWorld) : Prop where
  unlisted : ∀ record, world.listing = some record → record.settings.listed = false → world.encrypted = true
  catalog : ∀ entry, world.entry = some entry → entry.endToEndEncrypted = true → world.encrypted = true

-- What is written in the Matrix room is the time of the first listing.
def TimesInStep (world : ListingWorld) : Prop := ∀ record, world.listing = some record → world.listedAt = some record.firstListedAt

def versionOf (listing : Option PrivateRoomListingRecord) : AggregateVersion := listing.elim .initial PrivateRoomListingRecord.version

-- The row is as it was, or its version is the next one.
def RowFollows (old new : Option PrivateRoomListingRecord) : Prop :=
  new = old ∨ ∃ record, new = some record ∧ (versionOf old).next = .ok record.version ∧
    ∀ previous, old = some previous → record.firstListedAt = previous.firstListedAt

structure ListingOn (world next : ListingWorld) : Prop where
  encrypted : world.encrypted = true → next.encrypted = true
  catalog : ∀ entry, world.entry = some entry → entry.endToEndEncrypted = true →
    ∃ entry', next.entry = some entry' ∧ entry'.endToEndEncrypted = true

def MayCall : ListingCall → ListingWorld → Prop
  | .saveListing record expected _, world => (record.settings.listed = false → world.encrypted = true) ∧
      (expected.getD .initial).next = .ok record.version
  | .createListedRoom _ listing, _ => AggregateVersion.initial.next = .ok listing.version
  | .markRoomEncrypted, world => world.encrypted = true
  | _, _ => True

section

variable (world next : ListingWorld)

theorem listing_on_refl : ListingOn world world := ⟨id, fun entry found encrypted => ⟨entry, found, encrypted⟩⟩

theorem listing_on_trans (first second third : ListingWorld) (early : ListingOn first second) (late : ListingOn second third) :
    ListingOn first third := by
  refine ⟨late.encrypted ∘ early.encrypted, fun entry found encrypted => ?_⟩
  obtain ⟨middle, found', encrypted'⟩ := early.catalog entry found encrypted
  exact late.catalog middle found' encrypted'

inductive Effect : ListingCall → Prop where
  | nothing (call : ListingCall) (same : next = world) : Effect call
  | listed (at' : UtcMillis) (made : next = { world with listedAt := some at' }) : Effect (.markListed at')
  | encrypted (made : next = { world with encrypted := true }) : Effect .enableEncryption
  | marked (made : next = marked world) : Effect .markRoomEncrypted
  | saved (record : PrivateRoomListingRecord) (expected : Option AggregateVersion) (owner : PrincipalId) (row : PrivateRoomListingRecord)
      (saved : rowSaved world record expected = some row) (made : next = { world with listing := some row }) :
      Effect (.saveListing record expected owner)
  | created (snapshot : PrivateRoomSnapshot) (listing : PrivateRoomListingRecord) (entry : world.entry = none) (row : world.listing = none)
      (listed : listing.settings.listed = true) (made : next = created world snapshot listing) : Effect (.createListedRoom snapshot listing)

theorem answered_effect (answers : ListingAnswers world call answer next) : Effect world next call := by
  cases call with
  | markListed at' =>
    rcases answers with ⟨_, made⟩ | ⟨_, same | made⟩
    · exact .listed at' made
    · exact .nothing _ same
    · exact .listed at' made
  | enableEncryption =>
    rcases answers with ⟨_, made⟩ | ⟨_, same | made⟩
    · exact .encrypted made
    · exact .nothing _ same
    · exact .encrypted made
  | markRoomEncrypted =>
    rcases answers with ⟨_, made⟩ | ⟨_, same | made⟩
    · exact .marked made
    · exact .nothing _ same
    · exact .marked made
  | saveListing record expected owner =>
    rcases answers with ⟨⟨_, possible⟩, made, _⟩ | ⟨same, _⟩
    · obtain ⟨row, saved⟩ := Option.isSome_iff_exists.mp possible
      exact .saved record expected owner row saved (saved ▸ made)
    · exact .nothing _ same
  | createListedRoom snapshot listing =>
    rcases answers with ⟨possible, made, _⟩ | ⟨same, _⟩
    · simp only [creatable, Bool.and_eq_true, Option.isNone_iff_eq_none] at possible
      obtain ⟨⟨⟨entry, row⟩, listed⟩, _⟩ := possible
      exact .created snapshot listing entry row listed made
    · exact .nothing _ same
  | findByCatalog => exact .nothing _ answers.1
  | contentPolicy => exact .nothing _ answers.1
  | listing => exact .nothing _ answers.1
  | _ => exact .nothing _ answers

theorem row_saved (saved : rowSaved world record expected = some row) :
    expected = world.listing.map PrivateRoomListingRecord.version ∧ row.settings = record.settings ∧ row.version = record.version ∧
      (world.listing = none → row = record) ∧ ∀ previous, world.listing = some previous → row.firstListedAt = previous.firstListedAt := by
  cases stored : world.listing with
  | none =>
    cases expected with
    | none =>
      rw [rowSaved, stored] at saved
      cases saved
      exact ⟨rfl, rfl, rfl, fun _ => rfl, nofun⟩
    | some version =>
      rw [rowSaved, stored] at saved
      cases saved
  | some old =>
    cases expected with
    | none =>
      rw [rowSaved, stored] at saved
      cases saved
    | some version =>
      rw [rowSaved, stored] at saved
      simp only [updateIf] at saved
      split at saved
      case isTrue fits =>
        cases saved
        exact ⟨congrArg some (of_decide_eq_true fits).symm, rfl, rfl, nofun, fun previous same => by cases same; rfl⟩
      case isFalse => cases saved

theorem room_changes (sound : EncryptionInStep world) (changes : RoomChanges world next) :
    EncryptionInStep next ∧ ListingOn world next := by
  obtain ⟨snapshot, rfl⟩ := changes
  refine ⟨⟨sound.unlisted, ?_⟩, ⟨id, ?_⟩⟩
  · intro entry found encrypted
    obtain ⟨old, found', rfl⟩ := Option.map_eq_some_iff.mp found
    exact sound.catalog old found' encrypted
  · intro entry found encrypted
    exact ⟨{ entry with snapshot }, Option.map_eq_some_iff.mpr ⟨entry, found, rfl⟩, encrypted⟩

theorem effect_sound (sound : EncryptionInStep world) (may : MayCall call world) (effect : Effect world next call) :
    EncryptionInStep next ∧ ListingOn world next := by
  cases effect with
  | nothing _ same =>
    subst same
    exact ⟨sound, listing_on_refl _⟩
  | listed at' made =>
    subst made
    exact ⟨⟨sound.unlisted, sound.catalog⟩, id, fun entry found encrypted => ⟨entry, found, encrypted⟩⟩
  | encrypted made =>
    subst made
    exact ⟨⟨fun _ _ _ => rfl, fun _ _ _ => rfl⟩, fun _ => rfl, fun entry found encrypted => ⟨entry, found, encrypted⟩⟩
  | marked made =>
    subst made
    refine ⟨⟨fun _ _ _ => may, fun _ _ _ => may⟩, fun _ => may, fun entry found _ => ?_⟩
    exact ⟨{ entry with endToEndEncrypted := true }, Option.map_eq_some_iff.mpr ⟨entry, found, rfl⟩, rfl⟩
  | saved record expected owner row saved made =>
    subst made
    obtain ⟨_, settings, _⟩ := row_saved world saved
    refine ⟨⟨?_, sound.catalog⟩, id, fun entry found encrypted => ⟨entry, found, encrypted⟩⟩
    intro stored same unlisted
    cases same
    exact may.1 (settings ▸ unlisted)
  | created snapshot listing entry row listed made =>
    subst made
    refine ⟨⟨?_, ?_⟩, id, ?_⟩
    · intro record same unlisted
      cases same
      cases listed.symm.trans unlisted
    · intro entry' same encrypted
      cases same
      cases encrypted
    · intro entry' found _
      cases entry.symm.trans found

theorem row_follows (may : MayCall call world) (effect : Effect world next call) : RowFollows world.listing next.listing := by
  cases effect with
  | nothing _ same => exact .inl (same ▸ rfl)
  | listed at' made => exact .inl (made ▸ rfl)
  | encrypted made => exact .inl (made ▸ rfl)
  | marked made => exact .inl (made ▸ rfl)
  | saved record expected owner row saved made =>
    subst made
    obtain ⟨based, _, version, _, kept⟩ := row_saved world saved
    refine .inr ⟨row, rfl, ?_, kept⟩
    have follows := may.2
    rw [based] at follows
    rw [version, ← follows, versionOf]
    cases world.listing <;> rfl
  | created snapshot listing entry row listed made =>
    subst made
    rw [row]
    exact .inr ⟨listing, rfl, may, nofun⟩

theorem stale_save (stale : expected ≠ world.listing.map PrivateRoomListingRecord.version)
    (answers : ListingAnswers world (.saveListing record expected owner) answer next) : next = world ∧ answer ≠ .ok .saved := by
  rcases answers with ⟨⟨_, possible⟩, _, _⟩ | refused
  · obtain ⟨row, saved⟩ := Option.isSome_iff_exists.mp possible
    exact absurd (row_saved world saved).1 stale
  · exact refused

end

def listingRelyOn : Rely listingEnvironment where
  invariant := EncryptionInStep
  later := ListingOn
  same := listing_on_refl
  trans := listing_on_trans
  moved := room_changes

def settingsDiscipline : Discipline listingEnvironment SettingsRequest SettingsAnswer where
  toRely := listingRelyOn
  may := fun _ _ => MayCall
  promise := fun _ _ _ _ => True
  answered := fun _ _ world _ _ next sound _ may answers => effect_sound world next sound may (answered_effect world next answers)

open Library
open PrivateRooms (PrivateRoomListingSaveOutcome)

abbrev SettingsTells {ε α : Type} (told : α → ListingWorld → Prop) (program : ExceptT ε (Program ListingCall ListingReply) α)
    (world : ListingWorld) : Prop := Tells listingRelyOn MayCall told program world

def Encrypted (loaded : LoadedRoom) (world : ListingWorld) : Prop :=
  (loaded.encrypted = true → world.encrypted = true) ∧
    ∀ record, loaded.listing = some record → record.settings.listed = false → world.encrypted = true

theorem encrypted_lasting : listingRelyOn.Lasting (Encrypted loaded) := by
  intro state next _ later before
  exact ⟨fun loads => later.encrypted (before.1 loads), fun record found unlisted => later.encrypted (before.2 record found unlisted)⟩

theorem switched_lasting : listingRelyOn.Lasting fun world => world.encrypted = true :=
  fun _ _ _ later before => later.encrypted before

section

variable (operation : String) (world : ListingWorld)

theorem free_call {read : ListingReply call → Except ε α} (free : ∀ now, MayCall call now) :
    SettingsTells (fun _ _ => True) (consult call read) world :=
  tells_nothing fun now _ _ => free now

theorem plain_settled : SettingsTells (fun _ _ => True) (settled result) world :=
  tells_settled fun _ _ _ _ _ => trivial

theorem plain_pure : SettingsTells (fun _ _ => True) (pure value : ExceptT ε (Program ListingCall ListingReply) α) world :=
  tells_pure fun _ _ _ => trivial

theorem policy_tells : SettingsTells (fun policy now => policy = some true → now.encrypted = true)
    (consult .contentPolicy (Except.mapError (repository operation))) world := by
  refine tells_call (fun _ _ _ => trivial) ?_ ?_
  · exact fun policy state next _ later before on => later.encrypted (before on)
  · rintro now answer after policy sound _ ⟨same, reads⟩ _ known on
    subst same
    obtain rfl := reads policy (map_error_read known)
    obtain ⟨entry, found, marked⟩ := Option.map_eq_some_iff.mp on
    exact sound.catalog entry found marked

theorem listing_tells : SettingsTells (fun listing now => ∀ record, listing = some record → record.settings.listed = false → now.encrypted = true)
    (consult .listing (Except.mapError (repository operation))) world := by
  refine tells_call (fun _ _ _ => trivial) ?_ ?_
  · exact fun listing state next _ later before record found unlisted => later.encrypted (before record found unlisted)
  · rintro now answer after listing sound _ ⟨same, reads⟩ _ known record found unlisted
    subst same
    obtain rfl := reads listing (map_error_read known)
    exact sound.unlisted record found unlisted

theorem joined_room_tells {now : UtcMillis} : SettingsTells Encrypted (joinedRoom operation actor now) world := by
  refine tells_then _ (plain_settled world) fun _ first _ _ _ => ?_
  refine tells_then _ (free_call first fun _ => trivial) fun found second _ _ _ => ?_
  refine tells_then _ (plain_settled second) fun snapshot third _ _ _ => ?_
  refine tells_then _ (policy_tells operation third) fun policy fourth sound _ on => ?_
  refine tells_then (fun encrypted now => encrypted = true → now.encrypted = true) ?_ fun encrypted fifth _ _ on' => ?_
  · refine tells_settled fun encrypted now _ later known switched => ?_
    subst switched
    cases policy with
    | none => cases known
    | some value =>
      cases known
      exact later.encrypted (on rfl)
  refine tells_then _ (listing_tells operation fifth) fun listing sixth _ later listed => ?_
  refine tells_then _ (free_call sixth fun _ => trivial) fun hold seventh _ later' _ => ?_
  refine tells_pure fun last _ later'' => ⟨fun switched => ?_, fun record found unlisted => ?_⟩
  · exact later''.encrypted (later'.encrypted (later.encrypted (on' switched)))
  · exact later''.encrypted (later'.encrypted (listed record found unlisted))

theorem save_tells
    (encrypted : record.settings.listed = false → world.encrypted = true) (follows : (expected.getD .initial).next = .ok record.version) :
    SettingsTells (fun _ _ => True) (save operation record expected owner) world := by
  refine tells_then (fun _ _ => True) ?_ fun outcome first _ _ _ => ?_
  · exact tells_nothing fun now _ later => ⟨fun unlisted => later.encrypted (encrypted unlisted), follows⟩
  · cases outcome with
    | saved => exact plain_pure first
    | ownerLimitReached => exact plain_settled first
    | shareCodeTaken => exact plain_pure first
    | stale => exact plain_settled first

theorem new_share_code_tells : SettingsTells (fun _ _ => True) (newShareCode operation) world :=
  free_call world fun _ => trivial

theorem replacement_tells : SettingsTells (fun _ _ => True) (replacementShareCode operation previous attempts) world := by
  induction attempts generalizing world with
  | zero => exact plain_settled world
  | succ attempts ih =>
    refine tells_then _ (new_share_code_tells operation world) fun code first _ _ _ => ?_
    by_cases fresh : code ≠ previous
    · simp only [if_pos fresh]
      exact plain_pure first
    · simp only [if_neg fresh]
      exact ih first

theorem next_version_follows (known : nextVersion operation listing = .ok version) :
    ((listing.map PrivateRoomListingRecord.version).getD .initial).next = .ok version := by
  have next := map_error_read known
  cases listing <;> exact next

theorem save_listed_tells (loaded : LoadedRoom) (owner : PrincipalId) (attempts : Nat) (record : PrivateRoomListingRecord)
    (listed : record.settings.listed = true)
    (follows : ((loaded.listing.map PrivateRoomListingRecord.version).getD .initial).next = .ok record.version) :
    SettingsTells (fun _ _ => True) (saveListed operation loaded owner attempts record) world := by
  induction attempts generalizing world record with
  | zero => exact plain_settled world
  | succ attempts ih =>
    refine tells_then _ (save_tells operation world (fun unlisted => ?_) follows) fun outcome first _ _ _ => ?_
    · cases listed.symm.trans unlisted
    cases outcome with
    | saved => exact plain_pure first
    | shareCodeTaken =>
      by_cases new : loaded.listing.isNone = true
      · simp only [if_pos new]
        refine tells_then _ (new_share_code_tells operation first) fun code second _ _ _ => ?_
        exact ih second { record with shareCode := code } listed follows
      · simp only [if_neg new]
        exact plain_settled first
    | ownerLimitReached => exact plain_settled first
    | stale => exact plain_settled first

theorem list_tells (listed : request.settings.listed = true) :
    SettingsTells (fun _ _ => True) (list operation request loaded) world := by
  refine tells_then (fun _ _ => True) ?_ fun _ first _ _ _ => ?_
  · unfold ensureListable
    split
    · refine tells_then _ (free_call world fun _ => trivial) fun rooms first _ _ _ => ?_
      exact plain_settled first
    · exact plain_pure world
  refine tells_then (fun _ _ => True) ?_ fun firstListedAt second _ _ _ => ?_
  · cases loaded.listing with
    | some listing => exact plain_pure first
    | none =>
      refine tells_then _ (free_call first fun _ => trivial) fun _ second _ _ _ => ?_
      exact plain_pure second
  refine tells_then (fun _ _ => True) ?_ fun shareCode third _ _ _ => ?_
  · cases loaded.listing with
    | some listing => exact plain_pure second
    | none => exact new_share_code_tells operation second
  refine tells_then (fun version _ => nextVersion operation loaded.listing = .ok version) ?_ fun version fourth _ _ next => ?_
  · exact tells_settled fun version _ _ _ known => known
  · exact save_listed_tells operation fourth loaded _ _ _ listed (next_version_follows operation next)

theorem encrypt_tells (already : encrypted = true → world.encrypted = true) :
    SettingsTells (fun _ now => now.encrypted = true) (encryptRoom operation encrypted) world := by
  unfold encryptRoom
  cases encrypted with
  | true => exact tells_pure fun now _ later => later.encrypted (already rfl)
  | false =>
    refine tells_then (fun _ now => now.encrypted = true) ?_ fun _ first _ _ on => ?_
    · refine tells_call (fun _ _ _ => trivial) (fun _ => switched_lasting) ?_
      rintro now answer after ⟨⟩ _ _ answers _ known
      have ok := map_error_read known
      rcases answers with ⟨_, rfl⟩ | ⟨⟨failure, failed⟩, _⟩
      · rfl
      · cases ok.symm.trans failed
    · have marks : SettingsTells (fun _ _ => True) (consult .markRoomEncrypted (Except.mapError (repository operation))) first :=
        tells_nothing fun now _ later => later.encrypted on
      exact tells_weaker (fun _ _ _ both => both.2) (tells_frame switched_lasting on marks)

theorem unlist_tells (encrypted : Encrypted loaded world) :
    SettingsTells (fun _ _ => True) (unlist operation request loaded) world := by
  unfold unlist
  split
  · exact plain_pure world
  · rename_i previous found
    refine tells_then _ (encrypt_tells operation world encrypted.1) fun _ first _ _ on => ?_
    refine tells_then (fun version now => nextVersion operation (some previous) = .ok version ∧ now.encrypted = true) ?_
      fun version second _ _ told => ?_
    · exact tells_settled fun version now _ later known => ⟨known, later.encrypted on⟩
    · have follows := next_version_follows operation told.1
      refine tells_then _ (save_tells operation second (fun _ => told.2) follows) fun outcome third _ _ _ => ?_
      cases outcome with
      | saved =>
        refine tells_then _ (free_call third fun _ => trivial) fun _ fourth _ _ _ => ?_
        exact plain_pure fourth
      | shareCodeTaken => exact plain_settled third
      | ownerLimitReached => exact plain_settled third
      | stale => exact plain_settled third

theorem save_replaced_tells (loaded : LoadedRoom) (owner : PrincipalId) (previous : PrivateRoomListingRecord) (attempts : Nat)
    (record : PrivateRoomListingRecord) (encrypted : record.settings.listed = false → world.encrypted = true)
    (follows : previous.version.next = .ok record.version) :
    SettingsTells (fun _ _ => True) (saveReplaced operation loaded owner previous attempts record) world := by
  induction attempts generalizing world record with
  | zero => exact plain_settled world
  | succ attempts ih =>
    refine tells_then _ (save_tells operation world encrypted follows) fun outcome first _ later _ => ?_
    cases outcome with
    | saved => exact plain_pure first
    | shareCodeTaken =>
      refine tells_then _ (replacement_tells operation first) fun code second _ later' _ => ?_
      exact ih second { record with shareCode := code } (fun unlisted => later'.encrypted (later.encrypted (encrypted unlisted))) follows
    | ownerLimitReached => exact plain_settled first
    | stale => exact plain_settled first

end

section

variable {world : ListingWorld}

theorem update_tells {request : UpdateListing} : SettingsTells (fun _ _ => True) (update request) world := by
  refine tells_then _ (joined_room_tells _ world) fun loaded first _ _ encrypted => ?_
  refine tells_then (fun _ now => Encrypted loaded now) ?_ fun _ second _ _ encrypted' => ?_
  · exact tells_settled fun _ now sound later _ => encrypted_lasting first now sound later encrypted
  by_cases listed : request.settings.listed = true
  · simp only [if_pos listed]
    exact list_tells _ second listed
  · simp only [if_neg listed]
    exact unlist_tells _ second encrypted'

theorem change_share_code_tells {request : ChangeShareCode} : SettingsTells (fun _ _ => True) (changeShareCode request) world := by
  refine tells_then _ (joined_room_tells _ world) fun loaded first _ _ encrypted => ?_
  refine tells_then (fun _ now => Encrypted loaded now) ?_ fun _ second _ _ encrypted' => ?_
  · exact tells_settled fun _ now sound later _ => encrypted_lasting first now sound later encrypted
  cases found : loaded.listing with
  | none => exact plain_settled second
  | some previous =>
    refine tells_then _ (replacement_tells _ second) fun code third _ later _ => ?_
    refine tells_then (fun version now => nextVersion "private_room.listing.share_code" (some previous) = .ok version ∧ Encrypted loaded now) ?_ fun version fourth _ _ told => ?_
    · refine tells_settled fun version now sound later' known => ⟨known, ?_⟩
      exact encrypted_lasting second now sound (listing_on_trans _ _ _ later later') encrypted'
    · exact save_replaced_tells _ fourth loaded _ previous _ _ (fun unlisted => told.2.2 previous found unlisted)
        (next_version_follows _ told.1)

end

section

variable (world : ListingWorld)

variable (request : CreatePrivateRoom)

theorem same_room_tells : SettingsTells (fun _ _ => True) (ensureSameRoom request existing) world := by
  refine tells_then _ (plain_settled world) fun _ first _ _ _ => ?_
  refine tells_then _ (free_call first fun _ => trivial) fun listing second _ _ _ => ?_
  refine tells_then _ (plain_settled second) fun _ third _ _ _ => ?_
  exact plain_pure third

theorem created_by_retry_tells : SettingsTells (fun _ _ => True) (ensureCreatedByRetry request) world := by
  refine tells_then _ (free_call world fun _ => trivial) fun found first _ _ _ => ?_
  refine tells_then _ (plain_settled first) fun existing second _ _ _ => ?_
  exact same_room_tells second request

theorem prepare_tells (owner : PrincipalId) (invitations : List PrivateRoomInvitation) (invited : List PrincipalId)
    (assignments : List (PrivateRooms.RoomUser × Bool)) (room : PrivateRoom) :
    SettingsTells (fun _ _ => True) (prepareInvitations owner invitations invited assignments room) world := by
  induction invitations generalizing world invited assignments room with
  | nil => exact plain_pure world
  | cons invitation rest ih =>
    refine tells_then _ (plain_settled world) fun _ first _ _ _ => ?_
    refine tells_then _ (plain_settled first) fun _ second _ _ _ => ?_
    refine tells_then _ (plain_settled second) fun next third _ _ _ => ?_
    refine tells_then _ (free_call third fun _ => trivial) fun found fourth _ _ _ => ?_
    refine tells_then _ (plain_settled fourth) fun user fifth _ _ _ => ?_
    refine tells_then _ (plain_settled fifth) fun _ sixth _ _ _ => ?_
    exact ih sixth _ _ _

theorem share_code_tells : SettingsTells (fun _ _ => True) publicShareCode world := free_call world fun _ => trivial

theorem save_created_tells (snapshot : PrivateRoomSnapshot) (attempts : Nat)
    (record : PrivateRoomListingRecord) (follows : AggregateVersion.initial.next = .ok record.version) :
    SettingsTells (fun _ _ => True) (saveCreated request snapshot attempts record) world := by
  induction attempts generalizing world record with
  | zero => exact plain_settled world
  | succ attempts ih =>
    refine tells_then _ (free_call world fun _ => follows) fun outcome first _ _ _ => ?_
    cases outcome with
    | saved => exact plain_pure first
    | ownerLimitReached => exact plain_settled first
    | shareCodeTaken =>
      refine tells_then _ (share_code_tells first) fun code second _ _ _ => ?_
      exact ih second { record with shareCode := code } follows
    | stale => exact created_by_retry_tells first request

theorem save_public_tells : SettingsTells (fun _ _ => True) (savePublicRoom request snapshot) world := by
  refine tells_then _ (free_call world fun _ => trivial) fun _ first _ _ _ => ?_
  refine tells_then _ (share_code_tells first) fun code second _ _ _ => ?_
  refine tells_then (fun version _ => AggregateVersion.initial.next = .ok version) ?_ fun version third _ _ next => ?_
  · exact tells_settled fun version _ _ _ known => map_error_read known
  · exact save_created_tells third request snapshot _ _ next

theorem create_tells : SettingsTells (fun _ _ => True) (create request) world := by
  refine tells_then _ (plain_settled world) fun _ first _ _ _ => ?_
  refine tells_then (fun _ _ => True) ?_ fun _ second _ _ _ => ?_
  · unfold ensureCreator
    split
    · exact plain_pure first
    · refine tells_then _ (free_call first fun _ => trivial) fun owned second _ _ _ => ?_
      exact plain_settled second
    · exact plain_settled first
  refine tells_then _ (plain_settled second) fun _ third _ _ _ => ?_
  refine tells_then _ (free_call third fun _ => trivial) fun found fourth _ _ _ => ?_
  cases found with
  | some existing => exact same_room_tells fourth request
  | none =>
    refine tells_then (fun _ _ => True) ?_ fun _ fifth _ _ _ => ?_
    · refine tells_then _ (free_call fourth fun _ => trivial) fun listed fifth _ _ _ => ?_
      exact plain_settled fifth
    refine tells_then _ (prepare_tells fifth _ _ _ _ _) fun prepared sixth _ _ _ => ?_
    refine tells_then _ (free_call sixth fun _ => trivial) fun _ seventh _ _ _ => ?_
    refine tells_then _ (free_call seventh fun _ => trivial) fun _ eighth _ _ _ => ?_
    exact save_public_tells eighth request

end

abbrev SettingsScene := Scene ListingWorld SettingsRequest ListingCall ListingReply SettingsAnswer

abbrev SettingsTurns : SettingsScene → Turn SettingsRequest → SettingsScene → Prop := Turns listingEnvironment SettingsRequest.serve

def SettingsRuns : SettingsScene → List (Turn SettingsRequest) → SettingsScene → Prop := Runs SettingsTurns

theorem serve_safe (request : SettingsRequest) (world : ListingWorld) : settingsDiscipline.SafeCall request world request.serve world := by
  have ends : ∀ {ε α : Type} (program : ExceptT ε (Program ListingCall ListingReply) α) (answer : Except ε α → SettingsAnswer),
      SettingsTells (fun _ _ => True) program world →
        settingsDiscipline.SafeCall request world (program.run.bind fun result => .done (answer result)) world := by
    intro ε α program answer tells
    exact safe_bind _ _ program.run _ world tells fun _ _ _ _ _ => fun _ _ _ => trivial
  cases request with
  | update request => exact ends (update request) .viewed (update_tells)
  | changeShareCode request => exact ends (changeShareCode request) .viewed (change_share_code_tells)
  | create request => exact ends (create request) .created (create_tells world request)

theorem settings_kept (kept : settingsDiscipline.Kept start)
    (run : SettingsRuns start turns scene) : settingsDiscipline.Kept scene ∧ ListingOn start.world scene.world :=
  kept_run (fun request state _ => serve_safe request state) kept run

end AgentRoom.Listing
